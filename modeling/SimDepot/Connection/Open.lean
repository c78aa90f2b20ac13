import SimDepot.Connection.Tables
import SimDepot.Error.Basic

/-!
# Opening the database

The directory of the database is made, the address is checked and its options are read, the file is
opened, and the tables are made. Each step can fail in its own way; what the steps before it did to
the files stays.

Reference: `create_connection`.
-/

namespace SimDepot.Connection

/-- A database could not be opened or used. -/
abbrev Outcome (α : Type) := Except Error α × FileTree

/-- A refusal to open the database. -/
def refuse (r : Refusal) : Error := .store (.refused .connection r)

/-- Makes the directory of the database that an address names. -/
def prepareDirectory (t : FileTree) (address : String) : Except FileFailure Unit × FileTree :=
  match directoryOf? address with
  | some (isAbsolute, parts) => t.ensureDirectories (FileTree.start isAbsolute) parts
  | none => (.ok (), t)

/-- Opens the database that an address names. -/
def connect (t : FileTree) (address : String) : Outcome Connected :=
  match prepareDirectory t address with
  | (.error failure, t) => (.error (.file failure), t)
  | (.ok (), t) =>
    let failed (failure : StoreFailure) : Outcome Connected := (.error (.store failure), t)
    match Url.ofText? address with
    | none =>
      failed (.unconnected ("The connection string '" ++ address ++ "' cannot be parsed."))
    | some u =>
      if u.scheme ≠ "sqlite" then
        failed (.unconnected
          ("The connection string '" ++ address ++ "' has no supporting driver."))
      else match Options.ofUrl address with
        | .error failure => failed failure
        | .ok o =>
          match Target.ofOptions o with
          | .error failure => failed failure
          | .ok target =>
            let (result, t) := target.opened t
            (result.mapError refuse, t)

/-- A refusal to use the database. -/
def refuseUse (r : Refusal) : Error := .store (.refused .execution r)

/-- Makes the tables of a database that is open, and closes it. What is written into its file is not
followed. -/
def makeTables (t : FileTree) (c : Connected) : Outcome Unit :=
  let refused (r : Refusal) (t : FileTree) : Outcome Unit := (.error (refuseUse r), t)
  match c.place with
  | none => if c.target.isReadOnly then refused .readOnly t else (.ok (), t)
  | some place =>
    let file : DatabaseFile := ⟨match t.node? place with
      | some (.file bytes) => bytes.toArray
      | _ => #[]⟩
    match c.recover t place file with
    | (.error r, t) => refused r t
    | (.ok hasLog, t) =>
      let closed (t : FileTree) : FileTree := c.closed t place hasLog
      match Reading.ofFile? file with
      | .error r => refused r (closed t)
      | .ok reading =>
        let canChange := do
          reading.begin (c.target.isReadOnly || hasLog && !c.canLog t place)
          if !hasLog then Connected.checkJournal t place
        let (result, begun) := reading.make canChange false wanted
        let t := closed (if begun ∧ !hasLog then Companion.journal.remove t place else t)
        (result.mapError refuseUse, t)

/-- Opens the database that the environment names, or the usual one, and makes its tables. -/
def establish (t : FileTree) (environment : Option String) : Outcome Unit :=
  match connect t (url environment) with
  | (.error e, t) => (.error e, t)
  | (.ok c, t) => makeTables t c

end SimDepot.Connection
