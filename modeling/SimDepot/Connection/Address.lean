import SimDepot.Http.Url.Reader
import SimDepot.Store.Failure
import SimDepot.Text.Hidden
import SimDepot.Text.Utf8

/-!
# Addresses of databases

A database address begins with `sqlite:` and names a file, percent-encoded, or `:memory:`; a query
tells how to open it. `directoryOf?` is the directory that is made before the file is opened; it is
read off the address as it stands.

Reference: `get_database_url`, `sqlite_file_dir`.
-/

namespace SimDepot.Connection

/-- The address where the environment names none. -/
def defaultUrl : String := "sqlite://data/sim_inventory.sqlite?mode=rwc"

/-- The address of the database. -/
def url (environment : Option String) : String := environment.getD defaultUrl

/-- The characters behind a prefix, if they begin with it. -/
def behind? (start : String) (cs : List Char) : Option (List Char) :=
  if start.toList.isPrefixOf cs then some (cs.drop start.length) else none

/-- The characters behind a prefix, taken off as often as they begin with it. -/
def behindAll (start : String) (cs : List Char) : (fuel : Nat) → List Char
  | 0 => cs
  | fuel + 1 =>
    match behind? start cs with
    | some rest => behindAll start rest fuel
    | none => cs

/-- The parts of a file name; empty parts do not count. -/
def nameParts (cs : List Char) : List String :=
  ((Text.parts '/' cs).map String.ofList).filter (· ≠ "")

/-- The parts of a file name, of which `.` counts only in front. -/
def components (cs : List Char) : List String :=
  match nameParts cs with
  | "." :: rest =>
    let rest := rest.filter (· ≠ ".")
    if cs.head? = some '/' then rest else "." :: rest
  | parts => parts.filter (· ≠ ".")

/-- The directory of the file with this name, in parts, and whether it is an absolute name; nothing
where the file is in the working directory. -/
def directoryIn? (name : List Char) : Option (Bool × List String) :=
  let isAbsolute := name.head? == some '/'
  let parts := components name
  let parent := parts.dropLast
  if parts.isEmpty ∨ (parent.isEmpty ∧ !isAbsolute) then none else some (isAbsolute, parent)

/-- The file name in an address, as it is written there. -/
def nameIn? (address : String) : Option (List Char) :=
  (behind? "sqlite://" address.toList).map fun rest => rest.takeWhile (· != '?')

/-- The directory of the file that an address names. -/
def directoryOf? (address : String) : Option (Bool × List String) :=
  (nameIn? address).bind directoryIn?

/-! ## Options -/

/-- How a database is opened. -/
structure Options where
  /-- The name of the file. -/
  file : String
  /-- The database is kept in memory. -/
  inMemory : Bool
  /-- Nothing is to be written. -/
  readOnly : Bool
  /-- The file is made if there is none. -/
  create : Bool
  /-- Nobody changes the file, nor does the database. -/
  immutable : Bool
  /-- How files are accessed, if not in the usual way. -/
  vfs : Option String
  deriving DecidableEq, Repr

/-- The text of a fault of UTF-8. -/
def utf8Message : Nat × Option Nat → String
  | (index, some n) =>
    "invalid utf-8 sequence of " ++ toString n ++ " bytes from index " ++ toString index
  | (index, none) => "incomplete utf-8 byte sequence from index " ++ toString index

/-- A failure of the options of an address. -/
def misconfigured (text : String) : StoreFailure :=
  .unconnected ("error with configuration: " ++ text)

/-- A value that an option does not have. -/
def unknownValue (value option : String) : StoreFailure :=
  misconfigured ("unknown value " ++ Text.quoted value ++ " for `" ++ option ++ "`")

/-- The options with one more from the query. -/
def Options.set (o : Options) (name value : String) : Except StoreFailure Options :=
  match name with
  | "mode" =>
    match value with
    | "ro" => .ok { o with readOnly := true }
    | "rw" => .ok o
    | "rwc" => .ok { o with create := true }
    | "memory" => .ok { o with inMemory := true }
    | _ => .error (unknownValue value name)
  | "cache" =>
    if ["private", "shared"].contains value then .ok o else .error (unknownValue value name)
  | "immutable" =>
    if ["true", "1"].contains value then .ok { o with immutable := true }
    else if ["false", "0"].contains value then .ok { o with immutable := false }
    else .error (unknownValue value name)
  | "vfs" => .ok { o with vfs := some value }
  | _ => .error (misconfigured
      ("unknown query parameter `" ++ name ++ "` while parsing connection URL"))

/-- The text of a part of a query: a plus sign is a blank. -/
def queryText (cs : List Char) : String :=
  Utf8.lenient (Percent.decode (cs.map fun c => if c = '+' then ' ' else c))

/-- The names and values in a query. -/
def queryPairs (cs : List Char) : List (String × String) :=
  ((Text.parts '&' cs).filter fun p => !p.isEmpty).map fun p =>
    let name := p.takeWhile (· != '=')
    (queryText name, queryText (p.drop (name.length + 1)))

/-- The options of an address without a query. -/
def Options.plain (file : String) : Options where
  file := file
  inMemory := false
  readOnly := false
  create := false
  immutable := false
  vfs := none

/-- The options that an address describes. -/
def Options.ofUrl (address : String) : Except StoreFailure Options := do
  let cs := address.toList
  let cs := behindAll "sqlite:" (behindAll "sqlite://" cs cs.length) cs.length
  let path := cs.takeWhile (· != '?')
  let query := cs.drop (path.length + 1)
  let start ←
    if path = ":memory:".toList then pure { plain "" with inMemory := true }
    else
      let bytes := Percent.decode path
      match Utf8.text? bytes with
      | some file => pure (plain file)
      | none => throw (misconfigured (utf8Message ((Utf8.fault? bytes).getD (0, none))))
  (queryPairs query).foldlM (fun o (name, value) => o.set name value) start

end SimDepot.Connection
