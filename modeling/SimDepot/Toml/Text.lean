import SimDepot.Toml.Scalar
import SimDepot.Toml.Tree

/-!
# Reading TOML

`Toml.read?` reads a whole text as a document, or finds that the text is not well-formed. A byte
order mark may precede the text. A line holds a header, a key with its value, or nothing, and may
end with a comment. Arrays may go over several lines; inline tables may not.
-/

namespace SimDepot.Toml

/-- What follows blanks, line breaks and comments; a comment has to end with its line. -/
def skipSpace (cs : List Char) : (fuel : Nat) → Option (List Char)
  | 0 => none
  | fuel + 1 =>
    match skipBlanks cs with
    | '#' :: rest => do skipSpace (← lineBreak? (skipComment ('#' :: rest))) fuel
    | cs =>
      match lineBreak? cs with
      | some rest => skipSpace rest fuel
      | none => some cs

mutual

/-- A value that is `depth` levels deep. -/
def readValue (depth : Nat) (cs : List Char) : (fuel : Nat) → Option (Document × List Char)
  | 0 => none
  | fuel + 1 =>
    match cs with
    | '[' :: rest =>
      if maxDepth ≤ depth + 1 then none
      else do
        let (items, rest) ← readItems (depth + 1) [] rest fuel
        return (.sequence items true, rest)
    | '\x7b' :: rest =>
      if maxDepth ≤ depth + 1 then none
      else do
        let (members, rest) ← readMembers (depth + 1) [] rest fuel
        return (.mapping (memberDocuments members) true, rest)
    | cs => readScalar fuel cs

/-- The rest of an array behind a bracket or a comma; `done` is in reverse order. -/
def readItems (depth : Nat) (done : List Document) (cs : List Char) :
    (fuel : Nat) → Option (List Document × List Char)
  | 0 => none
  | fuel + 1 => do
    match ← skipSpace cs fuel with
    | ']' :: rest => return (done.reverse, rest)
    | cs =>
      let (d, rest) ← readValue depth cs fuel
      match ← skipSpace rest fuel with
      | ',' :: rest => readItems depth (d :: done) rest fuel
      | ']' :: rest => return ((d :: done).reverse, rest)
      | _ => none

/-- The rest of an inline table behind its brace or a comma. -/
def readMembers (depth : Nat) (done : Members) (cs : List Char) :
    (fuel : Nat) → Option (Members × List Char)
  | 0 => none
  | fuel + 1 =>
    match skipBlanks cs with
    | '\x7d' :: rest => if done.isEmpty then some (done, rest) else none
    | cs => do
      let ((path, key), rest) ← readKey fuel cs
      let rest ← after? '=' rest
      let (d, rest) ← readValue depth (skipBlanks rest) fuel
      let done ← addValue path key d done
      match skipBlanks rest with
      | ',' :: rest => readMembers depth done rest fuel
      | '\x7d' :: rest => return (done, rest)
      | _ => none

end

/-- What follows the end of a line, with blanks and a comment before it. -/
def endLine? (cs : List Char) : Option (List Char) :=
  match skipComment (skipBlanks cs) with
  | [] => some []
  | cs => lineBreak? cs

/-- The header of a table or of an array of tables, and what follows its line. -/
def readHeader (b : Building) (fuel : Nat) (cs : List Char) : Option (Building × List Char) :=
  match cs with
  | '[' :: '[' :: rest => do
    let ((path, key), rest) ← readKey fuel rest
    let rest ← endLine? (← after? ']' (← after? ']' rest))
    return (← b.openTables path key, rest)
  | '[' :: rest => do
    let ((path, key), rest) ← readKey fuel rest
    let rest ← endLine? (← after? ']' rest)
    return (← b.openTable path key, rest)
  | _ => none

/-- A key with its value, and what follows its line. -/
def readPair (b : Building) (fuel : Nat) (cs : List Char) : Option (Building × List Char) := do
  let ((path, key), rest) ← readKey fuel cs
  let rest := skipBlanks (← after? '=' rest)
  let (d, rest) ← readValue 0 rest (2 * fuel)
  return (← b.add path key d, ← endLine? rest)

/-- Reads line after line. -/
def readLines (b : Building) (cs : List Char) : (fuel : Nat) → Option Building
  | 0 => none
  | fuel + 1 =>
    match skipBlanks cs with
    | [] => some b
    | '#' :: rest => do readLines b (← endLine? ('#' :: rest)) fuel
    | '[' :: rest => do
      let (b, rest) ← readHeader b (fuel + 1) ('[' :: rest)
      readLines b rest fuel
    | cs =>
      match lineBreak? cs with
      | some rest => readLines b rest fuel
      | none => do
        let (b, rest) ← readPair b (fuel + 1) cs
        readLines b rest fuel

/-- The document that a whole text describes, if it is well-formed. -/
def read? (s : String) : Option Document := do
  let cs := match s.toList with
    | '\ufeff' :: rest => rest
    | cs => cs
  let root ← (← readLines .start cs (cs.length + 1)).close
  return .mapping (memberDocuments root) true

end SimDepot.Toml
