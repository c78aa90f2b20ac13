import SimDepot.Connection.Address

/-!
# Locations of databases

The name of a database file may be written as an address with the scheme `file`, which has a path
and options of its own; an encoded zero byte ends the part that it stands in. `Location.ofOptions`
is the location that options describe.

Reference: the reading of file names by the database that `create_connection` connects to.
-/

namespace SimDepot.Connection

/-- The name of a file with options. -/
structure Location where
  /-- The name of the file. -/
  file : String
  /-- The options with their values, in order. -/
  options : List (String × String)
  deriving DecidableEq, Repr

/-- The text up to the first zero character. -/
def upToZero (s : String) : String := String.ofList (s.toList.takeWhile (· != '\x00'))

namespace Location

/-- The text that a part of an address stands for. -/
def text (part : List Char) : String := upToZero (Utf8.lenient (Percent.decode part))

/-- The options in a query; one without a name does not count, and one without a value has an empty
one. -/
def optionsOf (query : List Char) : List (String × String) :=
  ((Text.parts '&' query).map fun p =>
    let name := p.takeWhile (· != '=')
    (text name, text (p.drop (name.length + 1)))).filter (·.1 ≠ "")

/-- The location that an address behind `file:` stands for. No other host than this one is known. -/
def ofAddress (cs : List Char) : Except Refusal Location :=
  let pathOn : Except Refusal (List Char) := match behind? "//" cs with
    | none => .ok cs
    | some rest =>
      let host := rest.takeWhile (· != '/')
      if ["", "localhost"].contains (String.ofList host) then .ok (rest.drop host.length)
      else .error (.other 1 ("invalid uri authority: " ++ String.ofList host))
  pathOn.map fun cs =>
    let cs := cs.takeWhile (· != '#')
    let path := cs.takeWhile (· != '?')
    ⟨text path, optionsOf (cs.drop (path.length + 1))⟩

/-- The location that a name stands for. -/
def ofName (name : String) : Except Refusal Location :=
  match behind? "file:" name.toList with
  | some rest => ofAddress rest
  | none => .ok ⟨name, []⟩

/-- A text in the query of an address, which is read without taking a plus sign for a blank. -/
def blanksKept (s : String) : String :=
  upToZero (String.ofList (s.toList.map fun c => if c = ' ' then '+' else c))

/-- The location that options describe. Where they say how the file is accessed, it is written as an
address with the name as its path; otherwise the name stands for itself. -/
def ofOptions (o : Options) : Except StoreFailure Location :=
  if o.immutable ∨ o.vfs.isSome then
    .ok ⟨upToZero o.file, (if o.immutable then [("immutable", "true")] else []) ++
      (o.vfs.toList.map fun v => ("vfs", blanksKept v))⟩
  else if o.file.toList.contains '\x00' then
    .error (.unconnected ("error communicating with database: " ++
      "filename passed to SQLite must not contain nul bytes"))
  else (ofName o.file).mapError (.refused .connection)

/-- The whole number of 32 bits that digits begin with, decimal or behind `0x` hexadecimal; zero
where there are too many. -/
def leadingNumber (cs : List Char) : Nat :=
  let bounded (n : Nat) := if n < 0x80000000 then n else 0
  match cs with
  | '0' :: x :: rest =>
    let digits := rest.takeWhile fun c => (Text.hexValue? c).isSome
    if (x = 'x' ∨ x = 'X') ∧ digits ≠ [] then bounded (Text.hexValueOf digits)
    else bounded (Text.valueOf (cs.takeWhile Char.isDigit))
  | _ => bounded (Text.valueOf (cs.takeWhile Char.isDigit))

/-- A value that means yes. -/
def isOn (value : String) : Bool :=
  match value.toList with
  | [] => false
  | c :: rest =>
    if c.isDigit then leadingNumber (c :: rest) % 256 != 0
    else ["on", "yes", "true"].contains (String.ofList ((c :: rest).map Char.toLower))

/-- An option is given a value that means yes; only the first value of an option counts. -/
def isSet (l : Location) (option : String) : Bool := (l.options.lookup option).any isOn

end Location

end SimDepot.Connection
