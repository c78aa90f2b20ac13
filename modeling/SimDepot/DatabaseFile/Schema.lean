import SimDepot.DatabaseFile.Statement
import SimDepot.DatabaseFile.Tree
import SimDepot.Text.Digits
import SimDepot.Text.Utf8

/-!
# What a database holds

The first page of a database is the top of a table with a row for every table, view, index and
trigger: what it is, its name, the name of its table, the number of its first page and the statement
that makes it. Names are the same if they differ in the case of letters of ASCII only.
-/

namespace SimDepot.DatabaseFile

/-- Something in a database. -/
structure Item where
  /-- What it is. -/
  kind : ItemKind
  /-- Its name, in small letters. -/
  name : String
  /-- The number of its first page. -/
  page : Nat
  deriving DecidableEq, Repr

/-- A name in small letters. -/
def folded (s : String) : String := String.ofList (s.toList.map Char.toLower)

/-- The text of units of UTF-16; a half character counts as one that cannot be shown. -/
def ofUnits : List Nat → List Char
  | [] => []
  | [u] => [if 0xD800 ≤ u ∧ u < 0xE000 then '\ufffd' else Char.ofNat u]
  | u :: v :: rest =>
    if 0xD800 ≤ u ∧ u < 0xDC00 ∧ 0xDC00 ≤ v ∧ v < 0xE000 then
      Char.ofNat (0x10000 + (u - 0xD800) * 1024 + (v - 0xDC00)) :: ofUnits rest
    else (if 0xD800 ≤ u ∧ u < 0xE000 then '\ufffd' else Char.ofNat u) :: ofUnits (v :: rest)

/-- The units of UTF-16 in bytes. -/
def units (isLittle : Bool) : List UInt8 → List Nat
  | a :: b :: rest =>
    (if isLittle then b.toNat * 256 + a.toNat else a.toNat * 256 + b.toNat) :: units isLittle rest
  | _ => []

/-- The text of a value, up to the first zero character; a number has its digits. -/
def Value.text? (e : Encoding) : Value → Option String
  | null => none
  | integer n => some (toString n)
  | bytes bs =>
    let cs := match e with
      | .utf8 => (Utf8.lenient bs).toList
      | .utf16le => ofUnits (units true bs)
      | .utf16be => ofUnits (units false bs)
    some (String.ofList (cs.takeWhile (· != '\x00')))

/-- Something in the row for it is wrong. -/
def malformedItem (name : Option String) (detail : String) : Refusal :=
  .other 11 ("malformed database schema (" ++ name.getD "?" ++ ")" ++
    (if detail = "" then "" else " - " ++ detail))

/-- The number of a page that a text gives. -/
def pageNumber? (s : String) : Option Nat :=
  let cs := s.toList
  if cs.isEmpty || !cs.all Char.isDigit then none
  else
    let n := Text.valueOf cs
    if n < 0x100000000 then some n else none

/-- Something with a name that is read and written like a table. -/
def relation? (found : List Item) (name : String) : Option Item :=
  found.find? fun i => i.name == name && i.kind.isRelation

/-- The table that an index belongs to which the statement of the table makes. -/
def ownerOf? (name : String) : Option String :=
  let start := "sqlite_autoindex_".toList
  let cs := (folded name).toList
  if start.isPrefixOf cs then
    let rest := ((cs.drop start.length).reverse.dropWhile Char.isDigit).drop 1
    some (String.ofList rest.reverse)
  else none

/-- Adds what a row describes to what was found before; the page of an index that belongs to the
statement of a table adds nothing. -/
def addRow (h : Header) (found : List Item) (row : List Value) : Except Refusal (List Item) :=
  let text (i : Nat) := ((row[i]?).getD .null).text? h.encoding
  let name := text 1
  let statement := (text 4).getD ""
  let malformed (detail : String) : Except Refusal (List Item) :=
    .error (malformedItem name detail)
  match text 3 with
  | none => malformed ""
  | some page =>
    let page := (pageNumber? page).filter (· ≤ h.pages)
    if "cr".toList.isPrefixOf ((statement.toList.take 2).map Char.toLower) then
      match page, Making.ofText? statement with
      | none, _ => malformed "invalid rootpage"
      | some _, .error detail => malformed detail
      | some page, .ok making =>
        if !making.kind.isRelation ∧ (relation? found (folded making.table)).isNone then
          malformed ("no such table: main." ++ making.table)
        else if [text 0, name, text 2].map (·.map folded) =
            [making.kind.word, folded making.name, folded making.table].map some then
          .ok (found ++ [⟨making.kind, folded making.name, page⟩])
        else malformed ""
    else match name, statement with
      | some name, "" =>
        if ((ownerOf? name).bind (relation? found)).isNone then malformed "orphan index"
        else if page.all (2 ≤ ·) ∧ page.isSome then .ok found
        else malformed "invalid rootpage"
      | _, _ => malformed ""

/-- The newest form of the first page that is understood. -/
def newestForm : Nat := 4

/-- Everything in a database. -/
def items (f : DatabaseFile) (h : Header) : Except Refusal (List Item) := do
  if newestForm < f.byte 47 then throw (.other 1 "unsupported file format")
  if h.pages = 0 then return []
  let (rows, failure) := f.rows h true 1 maxDepth
  let found ← rows.foldlM (addRow h) []
  match failure with
  | some r => throw r
  | none => return found

end SimDepot.DatabaseFile
