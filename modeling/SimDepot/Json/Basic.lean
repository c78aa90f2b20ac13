import SimDepot.Document.Basic

/-!
# JSON values

The values that answers are made of, and their text: no blanks, members in the order given,
characters beyond ASCII as themselves. Numbers are whole.

`Json.document` is the document that a reader makes of a value.
-/

namespace SimDepot

/-- A JSON value whose numbers are whole. -/
inductive Json
  /-- The null value. -/
  | null
  /-- A truth value. -/
  | boolean (value : Bool)
  /-- A whole number. -/
  | integer (value : Int)
  /-- A text. -/
  | text (value : String)
  /-- An array. -/
  | array (items : List Json)
  /-- An object. -/
  | object (members : List (String × Json))
  deriving Repr, Inhabited

namespace Json

/-- A text, or null where there is none. -/
def ofText? : Option String → Json
  | some s => text s
  | none => null

/-! ## Text -/

/-- One hexadecimal digit, in lower case. -/
def hexDigit (n : Nat) : Char := Nat.digitChar (n % 16)

/-- How a character is written inside a JSON text. -/
def writeChar (c : Char) : List Char :=
  match c with
  | '"' => ['\\', '"']
  | '\\' => ['\\', '\\']
  | '\n' => ['\\', 'n']
  | '\r' => ['\\', 'r']
  | '\t' => ['\\', 't']
  | '\x08' => ['\\', 'b']
  | '\x0c' => ['\\', 'f']
  | c =>
    if c.toNat < 0x20 then ['\\', 'u', '0', '0', hexDigit (c.toNat / 16), hexDigit c.toNat]
    else [c]

/-- A text between quotes. -/
def writeText (s : String) : String :=
  String.ofList ('"' :: s.toList.flatMap writeChar ++ ['"'])

mutual

/-- The text of a value. -/
def write : Json → String
  | null => "null"
  | boolean b => if b then "true" else "false"
  | integer i => toString i
  | text s => writeText s
  | array items => "[" ++ writeItems items ++ "]"
  | object members => "\x7b" ++ writeMembers members ++ "\x7d"

/-- The texts of the items of an array, separated by commas. -/
def writeItems : List Json → String
  | [] => ""
  | [j] => write j
  | j :: rest => write j ++ "," ++ writeItems rest

/-- The texts of the members of an object, separated by commas. -/
def writeMembers : List (String × Json) → String
  | [] => ""
  | [(k, j)] => writeText k ++ ":" ++ write j
  | (k, j) :: rest => writeText k ++ ":" ++ write j ++ "," ++ writeMembers rest

end

/-! ## As a document -/

mutual

/-- The document that a value is read as. -/
def document : Json → Document
  | null => .null
  | boolean b => .boolean b
  | integer i => .integer i
  | text s => .text s
  | array items => .sequence (documents items) true
  | object members => .mapping (memberDocuments members) true

/-- The documents of the items of an array. -/
def documents : List Json → List Document
  | [] => []
  | j :: rest => document j :: documents rest

/-- The documents of the members of an object. -/
def memberDocuments : List (String × Json) → List (Option String × Document)
  | [] => []
  | (k, j) :: rest => (some k, document j) :: memberDocuments rest

end

end Json

end SimDepot
