import SimDepot.Store.Failure

/-!
# Statements that make things

A database keeps, for everything that it holds, the statement that made it. `Making.ofText?` reads
the beginning of such a statement: what it makes, and of which name. Of the rest only the pieces are
looked at; one that no statement has is a fault.
-/

namespace SimDepot.DatabaseFile

/-- What something in a database is. -/
inductive ItemKind
  /-- A table with rows. -/
  | table
  /-- A table whose rows are somewhere else. -/
  | virtualTable
  /-- A view. -/
  | view
  /-- An index. -/
  | index
  /-- A trigger. -/
  | trigger
  deriving DecidableEq, Repr

namespace ItemKind

/-- What is read and written like a table. -/
def isRelation : ItemKind → Bool
  | table | virtualTable | view => true
  | index | trigger => false

/-- How a database calls a kind. -/
def word : ItemKind → String
  | table | virtualTable => "table"
  | view => "view"
  | index => "index"
  | trigger => "trigger"

end ItemKind

/-- A piece of a statement. -/
inductive Piece
  /-- A word or a number. -/
  | word (text : List Char)
  /-- A name or a text in quotes. -/
  | quoted (text : List Char)
  /-- A sign. -/
  | sign (c : Char)
  /-- What no statement has. -/
  | wrong (text : List Char)
  deriving DecidableEq, Repr

namespace Piece

/-- A character of a word. -/
def inWord (c : Char) : Bool := c.isAlphanum || c == '_' || c == '$' || 0x80 ≤ c.toNat

/-- The text up to a quote, which is written twice where it stands for itself, and the characters
behind; nothing if there is no quote. -/
def closeQuote? (quote : Char) : List Char → Option (List Char × List Char)
  | [] => none
  | c :: rest =>
    if c ≠ quote then (closeQuote? quote rest).map fun (text, left) => (c :: text, left)
    else match rest with
      | d :: more =>
        if d = quote ∧ quote ≠ ']' then
          (closeQuote? quote more).map fun (text, left) => (c :: text, left)
        else some ([], d :: more)
      | [] => some ([], [])

/-- The characters behind a comment. -/
def behindComment : List Char → List Char
  | '*' :: '/' :: rest => rest
  | _ :: rest => behindComment rest
  | [] => []

/-- The pieces of a text. -/
def all (cs : List Char) : List Piece := go cs cs.length
where
  /-- Takes one piece after the other. -/
  go (cs : List Char) : (fuel : Nat) → List Piece
    | 0 => []
    | fuel + 1 =>
      match cs with
      | [] => []
      | '-' :: '-' :: rest => go (rest.dropWhile (· != '\n')) fuel
      | '/' :: '*' :: rest => go (behindComment rest) fuel
      | c :: rest =>
        if c.isWhitespace || c == '\x0c' then go rest fuel
        else if c ∈ ['"', '\'', '`', '['] then
          match closeQuote? (if c = '[' then ']' else c) rest with
          | some (text, left) => quoted text :: go left fuel
          | none => [wrong (c :: rest)]
        else if inWord c then
          let text := cs.takeWhile inWord
          let piece := if c.isDigit && !text.all Char.isDigit then wrong text else word text
          piece :: go (cs.drop text.length) fuel
        else if c.toNat < 0x20 || c ∈ ['\\', '^', '\x7b', '\x7d', '\x7f'] then [wrong [c]]
        else sign c :: go rest fuel

/-- A piece as it stands in the statement. -/
def text : Piece → List Char
  | word text | wrong text => text
  | quoted text => '"' :: text ++ ['"']
  | sign c => [c]

/-- The piece is a certain word. -/
def isWord (s : String) : Piece → Bool
  | word text => text.map Char.toLower == s.toList
  | _ => false

/-- What a piece is the name of. -/
def name? : Piece → Option String
  | quoted text => some (String.ofList text)
  | word text => if text.all Char.isDigit then none else some (String.ofList text)
  | _ => none

/-- Why pieces are no statement. -/
def fault : List Piece → String
  | [] => "incomplete input"
  | .wrong text :: _ => "unrecognized token: \"" ++ String.ofList text ++ "\""
  | p :: _ => "near \"" ++ String.ofList p.text ++ "\": syntax error"

end Piece

/-- What a statement makes. -/
structure Making where
  /-- What it is. -/
  kind : ItemKind
  /-- Its name. -/
  name : String
  /-- The name of its table: of an index or a trigger the one that it is for, otherwise its own. -/
  table : String
  deriving DecidableEq, Repr

namespace Making

/-- The pieces behind a word, if it is there. -/
def behind (s : String) : List Piece → List Piece
  | p :: rest => if p.isWord s then rest else p :: rest
  | [] => []

/-- What pieces make that follow the word for the kind. -/
def ofName? (kind : ItemKind) (pieces : List Piece) : Except String Making :=
  match behind "exists" (behind "not" (behind "if" pieces)) with
  | p :: rest =>
    match p.name?, rest.find? fun q => q matches .wrong _ with
    | none, _ => .error (Piece.fault (p :: rest))
    | some _, some q => .error (Piece.fault [q])
    | some name, none =>
      let onTable := (rest.dropWhile fun q => !q.isWord "on").drop 1
      if kind.isRelation then .ok ⟨kind, name, name⟩
      else match onTable.head?.bind Piece.name? with
        | some table => .ok ⟨kind, name, table⟩
        | none => .error (Piece.fault onTable)
  | [] => .error (Piece.fault [])

/-- What a statement makes, or why it is none. -/
def ofText? (statement : String) : Except String Making :=
  match Piece.all statement.toList with
  | first :: rest =>
    if !first.isWord "create" then .error (Piece.fault (first :: rest))
    else match behind "unique" (behind "temporary" (behind "temp" rest)) with
      | p :: rest =>
        if p.isWord "table" then ofName? .table rest
        else if p.isWord "view" then ofName? .view rest
        else if p.isWord "index" then ofName? .index rest
        else if p.isWord "trigger" then ofName? .trigger rest
        else if p.isWord "virtual" then
          match rest with
          | q :: rest => if q.isWord "table" then ofName? .virtualTable rest
            else .error (Piece.fault (q :: rest))
          | [] => .error (Piece.fault [])
        else .error (Piece.fault (p :: rest))
      | [] => .error (Piece.fault [])
  | [] => .error (Piece.fault [])

end Making

end SimDepot.DatabaseFile
