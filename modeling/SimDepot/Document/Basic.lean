import SimDepot.Text.Hidden

/-!
# Documents

A document is what a reader of some text format hands to the decoders: values, sequences and
mappings, in the order of the text. It reaches as far as the text could be read. Where the text is
malformed, the innermost sequence or mapping is marked incomplete, so that a decoder meets the
faults of a text in the order in which the text has them. A `Fault` says why a document does not
describe the value that was asked for; each has one text.
-/

namespace SimDepot

/-- Data as read from a text, up to the place where the text is malformed. -/
inductive Document
  /-- The absence of a value. -/
  | null
  /-- A truth value. -/
  | boolean (value : Bool)
  /-- A number written without fraction and exponent that 64 bits can hold. -/
  | integer (value : Int)
  /-- Any other number, and whether a double can hold it. -/
  | real (fits : Bool)
  /-- A text. -/
  | text (value : String)
  /-- A text that an escape makes end in half a character. -/
  | unpaired
  /-- Items in order, and whether the text goes on well behind the last of them. -/
  | sequence (items : List Document) (complete : Bool)
  /-- Members in order; a key that holds half a character is none. -/
  | mapping (members : List (Option String × Document)) (complete : Bool)
  /-- The text is malformed at this place. -/
  | broken
  deriving Repr, Inhabited

namespace Document

/-- How messages call a value. -/
def shown : Document → String
  | null => "null"
  | boolean b => "boolean `" ++ (if b then "true" else "false") ++ "`"
  | integer i => "integer `" ++ toString i ++ "`"
  | real _ => "floating point"
  | text s => "string " ++ Text.quoted s
  | unpaired => "string"
  | sequence .. => "sequence"
  | mapping .. => "map"
  | broken => ""

mutual

/-- Nothing in the document is malformed. -/
def isSound : Document → Bool
  | null | boolean _ | integer _ | real _ | text _ | unpaired => true
  | sequence items complete => complete && areSound items
  | mapping members complete => complete && haveSoundValues members
  | broken => false

/-- Every document of a list is sound. -/
def areSound : List Document → Bool
  | [] => true
  | d :: rest => isSound d && areSound rest

/-- Every value of a list of members is sound. -/
def haveSoundValues : List (Option String × Document) → Bool
  | [] => true
  | (_, d) :: rest => isSound d && haveSoundValues rest

end

mutual

/-- The document is sound, its numbers and texts can be kept as values, and it nests less than
`depth` deep. -/
def isKeepable (depth : Nat) : Document → Bool
  | null | boolean _ | integer _ | text _ => true
  | real fits => fits
  | sequence items complete => complete && 1 < depth && areKeepable (depth - 1) items
  | mapping members complete => complete && 1 < depth && haveKeepableValues (depth - 1) members
  | unpaired | broken => false

/-- Every document of a list can be kept. -/
def areKeepable (depth : Nat) : List Document → Bool
  | [] => true
  | d :: rest => isKeepable depth d && areKeepable depth rest

/-- Every key and value of a list of members can be kept. -/
def haveKeepableValues (depth : Nat) : List (Option String × Document) → Bool
  | [] => true
  | (key, d) :: rest => key.isSome && isKeepable depth d && haveKeepableValues depth rest

end

/-- The value of the last member with this key, or null. -/
def member (key : String) : Document → Document
  | mapping members _ => ((members.reverse.find? fun m => m.1 == some key).map (·.2)).getD null
  | _ => null

/-- There is a member with this key. -/
def hasMember (key : String) : Document → Bool
  | mapping members _ => members.any fun m => m.1 == some key
  | _ => false

end Document

/-! ## Faults -/

/-- Why a document does not describe a value of the wanted type. -/
inductive Fault
  /-- The text does not follow its format. -/
  | malformed
  /-- A record lacks a field. -/
  | missingField (name : String)
  /-- A record has a field twice. -/
  | duplicateField (name : String)
  /-- A word is none of those that the type has. -/
  | unknownVariant (word : String) (expected : List String)
  /-- A value is of another type. -/
  | invalidType (found wanted : String)
  /-- A value is of the right type and out of its range. -/
  | invalidValue (found wanted : String)
  /-- A sequence has too few or too many items. -/
  | invalidLength (length : Nat) (wanted : String)
  /-- A text is no timestamp. -/
  | badTimestamp
  deriving DecidableEq, Repr

namespace Fault

/-- The words that were expected, as a list in running text. -/
def expectation : List String → String
  | [a] => "expected `" ++ a ++ "`"
  | [a, b] => "expected `" ++ a ++ "` or `" ++ b ++ "`"
  | words => "expected one of " ++ ", ".intercalate (words.map fun w => "`" ++ w ++ "`")

/-- The text of a fault. -/
def message : Fault → String
  | malformed => "malformed JSON"
  | missingField name => "missing field `" ++ name ++ "`"
  | duplicateField name => "duplicate field `" ++ name ++ "`"
  | unknownVariant word expected => "unknown variant `" ++ word ++ "`, " ++ expectation expected
  | invalidType found wanted => "invalid type: " ++ found ++ ", expected " ++ wanted
  | invalidValue found wanted => "invalid value: " ++ found ++ ", expected " ++ wanted
  | invalidLength length wanted =>
    "invalid length " ++ toString length ++ ", expected " ++ wanted
  | badTimestamp => "bad timestamp"

end Fault

end SimDepot
