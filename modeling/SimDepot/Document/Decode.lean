import SimDepot.Document.Basic
import SimDepot.Id
import SimDepot.Text.Worded
import SimDepot.Time.Rfc3339

/-!
# Decoding single values

A decoder turns a document into a value of some type, or says why it cannot. What a decoder reports
is the first fault in the order of the text.
-/

namespace SimDepot

/-- Reads a value of type `α` off a document. -/
abbrev Decoder (α : Type) := Document → Except Fault α

namespace Document

/-- The fault of a document that is not of the wanted type. A malformed text is malformed whatever
was wanted. -/
def mismatch (wanted : String) (d : Document) : Fault :=
  match d with
  | broken | unpaired | real false => .malformed
  | d => .invalidType d.shown wanted

end Document

namespace Decode

/-- A text. -/
def string : Decoder String
  | .text s => .ok s
  | d => .error (d.mismatch "a string")

/-- A truth value. -/
def boolean : Decoder Bool
  | .boolean b => .ok b
  | d => .error (d.mismatch "a boolean")

/-- An integer between two bounds, which messages call `wanted`. -/
def integerWithin (low high : Int) (wanted : String) : Decoder Int
  | .integer i =>
    if low ≤ i ∧ i ≤ high then .ok i else .error (.invalidValue (Document.integer i).shown wanted)
  | d => .error (d.mismatch wanted)

/-- An integer of 64 bits with sign. -/
def int64 : Decoder Int := integerWithin minId maxId "i64"

/-- An integer of 64 bits without sign. -/
def uint64 : Decoder Nat := fun d =>
  (integerWithin 0 maxCount "u64" d).map Int.toNat

/-- An integer of 32 bits without sign. -/
def uint32 : Decoder Nat := fun d =>
  (integerWithin 0 4294967295 "u32" d).map Int.toNat

/-- A value that may be null. -/
def option {α : Type} (dec : Decoder α) : Decoder (Option α)
  | .null => .ok none
  | d => (dec d).map some

/-- A value that is written as one of a few words. -/
def word {α : Type} [Worded α] (s : String) : Except Fault α :=
  match Worded.ofWord? s with
  | some a => .ok a
  | none => .error (.unknownVariant s (Worded.words α))

/-- A word, alone or as the only key of a mapping whose value is null. -/
def worded {α : Type} [Worded α] : Decoder α
  | .text s => word s
  | .mapping [(some s, d)] true => do
    let a ← word s
    match d with
    | .null => .ok a
    | d => .error (d.mismatch "unit")
  | .mapping _ true => .error (.invalidValue "map" "map with a single key")
  | .mapping _ false => .error .malformed
  | d => .error (d.mismatch "string or map")

/-- A timestamp. -/
def timestamp : Decoder Timestamp
  | .text s =>
    match Rfc3339.read? s with
    | some t => .ok t
    | none => .error .badTimestamp
  | d => .error (d.mismatch "an RFC 3339 formatted date and time string")

/-- The items of a sequence, each decoded, in order. -/
def list {α : Type} (dec : Decoder α) : Decoder (List α)
  | .sequence items complete => do
    let values ← items.mapM dec
    if complete then .ok values else .error .malformed
  | d => .error (d.mismatch "a sequence")

/-- Any value at all, kept as it is; `depth` bounds how deep it may nest. -/
def kept (depth : Nat) : Decoder Document := fun d =>
  if d.isKeepable depth then .ok d else .error .malformed

@[simp] theorem option_null {α : Type} (dec : Decoder α) : option dec .null = .ok none := rfl

@[simp] theorem string_text (s : String) : string (.text s) = .ok s := rfl

end Decode

end SimDepot
