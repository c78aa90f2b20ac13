import SimDepot.Document.Decode

/-!
# Decoding records

A record is written as a mapping from field names to values, or as the sequence of its values in
the order of declaration. In a mapping the fields may come in any order, fields of other names are
passed over, and a field that may be null may be left out. In a sequence only the last fields may be
left out, and only those with a default.

`Shape.read` checks a document against the fields and returns the values it found; the first fault
in the order of the text wins, and a field is reported missing only after everything else was found
sound.
-/

namespace SimDepot

/-- Whether a field may be left out. -/
inductive Presence
  /-- The field must be there. -/
  | required
  /-- A mapping may leave the field out, which reads as null. -/
  | nullable
  /-- The field may be left out and then has a default. -/
  | defaulted
  deriving DecidableEq, Repr

/-- A field of a record. -/
structure Field where
  /-- The name of the field. -/
  name : String
  /-- The fault of a value of the field, if it has one. -/
  fault? : Document → Option Fault
  /-- Whether the field may be left out. -/
  presence : Presence := .required

/-- What a format does with items behind the last field of a record that is written as a
sequence. -/
inductive Surplus
  /-- They make the text malformed. -/
  | malformed
  /-- They are counted and refused. -/
  | refused
  /-- They are passed over. -/
  | ignored
  deriving DecidableEq, Repr

/-- The fault that a decoder reports, if any. -/
def Decoder.fault? {α : Type} (dec : Decoder α) (d : Document) : Option Fault :=
  match dec d with
  | .ok _ => none
  | .error f => some f

/-- The field `name` with values that `dec` reads. -/
def Field.of {α : Type} (name : String) (dec : Decoder α) (presence : Presence := .required) :
    Field :=
  ⟨name, dec.fault?, presence⟩

/-- The name and the fields of a type of record. -/
structure Shape where
  /-- What messages call a record of the type. -/
  title : String
  /-- The fields in the order of declaration. -/
  fields : List Field

/-- The values found for the fields of a record. -/
abbrev Found := List (String × Document)

namespace Found

/-- The value of a field, decoded; a field that was left out reads as null. -/
def get {α : Type} (found : Found) (name : String) (dec : Decoder α) : Except Fault α :=
  dec ((found.lookup name).getD .null)

/-- The value of a field, decoded, or the default of a field that was left out. -/
def getD {α : Type} (found : Found) (name : String) (dec : Decoder α) (default : α) :
    Except Fault α :=
  match found.lookup name with
  | some d => dec d
  | none => .ok default

end Found

namespace Shape

/-- The field of this name, if the shape has one. -/
def field? (shape : Shape) (name : String) : Option Field :=
  shape.fields.find? fun f => f.name == name

/-- Reads the members of a mapping in order; `found` holds the fields read so far. -/
def scan (shape : Shape) (found : Found) : List (Option String × Document) → Except Fault Found
  | [] => .ok found
  | (none, _) :: _ => .error .malformed
  | (some key, d) :: rest =>
    match shape.field? key with
    | none => if d.isSound then scan shape found rest else .error .malformed
    | some f =>
      if (found.lookup key).isSome then .error (.duplicateField key)
      else match f.fault? d with
        | some fault => .error fault
        | none => scan shape (found ++ [(key, d)]) rest

/-- The first field that must be there and was not found. -/
def missing? (shape : Shape) (found : Found) : Option String :=
  (shape.fields.find? fun f =>
    f.presence == .required && (found.lookup f.name).isNone).map Field.name

/-- What messages say was expected where a sequence is too short. -/
def wanted (shape : Shape) : String :=
  "struct " ++ shape.title ++ " with " ++ toString shape.fields.length ++ " elements"

/-- Reads the items of a sequence against the fields from number `index` on; returns the items that
are left. -/
def zip (shape : Shape) (complete : Bool) (index : Nat) :
    List Field → List Document → Found → Except Fault (Found × List Document)
  | [], items, found => .ok (found, items)
  | f :: fields, d :: items, found =>
    match f.fault? d with
    | some fault => .error fault
    | none => zip shape complete (index + 1) fields items (found ++ [(f.name, d)])
  | f :: fields, [], found =>
    if !complete then .error .malformed
    else if f.presence == .defaulted then zip shape complete (index + 1) fields [] found
    else .error (.invalidLength index shape.wanted)

/-- The values of a record of this shape, or the first fault in the order of the text. -/
def read (shape : Shape) (surplus : Surplus) : Document → Except Fault Found
  | .mapping members complete => do
    let found ← shape.scan [] members
    if !complete then .error .malformed
    else match shape.missing? found with
      | some name => .error (.missingField name)
      | none => .ok found
  | .sequence items complete => do
    let (found, rest) ← shape.zip complete 0 shape.fields items []
    match surplus with
    | .ignored => .ok found
    | .malformed => if complete && rest.isEmpty then .ok found else .error .malformed
    | .refused =>
      if rest.isEmpty then .ok found
      else .error (.invalidLength items.length "fewer elements in array")
  | d => .error (d.mismatch ("struct " ++ shape.title))

end Shape

end SimDepot
