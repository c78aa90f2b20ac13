import SimDepot.Domain.Direction
import SimDepot.Domain.Joining
import SimDepot.Domain.Mapping
import SimDepot.Domain.Punycode

/-!
# Domains

A domain consists of labels with dots between them. A label is a text without dots; one that begins
with `xn--` stands for another label, which has characters beyond ASCII. The characters of a domain
are read and composed first, so that it may be written in many ways; labels may be empty, but not
the whole domain. `ofText?` writes a domain in ASCII.
-/

namespace SimDepot.Domain

/-! ## Labels -/

/-- A label, as it is read and as it is written in ASCII. -/
structure Label where
  /-- The characters of the label. -/
  shown : List Char
  /-- The label in ASCII. -/
  ascii : List Char
  deriving DecidableEq, Repr

namespace Label

/-- What labels in ASCII begin with that stand for others. -/
def mark : List Char := ['x', 'n', '-', '-']

/-- The characters of ASCII that no domain has. -/
def isForbidden (c : Char) : Bool :=
  c.toNat ≤ 0x20 || c.toNat == 0x7f ||
    ['%', '#', '/', ':', '<', '>', '?', '@', '[', '\\', ']', '^', '|'].contains c

/-- The most characters of a label with characters beyond ASCII. -/
def maxLength : Nat := 1000

/-- The most characters behind the mark of a label. -/
def maxEncodedLength : Nat := 2000

/-- A label can be looked up: nothing is out of place in it. -/
def isUsable (label : List Char) : Bool :=
  !label.any isForbidden && isWellJoined label &&
    (label.length ≤ maxLength || label.all fun c => c.toNat < 0x80)

/-- The label that a text with its characters read and composed describes. -/
def ofText? (text : List Char) : Option Label :=
  if mark.isPrefixOf text then
    let encoded := text.drop mark.length
    if encoded.getLast? = some '-' ∨ encoded.isEmpty ∨ maxEncodedLength < encoded.length then none
    else match Punycode.decode? encoded with
      | none => none
      | some label =>
        if isUsable label && label.all (fun c => c != '.' && isSettled c) &&
            composed label == label then
          some ⟨label, text⟩
        else none
  else if isUsable text then
    some ⟨text, if text.all fun c => c.toNat < 0x80 then text else mark ++ Punycode.encode text⟩
  else none

end Label

/-! ## Domains -/

/-- The domain that a text describes, in ASCII. -/
def ofText? (text : List Char) : Option (List Char) := do
  let characters ← text.mapM reading?
  let labels ← (Text.parts '.' (composed characters.flatten)).mapM Label.ofText?
  let domain := ['.'].intercalate (labels.map Label.ascii)
  if directionsFit (labels.map Label.shown) && !domain.isEmpty then some domain else none

end SimDepot.Domain
