import SimDepot.Text.Digits

/-!
# Percent encoding

A character that an address cannot hold is written as the bytes of its UTF-8 form, each as a percent
sign and two hexadecimal digits in upper case. Which characters of ASCII may stand depends on the
part of the address; others never may.
-/

namespace SimDepot.Percent

/-- A hexadecimal digit in upper case. -/
def digit (n : Nat) : Char := (Nat.digitChar (n % 16)).toUpper

/-- The encoded form of a byte. -/
def encodeByte (b : UInt8) : List Char := ['%', digit (b.toNat / 16), digit b.toNat]

/-- The characters with those encoded that are beyond ASCII or not in `allowed`. -/
def encode (allowed : Char → Bool) (cs : List Char) : List Char :=
  cs.flatMap fun c =>
    if c.toNat < 0x80 && allowed c then [c] else (String.utf8EncodeChar c).flatMap encodeByte

/-- The bytes that characters stand for, encoded or not. -/
def decode : List Char → List UInt8
  | [] => []
  | '%' :: a :: b :: rest =>
    match Text.hexValue? a, Text.hexValue? b with
    | some m, some n => UInt8.ofNat (m * 16 + n) :: decode rest
    | _, _ => String.utf8EncodeChar '%' ++ decode (a :: b :: rest)
  | c :: rest => String.utf8EncodeChar c ++ decode rest

/-- Visible characters of ASCII. -/
def isVisible (c : Char) : Bool := 0x20 < c.toNat && c.toNat < 0x7f

/-- What may stand in a fragment. -/
def inFragment (c : Char) : Bool := isVisible c && c ∉ ['"', '<', '>', '`']

/-- What may stand in a path. -/
def inPath (c : Char) : Bool := inFragment c && c ∉ ['#', '?', '\x7b', '\x7d']

/-- What may stand in the name of a user or in a password. -/
def inUser (c : Char) : Bool :=
  inPath c && c ∉ ['/', ':', ';', '=', '@', '[', '\\', ']', '^', '|']

/-- What may stand in the query of an address with a scheme of the web. -/
def inQuery (c : Char) : Bool := isVisible c && c ∉ ['"', '#', '<', '>', '\'']

/-- What may stand in an address that has no structure. -/
def inOpaque (c : Char) : Bool := 0x1f < c.toNat && c.toNat < 0x7f

end SimDepot.Percent
