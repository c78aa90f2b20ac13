import SimDepot.Document.Decode
import SimDepot.Number.Double
import SimDepot.Text.Digits

/-!
# Reading JSON text

`Json.read` reads a whole text as a document. Blanks are the four of the format; nothing may follow
the value, no byte order mark may precede it, and a text may hold no control character. Members keep
their order and their repetitions. A text whose escapes name half a surrogate pair is read as
`unpaired`: who skips the value need not mind. `Json.decode` wants the whole text to be read: what a
decoder accepts is malformed when something follows it.
-/

namespace SimDepot.Json

open Text (hexValue? valueOf)

/-- The blanks of the format. -/
def isBlank (c : Char) : Bool := c == ' ' || c == '\n' || c == '\r' || c == '\t'

/-- The characters behind leading blanks. -/
def skipBlanks (cs : List Char) : List Char := cs.dropWhile isBlank

/-! ## Numbers -/

/-- The largest significand. -/
def maxSignificand : Nat := 18446744073709551615

/-- The significand `n` with digits appended for as long as it fits in 64 bits, and the digits that
are left over. -/
def appendDigits (n : Nat) : List Char → Nat × List Char
  | [] => (n, [])
  | c :: rest =>
    let m := n * 10 + (c.toNat - '0'.toNat)
    if m ≤ maxSignificand then appendDigits m rest else (n, c :: rest)

/-- The number with these digits before and after the point and this exponent, when it has a point
or an exponent or is too long for an integer. Digits left over before the point count in the
exponent, those behind it do not count at all. -/
def realOf (whole fraction : List Char) (exponent : Int) : Document :=
  let (significand, surplus) := appendDigits 0 whole
  let (significand, unread) := appendDigits significand fraction
  let places : Int := (fraction.length - unread.length : Nat)
  .real (Double.productFits significand (exponent + surplus.length - places))

/-- The number with this sign, these digits before and after the point and this exponent. -/
def numberOf (negative : Bool) (whole : List Char) (rest : Option (List Char × Int)) : Document :=
  match rest with
  | some (fraction, exponent) => realOf whole fraction exponent
  | none =>
    let n := valueOf whole
    if negative then
      -- No integer is zero with a minus sign.
      if 0 < n ∧ n ≤ 9223372036854775808 then .integer (-n) else realOf whole [] 0
    else if n ≤ maxSignificand then .integer n
    else realOf whole [] 0

/-- The digits after a point, if there is one; none where a point has no digits behind it. -/
def readFraction (cs : List Char) : Option (Option (List Char) × List Char) :=
  match cs with
  | '.' :: rest =>
    let digits := rest.takeWhile Char.isDigit
    if digits = [] then none else some (some digits, rest.drop digits.length)
  | _ => some (none, cs)

/-- The exponent, if there is one; none where its mark has no digits behind it. -/
def readExponent (cs : List Char) : Option (Option Int × List Char) :=
  match cs with
  | [] => some (none, [])
  | e :: rest =>
    if e = 'e' ∨ e = 'E' then
      let (negative, rest) := match rest with
        | '-' :: rest => (true, rest)
        | '+' :: rest => (false, rest)
        | rest => (false, rest)
      let digits := rest.takeWhile Char.isDigit
      if digits = [] then none
      else
        let n : Int := valueOf digits
        some (some (if negative then -n else n), rest.drop digits.length)
    else some (none, cs)

/-- A number without its sign. A leading zero stands alone. -/
def readUnsigned (negative : Bool) (cs : List Char) : Option (Document × List Char) := do
  let digits := cs.takeWhile Char.isDigit
  let whole ← match digits with
    | [] => none
    | '0' :: _ :: _ => none
    | digits => some digits
  let (fraction, cs) ← readFraction (cs.drop whole.length)
  let (exponent, cs) ← readExponent cs
  let rest := match fraction, exponent with
    | none, none => none
    | fraction, exponent => some (fraction.getD [], exponent.getD 0)
  return (numberOf negative whole rest, cs)

/-! ## Texts -/

/-- Four hexadecimal digits. -/
def readHex4 (cs : List Char) : Option (Nat × List Char) :=
  match cs with
  | a :: b :: c :: d :: rest => do
    return ((((← hexValue? a) * 16 + (← hexValue? b)) * 16 + (← hexValue? c)) * 16
      + (← hexValue? d), rest)
  | _ => none

/-- A 16-bit unit of text, as escapes name them. -/
inductive TextUnit
  /-- A whole character. -/
  | char (c : Char)
  /-- The first half of a surrogate pair. -/
  | high (n : Nat)
  /-- The second half of a surrogate pair. -/
  | low (n : Nat)

/-- What the number of an escape names. -/
def TextUnit.ofNat (n : Nat) : TextUnit :=
  if 0xD800 ≤ n ∧ n ≤ 0xDBFF then .high n
  else if 0xDC00 ≤ n ∧ n ≤ 0xDFFF then .low n
  else .char (Char.ofNat n)

/-- The unit behind a backslash. -/
def readEscape (cs : List Char) : Option (TextUnit × List Char) :=
  match cs with
  | '"' :: rest => some (.char '"', rest)
  | '\\' :: rest => some (.char '\\', rest)
  | '/' :: rest => some (.char '/', rest)
  | 'b' :: rest => some (.char '\x08', rest)
  | 'f' :: rest => some (.char '\x0c', rest)
  | 'n' :: rest => some (.char '\n', rest)
  | 'r' :: rest => some (.char '\r', rest)
  | 't' :: rest => some (.char '\t', rest)
  | 'u' :: rest => (readHex4 rest).map fun (n, rest) => (.ofNat n, rest)
  | _ => none

/-- The units of a text up to its closing quote, and what follows it. Every unit takes a character,
and the fuel bounds how many there are. -/
def readUnits : Nat → List Char → Option (List TextUnit × List Char)
  | 0, _ => none
  | _, [] => none
  | fuel + 1, c :: rest =>
    if c = '"' then some ([], rest)
    else if c.toNat < 0x20 then none
    else do
      let (unit, rest) ← if c = '\\' then readEscape rest else some (.char c, rest)
      let (units, rest) ← readUnits fuel rest
      return (unit :: units, rest)

/-- The characters that units make up, unless half a pair stands alone. -/
def joinUnits : List TextUnit → Option (List Char)
  | [] => some []
  | .char c :: rest => (joinUnits rest).map (c :: ·)
  | .high h :: .low l :: rest =>
    (joinUnits rest).map (Char.ofNat (0x10000 + (h - 0xD800) * 0x400 + (l - 0xDC00)) :: ·)
  | _ => none

/-- A text behind its opening quote; the text is none where half a pair stands alone. -/
def readText (fuel : Nat) (cs : List Char) : Option (Option String × List Char) :=
  (readUnits fuel cs).map fun (units, rest) =>
    ((joinUnits units).map String.ofList, rest)

/-! ## Values -/

/-- The characters behind the given word. -/
def expect (word : List Char) (cs : List Char) : Option (List Char) :=
  if word.isPrefixOf cs then some (cs.drop word.length) else none

mutual

/-- A value and what follows it. Behind a value that is not sound nothing is read. -/
def readValue : Nat → List Char → Document × List Char
  | 0, _ => (.broken, [])
  | fuel + 1, cs =>
    match skipBlanks cs with
    | '"' :: rest =>
      match readText fuel rest with
      | some (some s, rest) => (.text s, rest)
      | some (none, rest) => (.unpaired, rest)
      | none => (.broken, [])
    | '[' :: rest =>
      match skipBlanks rest with
      | ']' :: rest => (.sequence [] true, rest)
      | rest =>
        let (items, complete, rest) := readItems fuel rest
        (.sequence items complete, rest)
    | '\x7b' :: rest =>
      match skipBlanks rest with
      | '\x7d' :: rest => (.mapping [] true, rest)
      | rest =>
        let (members, complete, rest) := readMembers fuel rest
        (.mapping members complete, rest)
    | '-' :: rest => (readUnsigned true rest).getD (.broken, [])
    | cs =>
      match expect ['n', 'u', 'l', 'l'] cs with
      | some rest => (.null, rest)
      | none =>
        match expect ['t', 'r', 'u', 'e'] cs with
        | some rest => (.boolean true, rest)
        | none =>
          match expect ['f', 'a', 'l', 's', 'e'] cs with
          | some rest => (.boolean false, rest)
          | none => (readUnsigned false cs).getD (.broken, [])

/-- The items of an array up to its closing bracket, and whether it was there. -/
def readItems : Nat → List Char → List Document × Bool × List Char
  | 0, _ => ([], false, [])
  | fuel + 1, cs =>
    let (d, rest) := readValue fuel cs
    if !d.isSound then ([d], false, [])
    else match skipBlanks rest with
      | ',' :: rest =>
        let (items, complete, rest) := readItems fuel rest
        (d :: items, complete, rest)
      | ']' :: rest => ([d], true, rest)
      | _ => ([d], false, [])

/-- The members of an object up to its closing brace, and whether it was there. -/
def readMembers : Nat → List Char → List (Option String × Document) × Bool × List Char
  | 0, _ => ([], false, [])
  | fuel + 1, cs =>
    match skipBlanks cs with
    | '"' :: rest =>
      match readText fuel rest with
      | none => ([], false, [])
      | some (key, rest) =>
        match skipBlanks rest with
        | ':' :: rest =>
          let (d, rest) := readValue fuel rest
          if !d.isSound then ([(key, d)], false, [])
          else match skipBlanks rest with
            | ',' :: rest =>
              let (members, complete, rest) := readMembers fuel rest
              ((key, d) :: members, complete, rest)
            | '\x7d' :: rest => ([(key, d)], true, rest)
            | _ => ([(key, d)], false, [])
        | _ => ([(key, .broken)], false, [])
    | _ => ([], false, [])

end

/-- A whole text as a document, and whether nothing but blanks follows the value. Each value, item
and member takes at least one character, which bounds the nesting. -/
def read (s : String) : Document × Bool :=
  let cs := s.toList
  let (d, rest) := readValue (2 * cs.length + 2) cs
  (d, d.isSound && (skipBlanks rest).isEmpty)

/-- The value that a whole text describes. -/
def decode {α : Type} (dec : Decoder α) (s : String) : Except Fault α := do
  let (d, complete) := read s
  let a ← dec d
  if complete then .ok a else .error .malformed

end SimDepot.Json
