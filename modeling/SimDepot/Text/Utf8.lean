/-!
# Bytes that are not UTF-8

`Utf8.fault?` says where bytes first leave the form of UTF-8 and how many of them cannot be part of
any character. `Utf8.lenient` reads bytes all the same, with one replacement character for each such
run.
-/

namespace SimDepot.Utf8

/-- Where bytes leave the form of UTF-8: the number of bytes before, and the number of bytes that
are wrong, or none if only the rest of a character is missing. -/
def fault? (bytes : List UInt8) : Option (Nat × Option Nat) :=
  go 0 bytes bytes.length
where
  /-- A byte that goes on with a character. -/
  follows (b : UInt8) : Bool := 0x80 ≤ b && b ≤ 0xBF
  /-- The bounds for the second byte of a character. -/
  second (b : UInt8) : UInt8 × UInt8 :=
    if b = 0xE0 then (0xA0, 0xBF) else if b = 0xED then (0x80, 0x9F)
    else if b = 0xF0 then (0x90, 0xBF) else if b = 0xF4 then (0x80, 0x8F) else (0x80, 0xBF)
  /-- The fault of a character that needs `more` bytes behind its first. -/
  tail (more : Nat) (first : UInt8) (rest : List UInt8) : Option (Option Nat) :=
    match more, rest with
    | 0, _ => none
    | _, [] => some none
    | n + 1, b :: rest =>
      let (low, high) := second first
      if !(low ≤ b && b ≤ high) then some (some 1)
      else
        let good := (rest.take n).takeWhile follows
        if good.length = n then none
        else if rest.length = good.length then some none
        else some (some (2 + good.length))
  /-- Looks at one character after the other. -/
  go (index : Nat) (bytes : List UInt8) : (fuel : Nat) → Option (Nat × Option Nat)
    | 0 => none
    | fuel + 1 =>
      match bytes with
      | [] => none
      | b :: rest =>
        let more := if b < 0x80 then some 0 else if 0xC2 ≤ b && b ≤ 0xDF then some 1
          else if 0xE0 ≤ b && b ≤ 0xEF then some 2
          else if 0xF0 ≤ b && b ≤ 0xF4 then some 3 else none
        match more with
        | none => some (index, some 1)
        | some more =>
          match tail more b rest with
          | some fault => some (index, fault)
          | none => go (index + 1 + more) (rest.drop more) fuel

/-- The text that bytes in UTF-8 stand for. -/
def text? (bytes : List UInt8) : Option String := String.fromUTF8? ⟨bytes.toArray⟩

/-- The text that bytes stand for, with a replacement character for each run of bytes that cannot be
part of a character. -/
def lenient (bytes : List UInt8) : String := go bytes bytes.length
where
  /-- Reads up to the first fault, and on behind it. -/
  go (bytes : List UInt8) : (fuel : Nat) → String
    | 0 => ""
    | fuel + 1 =>
      match fault? bytes with
      | none => (text? bytes).getD ""
      | some (index, wrong) =>
        let before := (text? (bytes.take index)).getD ""
        match wrong with
        | none => before.push '\ufffd'
        | some n => before.push '\ufffd' ++ go (bytes.drop (index + n)) fuel

end SimDepot.Utf8
