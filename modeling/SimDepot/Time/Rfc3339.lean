import SimDepot.Text.Blank
import SimDepot.Text.Digits
import SimDepot.Time.Timestamp

/-!
# RFC 3339 text of timestamps

A timestamp is written in UTC as `2024-05-06T07:08:09Z`, with three, six or nine digits of the
second when it has a fraction: as few as show all of it. Years outside four digits carry their sign.

Reading accepts that form and relaxes it: numbers may have fewer digits, white space may stand
before a number and before `-` and `:`, the date may be followed by a blank instead of `T`, and the
distance to UTC may be written as `Z`, as `UTC`, or as hours and minutes with any mix of colons
and white space between them.
-/

namespace SimDepot.Rfc3339

open Text

/-! ## Writing -/

/-- Four digits, or a sign and at least four digits where four do not tell the year. -/
def writeYear (year : Int) : List Char :=
  if 0 ≤ year ∧ year ≤ 9999 then padded 4 year.toNat
  else (if year < 0 then '-' else '+') :: padded 4 year.natAbs

/-- Nothing for a whole second, else three, six or nine digits after a point. -/
def writeFraction (nano : Nat) : List Char :=
  if nano = 0 then []
  else if nano % 1000000 = 0 then '.' :: padded 3 (nano / 1000000)
  else if nano % 1000 = 0 then '.' :: padded 6 (nano / 1000)
  else '.' :: padded 9 nano

/-- The characters of a timestamp. -/
def writeChars (t : Timestamp) : List Char :=
  writeYear t.date.year ++ '-' :: padded 2 t.date.month ++ '-' :: padded 2 t.date.day ++
    'T' :: padded 2 t.time.hour ++ ':' :: padded 2 t.time.minute ++ ':' :: padded 2 t.time.second ++
    writeFraction t.time.nano ++ ['Z']

/-- The text of a timestamp. -/
def write (t : Timestamp) : String := String.ofList (writeChars t)

/-! ## Reading -/

/-- Up to `width` digits, at least one, and what follows them. -/
def readDigits (width : Nat) (cs : List Char) : Option (Nat × List Char) :=
  let digits := (cs.take width).takeWhile Char.isDigit
  if digits = [] then none else some (valueOf digits, cs.drop digits.length)

/-- White space, then a number of up to `width` digits. -/
def readNumber (width : Nat) (cs : List Char) : Option (Nat × List Char) :=
  readDigits width (trimLeft cs)

/-- White space, then a year: with a sign any number of digits, else up to four. -/
def readYear (cs : List Char) : Option (Int × List Char) :=
  match trimLeft cs with
  | '-' :: rest => (readDigits rest.length rest).map fun (n, rest) => (-n, rest)
  | '+' :: rest => (readDigits rest.length rest).map fun (n, rest) => (n, rest)
  | cs => (readDigits 4 cs).map fun (n, rest) => (n, rest)

/-- White space, then the character `c`. -/
def readMark (c : Char) (cs : List Char) : Option (List Char) :=
  match trimLeft cs with
  | d :: rest => if d = c then some rest else none
  | [] => none

/-- The first nine digits after a point as nanoseconds; further digits are dropped. -/
def readFraction (cs : List Char) : Option (Nat × List Char) :=
  match cs with
  | '.' :: rest =>
    let digits := rest.takeWhile Char.isDigit
    let kept := digits.take 9
    if digits = [] then none
    else some (valueOf kept * Nat.pow 10 (9 - kept.length), rest.drop digits.length)
  | _ => some (0, cs)

/-- Exactly two digits. -/
def readTwoDigits (cs : List Char) : Option (Nat × List Char) :=
  match cs with
  | a :: b :: rest => if a.isDigit && b.isDigit then some (valueOf [a, b], rest) else none
  | _ => none

/-- The hours and minutes of a distance to UTC, in minutes. -/
def readOffsetMinutes (cs : List Char) : Option (Int × List Char) := do
  let (hours, cs) ← readTwoDigits cs
  let (minutes, cs) ← readTwoDigits (cs.dropWhile fun c => c == ':' || isSpace c)
  if minutes < 60 then some ((hours * 60 + minutes : Nat), cs) else none

/-- The distance to UTC in minutes: `Z`, `UTC` in any case, or a sign, hours and minutes. -/
def readOffset (cs : List Char) : Option (Int × List Char) :=
  match cs with
  | 'Z' :: rest | 'z' :: rest => some (0, rest)
  | '+' :: rest => readOffsetMinutes rest
  | '-' :: rest | '\u2212' :: rest => (readOffsetMinutes rest).map fun (n, rest) => (-n, rest)
  | a :: b :: c :: rest =>
    if [a, b, c].map Char.toLower = ['u', 't', 'c'] then some (0, rest) else none
  | _ => none

/-- The timestamp that characters describe. -/
def readChars (cs : List Char) : Option Timestamp := do
  let (year, cs) ← readYear cs
  let (month, cs) ← readNumber 2 (← readMark '-' cs)
  let (day, cs) ← readNumber 2 (← readMark '-' cs)
  let cs ← match cs with
    | 'T' :: rest | 't' :: rest | ' ' :: rest => some rest
    | _ => none
  let (hour, cs) ← readNumber 2 cs
  let (minute, cs) ← readNumber 2 (← readMark ':' cs)
  let (second, cs) ← readNumber 2 (← readMark ':' cs)
  let (nano, cs) ← readFraction cs
  let (offset, cs) ← readOffset (trimLeft cs)
  if trimLeft cs ≠ [] ∨ 1440 ≤ offset.natAbs then none
  let date ← Date.ofParts? year month day
  let time ← TimeOfDay.ofParts? hour minute second nano
  Timestamp.ofLocal? date time offset

/-- The timestamp that a text describes. -/
def read? (s : String) : Option Timestamp := readChars s.toList

end SimDepot.Rfc3339
