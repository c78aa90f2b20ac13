import SimDepot.Text.Digits
import SimDepot.Text.Parts

/-!
# Tables of characters

A table of characters is written in lines of words with blanks between them. A word names a
character by its number in hexadecimal, or a run of characters by the first and the last with a
hyphen between them; a step behind a slash leaves characters of the run out. What the table says of
the characters comes behind `>`.

A `CharSet` is a table that says nothing of its characters but that they are in it.
-/

namespace SimDepot

/-- Every `step`-th character from `first` to `last`, by number. -/
structure CharRun where
  /-- The first character. -/
  first : Nat
  /-- No character of the run comes after this one. -/
  last : Nat
  /-- How far the characters are apart. -/
  step : Nat
  deriving DecidableEq, Repr

namespace CharRun

/-- The run has the character with a number. -/
def contains (r : CharRun) (n : Nat) : Bool :=
  r.first ≤ n && n ≤ r.last && (n - r.first) % r.step == 0

/-- The words of a table. -/
def words (lines : List String) : List (List Char) := lines.flatMap fun l => Text.parts ' ' l.toList

/-- The text up to a separator, and the text behind it. -/
def cut (separator : Char) (cs : List Char) : List Char × List Char :=
  let front := cs.takeWhile (· != separator)
  (front, cs.drop (front.length + 1))

/-- The run that a word names. -/
def ofWord (word : List Char) : CharRun :=
  let (range, step) := cut '/' word
  let (first, last) := cut '-' range
  { first := Text.hexValueOf first
    last := Text.hexValueOf (if last.isEmpty then first else last)
    step := if step.isEmpty then 1 else Text.hexValueOf step }

end CharRun

/-- A set of characters. -/
structure CharSet where
  /-- The characters, in runs. -/
  runs : List CharRun
  deriving DecidableEq, Repr

namespace CharSet

/-- The set that lines of words describe. -/
def ofLines (lines : List String) : CharSet := ⟨(CharRun.words lines).map CharRun.ofWord⟩

/-- The set has the character. -/
def contains (s : CharSet) (c : Char) : Bool := s.runs.any fun r => r.contains c.toNat

end CharSet

end SimDepot
