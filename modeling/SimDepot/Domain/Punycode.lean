/-!
# Labels in ASCII

A label with characters beyond ASCII is written in Punycode: the plain characters, a hyphen, and
then numbers that say, in the order of the characters, how far it is from one insertion to the next.
The numbers are written to the base 36 with the least digit first; a digit below a threshold ends a
number, and the thresholds follow a bias that is fitted to the numbers before.
-/

namespace SimDepot.Domain.Punycode

/-! ## Numbers -/

/-- The digit below which a number ends, at weight number `k / 36`. -/
def threshold (bias k : Nat) : Nat :=
  if k ≤ bias then 1 else if bias + 26 ≤ k then 26 else k - bias

theorem threshold_pos (bias k : Nat) : 0 < threshold bias k := by
  unfold threshold
  split
  · omega
  · split <;> omega

/-- The bias for a delta: 36 for every division by 35 until 455 or less is left, and a share of
that. -/
def fit (k delta : Nat) : Nat :=
  if _h : 455 < delta then fit (k + 36) (delta / 35) else k + 36 * delta / (delta + 38)
termination_by delta
decreasing_by exact Nat.div_lt_self (by omega) (by omega)

/-- The bias behind a number, with `count` characters in the label by then. -/
def adapt (delta count : Nat) (isFirst : Bool) : Nat :=
  let delta := if isFirst then delta / 700 else delta / 2
  fit 0 (delta + delta / count)

/-- A digit to the base 36. -/
def digit (n : Nat) : Char := Char.ofNat (if n < 26 then 97 + n else 22 + n)

/-- The value of a digit to the base 36. -/
def value? (c : Char) : Option Nat :=
  if 'a' ≤ c ∧ c ≤ 'z' then some (c.toNat - 97)
  else if c.isDigit then some (c.toNat - 22)
  else none

/-- The digits of a number from weight number `k / 36` on. -/
def digits (bias k n : Nat) : List Char :=
  let t := threshold bias k
  if _h : n < t then [digit n]
  else digit (t + (n - t) % (36 - t)) :: digits bias (k + 36) ((n - t) / (36 - t))
termination_by n
decreasing_by
  have := threshold_pos bias k
  calc (n - threshold bias k) / (36 - threshold bias k) ≤ n - threshold bias k := Nat.div_le_self ..
    _ < n := by omega

/-- What no number of a label reaches. -/
def bound : Nat := 0x100000000

/-- The sum of `n` and the number that digits begin with, and the digits behind it. -/
def number? (bias k weight n : Nat) : List Char → Option (Nat × List Char)
  | [] => none
  | c :: rest =>
    match value? c with
    | none => none
    | some d =>
      if bound ≤ n + d * weight then none
      else if d < threshold bias k then some (n + d * weight, rest)
      else if bound ≤ weight * (36 - threshold bias k) then none
      else number? bias (k + 36) (weight * (36 - threshold bias k)) (n + d * weight) rest

theorem length_lt_of_number? {bias k weight n : Nat} {cs rest : List Char} {m : Nat}
    (h : number? bias k weight n cs = some (m, rest)) : rest.length < cs.length := by
  induction cs generalizing k weight n with
  | nil => simp [number?] at h
  | cons c cs ih =>
    simp only [number?] at h
    split at h
    · simp at h
    · split at h
      · simp at h
      · split at h
        · simp_all
        · split at h
          · simp at h
          · have := ih h
            simp only [List.length_cons]
            omega

/-! ## Writing -/

/-- A label that is being written. -/
structure Progress where
  /-- The steps since the last insertion. -/
  delta : Nat
  /-- The bias for the next number. -/
  bias : Nat
  /-- How many characters of the label are done. -/
  done : Nat
  /-- The digits written. -/
  output : List Char

/-- Goes through a label and writes the insertions of the character numbered `n`; `plain` characters
were there before the first insertion. -/
def sweep (n plain : Nat) (p : Progress) : List Char → Progress
  | [] => p
  | c :: rest =>
    if c.toNat < n then sweep n plain { p with delta := p.delta + 1 } rest
    else if c.toNat = n then
      sweep n plain {
        delta := 0
        bias := adapt p.delta (p.done + 1) (p.done == plain)
        done := p.done + 1
        output := p.output ++ digits p.bias 36 p.delta } rest
    else sweep n plain p rest

/-- Writes the insertions of some characters, each once and in ascending order; all that come before
the one numbered `n` are done. -/
def insertions (label : List Char) (plain n : Nat) (p : Progress) : List Nat → List Char
  | [] => p.output
  | m :: rest =>
    let p := sweep m plain { p with delta := p.delta + (m - n) * (p.done + 1) } label
    insertions label plain (m + 1) { p with delta := p.delta + 1 } rest

/-- A label in ASCII, without the mark in front. -/
def encode (label : List Char) : List Char :=
  let plain := label.filter fun c => c.toNat < 0x80
  let others := (label.filter fun c => 0x80 ≤ c.toNat).map Char.toNat
  plain ++ (if plain.isEmpty then [] else ['-']) ++
    insertions label plain.length 0x80 ⟨0, 72, plain.length, []⟩ others.mergeSort.eraseDups

/-! ## Reading -/

/-- Makes the insertions that digits describe; the last one was of the character numbered `n`, and
the next one is looked for from `place` on. -/
def insertAll (bias n place : Nat) (label : List Char) (cs : List Char) : Option (List Char) :=
  if cs = [] then some label
  else match _h : number? bias 36 1 place cs with
    | none => none
    | some (delta, rest) =>
      let count := label.length + 1
      let n := n + delta / count
      if n.isValidChar then
        insertAll (adapt (delta - place) count (place == 0)) n (delta % count + 1)
          (label.insertIdx (delta % count) (Char.ofNat n)) rest
      else none
termination_by cs.length
decreasing_by exact length_lt_of_number? _h

/-- The label that a text without the mark in front stands for. -/
def decode? (cs : List Char) : Option (List Char) :=
  let behind := (cs.reverse.takeWhile (· != '-')).reverse
  let plain := cs.take (cs.length - behind.length - 1)
  -- A hyphen at the very beginning ends nothing.
  let behind := if plain.isEmpty then cs else behind
  if plain.all fun c => c.toNat < 0x80 then insertAll 72 0x80 0 plain behind else none

end SimDepot.Domain.Punycode
