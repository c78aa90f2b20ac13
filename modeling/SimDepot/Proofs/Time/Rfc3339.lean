import SimDepot.Proofs.Text.Digits
import SimDepot.Time.Rfc3339

/-!
# Reading timestamps that were written

Every part of a timestamp is read back from its text, whatever follows it, as long as that cannot be
taken for more of it: a number is followed by a mark, and the fraction of a second by the letter for
UTC. So the text of a timestamp describes it (`read?_write`): in every year that a date can hold,
with any number of nanoseconds, and in a leap second.
-/

namespace SimDepot.Rfc3339

open Text

variable {n width nano : Nat} {c : Char} {rest : List Char}

/-! ## Numbers and marks -/

theorem trimLeft_cons (hc : isSpace c = false) : trimLeft (c :: rest) = c :: rest := by
  rw [trimLeft, List.dropWhile_cons_of_neg (by simp [hc])]

theorem isSpace_of_isDigit (hc : c.isDigit) : isSpace c = false := by
  have hrange : 48 ≤ c.val.toNat ∧ c.val.toNat ≤ 57 := by
    simpa [Char.isDigit, UInt32.le_iff_toNat_le] using hc
  unfold isSpace
  generalize c.val = v at hrange
  simp [UInt32.le_iff_toNat_le, ← UInt32.toNat_inj]
  omega

/-- In front of a number there is nothing to trim. -/
theorem trimLeft_padded : trimLeft (padded width n ++ rest) = padded width n ++ rest := by
  obtain ⟨d, ds, hd⟩ := List.exists_cons_of_ne_nil (padded_ne_nil width n)
  have hdigit : d.isDigit := isDigit_of_mem_padded (hd ▸ List.mem_cons_self)
  rw [hd, List.cons_append, trimLeft_cons (isSpace_of_isDigit hdigit)]

theorem takeWhile_padded :
    (padded width n).takeWhile Char.isDigit = padded width n :=
  List.takeWhile_eq_self_iff.2 fun _ hd => isDigit_of_mem_padded hd

/-- A number with as many digits as are asked for is read. -/
theorem readDigits_padded (hwidth : 0 < width) (h : n < 10 ^ width) :
    readDigits width (padded width n ++ rest) = some (n, rest) := by
  have htake : (padded width n ++ rest).take width = padded width n :=
    List.take_left' (length_padded hwidth h)
  simp only [readDigits, htake, takeWhile_padded]
  rw [if_neg (padded_ne_nil _ _), valueOf_padded, List.drop_left]

/-- Without a bound on the digits, those are read that are there. -/
theorem readDigits_all (hrest : EndsDigits rest) :
    readDigits (padded width n ++ rest).length (padded width n ++ rest) = some (n, rest) := by
  have htake : (padded width n ++ rest).takeWhile Char.isDigit = padded width n :=
    takeWhile_isDigit_append (fun _ => isDigit_of_mem_padded) hrest
  simp only [readDigits, List.take_length, htake]
  rw [if_neg (padded_ne_nil _ _), valueOf_padded, List.drop_left]

theorem readNumber_padded (h : n < 100) :
    readNumber 2 (padded 2 n ++ rest) = some (n, rest) := by
  rw [readNumber, trimLeft_padded, readDigits_padded (by decide) (by omega)]

theorem readMark_cons (hc : isSpace c = false) : readMark c (c :: rest) = some rest := by
  simp only [readMark, trimLeft_cons hc, if_pos]

/-! ## The parts of a timestamp -/

theorem readYear_minus : readYear ('-' :: rest) =
    (readDigits rest.length rest).map fun p => (-(p.1 : Int), p.2) := by
  simp only [readYear, trimLeft_cons (by decide : isSpace '-' = false)]

theorem readYear_plus : readYear ('+' :: rest) =
    (readDigits rest.length rest).map fun p => ((p.1 : Int), p.2) := by
  simp only [readYear, trimLeft_cons (by decide : isSpace '+' = false)]

theorem readYear_digit (hc : c.isDigit) : readYear (c :: rest) =
    (readDigits 4 (c :: rest)).map fun p => ((p.1 : Int), p.2) := by
  rw [readYear, trimLeft_cons (isSpace_of_isDigit hc)]
  split
  next h =>
    cases h
    cases hc
  next h =>
    cases h
    cases hc
  next => rfl

/-- A year is read up to the mark behind it. -/
theorem readYear_writeYear (year : Int) (hrest : EndsDigits rest) :
    readYear (writeYear year ++ rest) = some (year, rest) := by
  unfold writeYear
  split
  next hfour =>
    have hread : readDigits 4 (padded 4 year.toNat ++ rest) = some (year.toNat, rest) :=
      readDigits_padded (by decide) (by omega)
    obtain ⟨d, ds, hd⟩ := List.exists_cons_of_ne_nil (padded_ne_nil 4 year.toNat)
    have hdigit : d.isDigit := isDigit_of_mem_padded (hd ▸ List.mem_cons_self)
    rw [hd, List.cons_append] at hread ⊢
    rw [readYear_digit hdigit, hread]
    simp [Int.toNat_of_nonneg hfour.1]
  next hsigned =>
    rw [List.cons_append]
    by_cases hneg : year < 0
    · rw [if_pos hneg, readYear_minus, readDigits_all hrest]
      simp only [Option.map_some, Option.some.injEq, Prod.mk.injEq, and_true]
      omega
    · rw [if_neg hneg, readYear_plus, readDigits_all hrest]
      simp only [Option.map_some, Option.some.injEq, Prod.mk.injEq, and_true]
      omega

/-- Digits behind a point are read as nanoseconds, as far as their number tells. -/
theorem readFraction_padded {k m : Nat} (hk : 0 < k) (hk' : k ≤ 9) (hm : m < 10 ^ k)
    (hrest : EndsDigits rest) :
    readFraction ('.' :: padded k m ++ rest) = some (m * Nat.pow 10 (9 - k), rest) := by
  have htake : (padded k m ++ rest).takeWhile Char.isDigit = padded k m :=
    takeWhile_isDigit_append (fun _ => isDigit_of_mem_padded) hrest
  have hlength := length_padded hk hm
  have hkept : (padded k m).take 9 = padded k m := List.take_of_length_le (by omega)
  simp only [List.cons_append, readFraction, htake, hkept]
  rw [if_neg (padded_ne_nil _ _), valueOf_padded, List.drop_left, hlength]

/-- The fraction of a second is read, whether it has none, three, six or nine digits. -/
theorem readFraction_writeFraction (h : nano < 1000000000) :
    readFraction (writeFraction nano ++ 'Z' :: rest) = some (nano, 'Z' :: rest) := by
  have hrest : EndsDigits ('Z' :: rest) := by
    rintro c ⟨⟩
    decide
  unfold writeFraction
  split
  next hzero =>
    subst hzero
    rfl
  split
  next hmilli =>
    rw [readFraction_padded (by decide) (by decide) (by omega) hrest]
    have : nano / 1000000 * 1000000 = nano := by omega
    simpa using this
  split
  next hmicro =>
    rw [readFraction_padded (by decide) (by decide) (by omega) hrest]
    have : nano / 1000 * 1000 = nano := by omega
    simpa using this
  next =>
    rw [readFraction_padded (by decide) (by decide) (by omega) hrest]
    simp

theorem readOffset_utc : readOffset ('Z' :: rest) = some (0, rest) := rfl

/-! ## Timestamps -/

theorem month_lt (d : Date) : d.month < 100 := by
  have hdays := d.valid.2.2
  unfold daysInMonth at hdays
  split at hdays <;> omega

theorem day_lt (d : Date) : d.day < 100 := by
  have hdays := d.valid.2.2.2
  unfold daysInMonth at hdays
  split at hdays <;> try omega
  split at hdays <;> omega

theorem readChars_writeChars (t : Timestamp) : readChars (writeChars t) = some t := by
  obtain ⟨hhour, hminute, hsecond, hnano⟩ := t.time.valid
  have hdash (cs : List Char) : EndsDigits ('-' :: cs) := by
    rintro c ⟨⟩
    decide
  simp only [writeChars, List.append_assoc, List.cons_append]
  -- One part after the other, each with what follows it.
  refine Option.bind_eq_some_iff.2 ⟨_, readYear_writeYear _ (hdash _), ?_⟩
  refine Option.bind_eq_some_iff.2 ⟨_, readMark_cons (by decide), ?_⟩
  refine Option.bind_eq_some_iff.2 ⟨_, readNumber_padded (month_lt t.date), ?_⟩
  refine Option.bind_eq_some_iff.2 ⟨_, readMark_cons (by decide), ?_⟩
  refine Option.bind_eq_some_iff.2 ⟨_, readNumber_padded (day_lt t.date), ?_⟩
  refine Option.bind_eq_some_iff.2 ⟨_, rfl, ?_⟩
  refine Option.bind_eq_some_iff.2 ⟨_, readNumber_padded (by omega), ?_⟩
  refine Option.bind_eq_some_iff.2 ⟨_, readMark_cons (by decide), ?_⟩
  refine Option.bind_eq_some_iff.2 ⟨_, readNumber_padded (by omega), ?_⟩
  refine Option.bind_eq_some_iff.2 ⟨_, readMark_cons (by decide), ?_⟩
  refine Option.bind_eq_some_iff.2 ⟨_, readNumber_padded (by omega), ?_⟩
  refine Option.bind_eq_some_iff.2 ⟨_, readFraction_writeFraction hnano, ?_⟩
  refine Option.bind_eq_some_iff.2 ⟨_, readOffset_utc, ?_⟩
  simp [trimLeft, Date.ofParts?_self, TimeOfDay.ofParts?_self, Timestamp.ofLocal?_zero]

/-- The text of a timestamp describes it. -/
theorem read?_write (t : Timestamp) : read? (write t) = some t := by
  rw [read?, write, String.toList_ofList, readChars_writeChars]

end SimDepot.Rfc3339
