import Mathlib.Data.List.TakeWhile
import Mathlib.Data.Nat.Digits.Defs
import SimDepot.Text.Digits

/-!
# Numbers and their digits

The decimal digits of a number, with or without zeros in front, have the number as their value. A
reader that takes digits for as long as there are any takes just these, if no digit follows.
-/

namespace SimDepot.Text

variable {n width : Nat} {c : Char} {cs rest : List Char}

theorem valueOf_eq_ofDigitChars (cs : List Char) : valueOf cs = Nat.ofDigitChars 10 cs 0 := by
  simp only [valueOf, Nat.ofDigitChars, Nat.mul_comm]

@[simp] theorem valueOf_toDigits (n : Nat) : valueOf (Nat.toDigits 10 n) = n := by
  rw [valueOf_eq_ofDigitChars, Nat.ofDigitChars_toDigits (by decide) (by decide)]

theorem valueOf_replicate_append (k : Nat) (cs : List Char) :
    valueOf (List.replicate k '0' ++ cs) = valueOf cs := by
  induction k with
  | zero => rfl
  | succ k ih => exact ih

@[simp] theorem valueOf_padded (width n : Nat) : valueOf (padded width n) = n := by
  rw [padded, valueOf_replicate_append, valueOf_toDigits]

theorem isDigit_of_mem_padded (h : c ∈ padded width n) : c.isDigit := by
  rcases List.mem_append.1 h with h | h
  · rw [List.eq_of_mem_replicate h]
    decide
  · exact Nat.isDigit_of_mem_toDigits (by decide) (by decide) h

theorem padded_ne_nil (width n : Nat) : padded width n ≠ [] := by
  simp [padded, Nat.toDigits_ne_nil]

theorem length_padded (hwidth : 0 < width) (h : n < 10 ^ width) :
    (padded width n).length = width := by
  have hlength := (Nat.length_toDigits_le_iff (b := 10) (by decide) hwidth).2 h
  simp only [padded, List.length_append, List.length_replicate]
  omega

/-- Only zero begins with a zero. -/
theorem toDigits_ne_zero_cons (n : Nat) (c : Char) (cs : List Char) :
    Nat.toDigits 10 n ≠ '0' :: c :: cs := by
  induction n using Nat.strong_induction_on generalizing c cs with
  | _ n ih =>
    rw [Nat.toDigits_eq_if (by decide)]
    split
    · simp
    next hn =>
      intro h
      cases hfront : Nat.toDigits 10 (n / 10) with
      | nil => exact Nat.toDigits_ne_nil hfront
      | cons d ds =>
        rw [hfront, List.cons_append] at h
        obtain ⟨rfl, -⟩ := List.cons.inj h
        cases ds with
        | cons e es => exact ih _ (by omega) e es hfront
        | nil =>
          have hvalue := congrArg valueOf hfront
          rw [valueOf_toDigits] at hvalue
          have hzero : valueOf ['0'] = 0 := rfl
          omega

/-- No digit stands first. -/
def EndsDigits (cs : List Char) : Prop := ∀ c ∈ cs.head?, c.isDigit = false

theorem takeWhile_isDigit_append (hcs : ∀ c ∈ cs, c.isDigit) (hrest : EndsDigits rest) :
    (cs ++ rest).takeWhile Char.isDigit = cs := by
  rw [List.takeWhile_append_of_pos hcs]
  cases rest with
  | nil => simp
  | cons c rest => simp [hrest c rfl]

end SimDepot.Text
