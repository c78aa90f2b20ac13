/-!
# Parts of a text

Characters cut at a separator. There is one part more than there are separators.
-/

namespace SimDepot.Text

/-- The parts between the separators. -/
def parts (separator : Char) : List Char → List (List Char)
  | [] => [[]]
  | c :: rest =>
    if c = separator then [] :: parts separator rest
    else match parts separator rest with
      | p :: ps => (c :: p) :: ps
      | [] => [[c]]

theorem parts_ne_nil (separator : Char) (cs : List Char) : parts separator cs ≠ [] := by
  cases cs with
  | nil => simp [parts]
  | cons c rest =>
    simp only [parts]
    split
    · simp
    · split <;> simp

/-- A text without the separator is its only part. -/
theorem parts_of_not_mem {separator : Char} {cs : List Char} (h : separator ∉ cs) :
    parts separator cs = [cs] := by
  induction cs with
  | nil => rfl
  | cons c rest ih =>
    rw [List.mem_cons, not_or] at h
    rw [parts, if_neg (Ne.symm h.1), ih h.2]

/-- The parts on both sides of a separator are the parts of the whole. -/
theorem parts_append_cons (separator : Char) (front back : List Char) :
    parts separator (front ++ separator :: back) =
      parts separator front ++ parts separator back := by
  induction front with
  | nil => simp [parts]
  | cons c rest ih =>
    rw [List.cons_append, parts, parts, ih]
    split
    · rfl
    · obtain ⟨p, ps, hp⟩ := List.exists_cons_of_ne_nil (parts_ne_nil separator rest)
      rw [hp]
      rfl

end SimDepot.Text
