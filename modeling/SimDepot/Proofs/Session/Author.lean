import SimDepot.Proofs.Session.Rule

/-!
# Who brought it about

A deed brings about what is true of the store after it and was not before. `Chronicle.BroughtBy`
reads off a chronicle which session brought something about. Nothing that leaves the store as it is
adds to that, and where what was brought about stays true, it was brought about once, by one
session.
-/

namespace SimDepot

variable {ι : Type}

namespace Chronicle

/-- Session `i` brought about that `P` holds of the store. -/
def BroughtBy (h : Chronicle ι) (P : Store → Prop) (i : ι) : Prop :=
  ∃ d ∈ h.past, d.session = i ∧ ¬ P d.before ∧ P d.after

variable {h h' : Chronicle ι} {P : Store → Prop} {i j : ι}

@[simp] theorem not_broughtBy_start (s : Store) : ¬ (start s).BroughtBy P i := by
  simp [BroughtBy]

theorem broughtBy_note {turn : Turn} {s : Store} :
    (h.note j turn s).BroughtBy P i ↔ h.BroughtBy P i ∨ (j = i ∧ ¬ P h.store ∧ P s) := by
  simp [BroughtBy, or_and_right, exists_or]

/-- Leaving the store as it is brings nothing about. -/
@[simp] theorem broughtBy_note_store {turn : Turn} :
    (h.note j turn h.store).BroughtBy P i ↔ h.BroughtBy P i := by
  rw [broughtBy_note, or_iff_left fun hn => hn.2.1 hn.2.2]

theorem BroughtBy.extends (hb : h.BroughtBy P i) (he : h.Extends h') : h'.BroughtBy P i := by
  obtain ⟨d, hd, hi, hbrought⟩ := hb
  exact ⟨d, he.isPrefix_past.subset hd, hi, hbrought⟩

/-- What is true, and was not at first, was brought about by some session. -/
theorem exists_broughtBy {s : Store} (he : (start s).Extends h) (hs : ¬ P s) (hh : P h.store) :
    ∃ i, h.BroughtBy P i := by
  induction he with
  | refl => exact absurd hh hs
  | @note h he j turn s' ih =>
    by_cases hbefore : P h.store
    · obtain ⟨i, hi⟩ := ih hbefore
      exact ⟨i, broughtBy_note.2 (.inl hi)⟩
    · exact ⟨j, broughtBy_note.2 (.inr ⟨rfl, hbefore, hh⟩)⟩

section Kept

variable {s : Store} (he : (start s).Extends h) (hkeep : ∀ d ∈ h.past, P d.before → P d.after)

include he hkeep

/-- What is kept is true from the time on when it was brought about. -/
theorem BroughtBy.holds (hb : h.BroughtBy P i) : P h.store := by
  induction he with
  | refl => exact absurd hb (not_broughtBy_start s)
  | @note h _ j turn s' ih =>
    rcases broughtBy_note.1 hb with hb | ⟨-, -, hafter⟩
    · exact hkeep ⟨j, turn, h.store, s'⟩ (by simp) (ih (fun d hd => hkeep d (by simp [hd])) hb)
    · exact hafter

/-- No two sessions bring about what is kept. -/
theorem BroughtBy.unique (hi : h.BroughtBy P i) (hj : h.BroughtBy P j) : i = j := by
  induction he with
  | refl => exact absurd hi (not_broughtBy_start s)
  | @note h he k turn s' ih =>
    have hkeep' : ∀ d ∈ h.past, P d.before → P d.after := fun d hd => hkeep d (by simp [hd])
    -- What was brought about before holds already, so that the last deed did not bring it about.
    rcases broughtBy_note.1 hi with hi | ⟨rfl, hfree, -⟩ <;>
      rcases broughtBy_note.1 hj with hj | ⟨rfl, hfree', -⟩
    · exact ih hkeep' hi hj
    · exact absurd (hi.holds he hkeep') hfree'
    · exact absurd (hj.holds he hkeep') hfree
    · rfl

end Kept

end Chronicle

/-- While a session changes nothing that lasts, it brings nothing about. -/
theorem Meantime.broughtBy_iff {i : ι} {law : Chronicle ι → Prop} {st : Standing}
    {h h' : Chronicle ι} (hm : Meantime i law st h h') {P : Store → Prop} :
    h'.BroughtBy P i ↔ h.BroughtBy P i := by
  induction hm with
  | refl => rfl
  | other _ hj _ _ ih => rw [Chronicle.broughtBy_note, ih, or_iff_left fun hn => hj hn.1]
  | own _ turn _ ih => rw [Chronicle.broughtBy_note_store, ih]

end SimDepot
