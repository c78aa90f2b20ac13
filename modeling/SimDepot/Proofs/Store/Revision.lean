import SimDepot.Proofs.Store.Effect

/-!
# Stores that differ in one SIM

An operation about one SIM changes this SIM and leaves everything else as it is: the other SIMs and
their order, the identities that were given out, and the other tables. `Store.Revised` says so of a
store before and after. Changes of the same SIM, one after the other, add up to one.
-/

namespace SimDepot

/-- From `s` to `s'` the SIM `r` became `r'`, and nothing else has changed. -/
structure Store.Revised (s : Store) (r r' : Sim) (s' : Store) : Prop where
  /-- The SIM was stored. -/
  mem : r ∈ s.sims.rows
  /-- It keeps its identity. -/
  id : r'.id = r.id
  /-- It is stored as it became, and the others are as they were. -/
  rows : s'.sims.rows = s.sims.rows.map fun q => if q = r then r' else q
  /-- No identity was given out. -/
  last : s'.sims.last = s.sims.last
  /-- Only SIMs have changed. -/
  rest : { s' with sims := s.sims } = s

namespace Store.Revised

variable {s s₁ s' : Store} {r r₁ r' : Sim}

theorem mem_after (h : s.Revised r r' s') : r' ∈ s'.sims.rows := by
  rw [h.rows]
  exact List.mem_map.2 ⟨r, h.mem, if_pos rfl⟩

/-- A store in which nothing has changed. -/
protected theorem refl (hr : r ∈ s.sims.rows) : s.Revised r r s where
  mem := hr
  id := rfl
  rows := by
    refine ((List.map_congr_left fun q _ => ?_).trans (List.map_id' _)).symm
    by_cases hsame : q = r
    · rw [if_pos hsame, hsame]
    · rw [if_neg hsame]
  last := rfl
  rest := rfl

/-- Where the SIM became what it was, nothing has changed. -/
theorem eq_of_self (h : s.Revised r r s') : s' = s := by
  have hrows : s'.sims.rows = s.sims.rows := h.rows.trans (Revised.refl h.mem).rows.symm
  have hsims : s.sims = s'.sims := Table.eq_of_rows hrows.symm h.last.symm
  rw [← h.rest, hsims]

theorem trans (h : s.Revised r r₁ s₁) (h' : s₁.Revised r₁ r' s') : s.Revised r r' s' where
  mem := h.mem
  id := h'.id.trans h.id
  rows := by
    rw [h'.rows, h.rows, List.map_map]
    refine List.map_congr_left fun q hq => ?_
    rw [Function.comp_apply]
    by_cases hsame : q = r
    · rw [if_pos hsame, if_pos rfl, if_pos hsame]
    · -- Another SIM has another identity, so it is not what `r` became either.
      have hother : q ≠ r₁ := fun heq => hsame (Table.id_inj hq h.mem (heq ▸ h.id))
      rw [if_neg hsame, if_neg hother, if_neg hsame]
  last := h'.last.trans h.last
  rest := (congrArg (fun t : Store => { t with sims := s.sims }) h'.rest).trans h.rest

end Store.Revised

/-- A change that a SIM admits changes this SIM only. -/
theorem Store.revised_changeSim {s : Store} {r : Sim} (hr : r ∈ s.sims.rows) {change : SimChange}
    (hadmits : change.admits r.toSimData) :
    s.Revised r (r.change change) (s.changeSim r.id change).1 where
  mem := hr
  id := Sim.id_change r change
  rows := by
    rw [rows_changeSim]
    refine List.map_congr_left fun q hq => ?_
    by_cases hsame : q = r
    · subst hsame
      rw [if_pos ⟨rfl, hadmits⟩, if_pos rfl]
    · rw [if_neg fun h => hsame (Table.id_inj hq hr h.1), if_neg hsame]
  last := rfl
  rest := rfl

end SimDepot
