import SimDepot.Proofs.Store.Effect

/-!
# How the stock grows

SIMs that are stored without an identity of their own go to the end of the table, under the next
identities in order. While there are identities left, storing a list of them succeeds exactly when
the card numbers differ from each other and from those that are stored; `Store.Accepts` says that.
-/

namespace SimDepot

namespace Table

variable {α : Type} [Row α] {t : Table α}

/-- A row under the next identity is taken and goes to the end, if it shares no text. -/
theorem add_of_apart {r : α} (hid : Row.id r = t.last + 1) (hapart : ∀ a ∈ t.rows, Row.Apart a r) :
    ∃ t', t.add r = .ok t' ∧ t'.rows = t.rows ++ [r] ∧ t'.last = t.last + 1 := by
  have hfree : ∀ a ∈ t.rows, Row.id a ≠ Row.id r := by
    intro a ha
    have := t.bounded a ha
    omega
  have hadd : ∃ t', t.add r = .ok t' := by
    unfold add
    rw [dif_pos hfree, dif_pos hapart]
    exact ⟨_, rfl⟩
  obtain ⟨t', ht'⟩ := hadd
  obtain ⟨hrows, hlast⟩ := rows_add_of_last_lt (by omega) ht'
  exact ⟨t', ht', hrows, hlast.trans hid⟩

/-- A row under the next identity that shares a text with another one is not taken. -/
theorem add_of_not_apart {r : α} (hid : Row.id r = t.last + 1)
    (hclash : ¬ ∀ a ∈ t.rows, Row.Apart a r) : t.add r = .error .text := by
  have hfree : ∀ a ∈ t.rows, Row.id a ≠ Row.id r := by
    intro a ha
    have := t.bounded a ha
    omega
  unfold add
  rw [dif_pos hfree, dif_neg hclash]

/-- A table is its rows and the largest identity it ever held. -/
theorem eq_of_rows_of_last {t' : Table α} (hrows : t.rows = t'.rows) (hlast : t.last = t'.last) :
    t = t' := by
  cases t
  cases t'
  cases hrows
  cases hlast
  rfl

theorem nextId?_of_lt (h : t.last < maxId) : t.nextId? = some (t.last + 1) := if_pos h

end Table

namespace Store

section Rows

variable {α : Type} [Row α] (table column : String) {t : Table α} (row : Int → α)

/-- While there are identities left, a row that shares no text is stored at the end. -/
theorem insertRow_of_apart (hroom : t.last < maxId) (hid : ∀ id, Row.id (row id) = id)
    (hapart : ∀ a ∈ t.rows, Row.Apart a (row (t.last + 1))) :
    ∃ t', insertRow table column t none row = .ok (t', row (t.last + 1)) ∧
      t'.rows = t.rows ++ [row (t.last + 1)] ∧ t'.last = t.last + 1 := by
  obtain ⟨t', hadd, hrows, hlast⟩ := Table.add_of_apart (hid _) hapart
  refine ⟨t', ?_, hrows, hlast⟩
  simp [insertRow, Table.nextId?_of_lt hroom, hadd]

/-- While there are identities left, a row that shares a text is refused. -/
theorem insertRow_of_not_apart (hroom : t.last < maxId) (hid : ∀ id, Row.id (row id) = id)
    (hclash : ¬ ∀ a ∈ t.rows, Row.Apart a (row (t.last + 1))) :
    insertRow table column t none row = .error (.duplicate (table ++ "." ++ column)) := by
  simp [insertRow, Table.nextId?_of_lt hroom, Table.add_of_not_apart (hid _) hclash]

end Rows

variable {s s₁ s' : Store} {d : SimDraft} {drafts : List SimDraft}

/-- The SIMs `new` were added at the end, and nothing else has changed. -/
structure Grown (s s' : Store) (new : List Sim) : Prop where
  /-- The SIMs that were stored are followed by the new ones. -/
  rows : s'.sims.rows = s.sims.rows ++ new
  /-- Every new SIM used up one identity. -/
  last : s'.sims.last = s.sims.last + new.length
  /-- The other tables are as they were. -/
  rest : s' = { s with sims := s'.sims }

theorem Grown.refl (s : Store) : s.Grown s [] := ⟨by simp, by simp, rfl⟩

/-- What was added determines what is stored then. -/
theorem Grown.unique {new : List Sim} (h : s.Grown s₁ new) (h' : s.Grown s' new) : s₁ = s' := by
  have hsims : s₁.sims = s'.sims :=
    Table.eq_of_rows_of_last (h.rows.trans h'.rows.symm) (h.last.trans h'.last.symm)
  rw [h.rest, h'.rest, hsims]

theorem Grown.trans {early late : List Sim} (h : s.Grown s₁ early) (h' : s₁.Grown s' late) :
    s.Grown s' (early ++ late) where
  rows := by rw [h'.rows, h.rows, List.append_assoc]
  last := by
    rw [h'.last, h.last, List.length_append]
    omega
  rest := by
    rw [h'.rest, h.rest]

/-- What SIMs refer to does not depend on the stock. -/
theorem Grown.hasReferences {new : List Sim} (h : s.Grown s' new) (sim : SimData) :
    s'.hasReferences sim = s.hasReferences sim := by
  rw [h.rest]
  rfl

end Store

/-- SIMs under the identities that follow `last`, in order. -/
def SimData.numbered (last : Int) : List SimData → List Sim
  | [] => []
  | d :: rest => { d with id := last + 1 } :: numbered (last + 1) rest

namespace SimData

@[simp] theorem map_toSimData_numbered (last : Int) (ds : List SimData) :
    (numbered last ds).map Sim.toSimData = ds := by
  induction ds generalizing last with
  | nil => rfl
  | cons d rest ih => simp [numbered, ih]

@[simp] theorem length_numbered (last : Int) (ds : List SimData) :
    (numbered last ds).length = ds.length := by
  induction ds generalizing last with
  | nil => rfl
  | cons d rest ih => simp [numbered, ih]

theorem lt_id_of_mem_numbered {last : Int} {ds : List SimData} {r : Sim}
    (hr : r ∈ numbered last ds) : last < r.id := by
  induction ds generalizing last with
  | nil => cases hr
  | cons d rest ih =>
    rcases List.mem_cons.1 hr with rfl | hr
    · show last < last + 1
      omega
    · have := ih hr
      omega

end SimData

namespace Store

variable {s s' : Store} {d : SimDraft} {drafts : List SimDraft}

/-! ## One SIM -/

theorem addSim_of_fresh (hid : d.id? = none) (hroom : s.sims.last < maxId)
    (hfresh : ∀ r ∈ s.sims.rows, r.iccid ≠ d.iccid) :
    ∃ s', s.addSim d = .ok s' ∧ s.Grown s' [{ d.toSimData with id := s.sims.last + 1 }] := by
  have hapart : ∀ a ∈ s.sims.rows,
      Row.Apart a ({ d.toSimData with id := s.sims.last + 1 } : Sim) := by
    intro a ha
    exact .inr fun h => hfresh a ha (Option.some.inj h)
  obtain ⟨t, hinsert, hrows, hlast⟩ := insertRow_of_apart "sim_resources" "iccid"
    (fun id => ({ d.toSimData with id } : Sim)) hroom (fun _ => rfl) hapart
  refine ⟨{ s with sims := t }, ?_, hrows, hlast, rfl⟩
  simp [addSim, hid, hinsert, bind, Except.bind, pure, Except.pure]

theorem addSim_of_taken (hid : d.id? = none) (hroom : s.sims.last < maxId)
    (htaken : ∃ r ∈ s.sims.rows, r.iccid = d.iccid) :
    s.addSim d = .error (.duplicate "sim_resources.iccid") := by
  have hclash : ¬ ∀ a ∈ s.sims.rows,
      Row.Apart a ({ d.toSimData with id := s.sims.last + 1 } : Sim) := by
    intro hapart
    obtain ⟨r, hr, hiccid⟩ := htaken
    rcases hapart r hr with h | h
    · cases h
    · exact h (congrArg some hiccid)
  have hinsert := insertRow_of_not_apart "sim_resources" "iccid"
    (fun id => ({ d.toSimData with id } : Sim)) hroom (fun _ => rfl) hclash
  simp only [addSim, hid, hinsert, bind, Except.bind]
  rfl

/-- A SIM without an identity that is stored goes to the end. -/
theorem grown_of_addSim (hid : d.id? = none) (h : s.addSim d = .ok s') :
    s.Grown s' [{ d.toSimData with id := s.sims.last + 1 }] := by
  by_cases hroom : s.sims.last < maxId
  · by_cases htaken : ∃ r ∈ s.sims.rows, r.iccid = d.iccid
    · rw [addSim_of_taken hid hroom htaken] at h
      cases h
    · obtain ⟨s₁, hs₁, hgrown⟩ := addSim_of_fresh hid hroom fun r hr he => htaken ⟨r, hr, he⟩
      rw [hs₁] at h
      cases h
      exact hgrown
  · simp [addSim, insertRow, hid, Table.nextId?, hroom, bind, Except.bind] at h

/-! ## Many SIMs -/

/-- The card numbers of the drafts differ from each other and from those that are stored. -/
structure Accepts (s : Store) (drafts : List SimDraft) : Prop where
  /-- They differ from each other. -/
  nodup : (drafts.map (·.iccid)).Nodup
  /-- None of them is stored. -/
  fresh : ∀ d ∈ drafts, ∀ r ∈ s.sims.rows, r.iccid ≠ d.iccid

theorem accepts_cons_iff (hgrown : s.Grown s' [{ d.toSimData with id := s.sims.last + 1 }]) :
    s.Accepts (d :: drafts) ↔ (∀ r ∈ s.sims.rows, r.iccid ≠ d.iccid) ∧ s'.Accepts drafts := by
  constructor
  · rintro ⟨hnodup, hfresh⟩
    rw [List.map_cons, List.nodup_cons] at hnodup
    refine ⟨hfresh d (by simp), hnodup.2, fun e he r hr => ?_⟩
    rw [hgrown.rows, List.mem_append, List.mem_singleton] at hr
    rcases hr with hr | rfl
    · exact hfresh e (by simp [he]) r hr
    · exact fun h => hnodup.1 (List.mem_map.2 ⟨e, he, h.symm⟩)
  · rintro ⟨hd, hnodup, hfresh⟩
    refine ⟨List.nodup_cons.2 ⟨fun hmem => ?_, hnodup⟩, fun e he r hr => ?_⟩
    · obtain ⟨e, he, hiccid⟩ := List.mem_map.1 hmem
      have hnew : { d.toSimData with id := s.sims.last + 1 } ∈ s'.sims.rows := by
        rw [hgrown.rows]
        simp
      exact hfresh e he _ hnew hiccid.symm
    · rcases List.mem_cons.1 he with rfl | he
      · exact hd r hr
      · exact hfresh e he r (by rw [hgrown.rows]; simp [hr])

/-- SIMs without identities that are stored go to the end, in order. -/
theorem grown_of_foldlM (hid : ∀ d ∈ drafts, d.id? = none) (h : drafts.foldlM addSim s = .ok s') :
    s.Grown s' (SimData.numbered s.sims.last (drafts.map (·.toSimData))) := by
  induction drafts generalizing s with
  | nil =>
    cases h
    exact .refl _
  | cons d rest ih =>
    rw [List.foldlM_cons] at h
    cases hadd : s.addSim d with
    | error refusal =>
      rw [hadd] at h
      cases h
    | ok s₁ =>
      rw [hadd] at h
      have hgrown := grown_of_addSim (hid d (by simp)) hadd
      have hlater := ih (fun e he => hid e (by simp [he])) h
      rw [hgrown.last] at hlater
      exact hgrown.trans hlater

/-- While there are identities left, storing SIMs succeeds exactly when their card numbers are
accepted, and fails for a repeated one otherwise. -/
theorem foldlM_addSim_cases (hid : ∀ d ∈ drafts, d.id? = none)
    (hroom : s.sims.last + drafts.length ≤ maxId) :
    (s.Accepts drafts ∧ ∃ s', drafts.foldlM addSim s = .ok s') ∨
      (¬ s.Accepts drafts ∧
        drafts.foldlM addSim s = .error (.duplicate "sim_resources.iccid")) := by
  induction drafts generalizing s with
  | nil => exact .inl ⟨⟨.nil, by simp⟩, s, rfl⟩
  | cons d rest ih =>
    rw [List.length_cons] at hroom
    rw [List.foldlM_cons]
    have hd := hid d (by simp)
    by_cases htaken : ∃ r ∈ s.sims.rows, r.iccid = d.iccid
    · refine .inr ⟨fun haccepts => ?_, ?_⟩
      · obtain ⟨r, hr, hiccid⟩ := htaken
        exact haccepts.fresh d (by simp) r hr hiccid
      · rw [addSim_of_taken hd (by omega) htaken]
        rfl
    · have hfresh : ∀ r ∈ s.sims.rows, r.iccid ≠ d.iccid := fun r hr he => htaken ⟨r, hr, he⟩
      obtain ⟨s₁, hadd, hgrown⟩ := addSim_of_fresh hd (by omega) hfresh
      have hlast : s₁.sims.last = s.sims.last + 1 := hgrown.last
      rw [hadd, accepts_cons_iff hgrown, and_iff_right hfresh]
      exact ih (fun e he => hid e (by simp [he])) (by omega)

/-- Where everything that the drafts refer to exists, storing them is storing one after the
other. -/
theorem addSims_of_hasReferences (hid : ∀ d ∈ drafts, d.id? = none)
    (href : ∀ d ∈ drafts, s.hasReferences d.toSimData) :
    s.addSims drafts = drafts.foldlM addSim s := by
  cases hfold : drafts.foldlM addSim s with
  | error refusal =>
    unfold addSims
    rw [hfold]
    rfl
  | ok s₁ =>
    refine addSims_eq_ok_iff.2 ⟨hfold, fun d hd => ?_⟩
    rw [(grown_of_foldlM hid hfold).hasReferences]
    exact href d hd

/-- SIMs without identities that a command stores go to the end, in order. -/
theorem grown_of_addSims (hid : ∀ d ∈ drafts, d.id? = none) (h : s.addSims drafts = .ok s') :
    s.Grown s' (SimData.numbered s.sims.last (drafts.map (·.toSimData))) :=
  grown_of_foldlM hid (addSims_eq_ok_iff.1 h).1

/-- A SIM without an identity that a command stores is as its draft says, under an identity of its
own. -/
theorem row_of_addSims (hid : ∀ d ∈ drafts, d.id? = none) (h : s.addSims drafts = .ok s') {r : Sim}
    (hr : r ∈ s'.sims.rows) :
    r ∈ s.sims.rows ∨
      (∃ d ∈ drafts, r.toSimData = d.toSimData) ∧ ∀ r₀ ∈ s.sims.rows, r₀.id ≠ r.id := by
  rw [(grown_of_addSims hid h).rows, List.mem_append] at hr
  refine hr.imp_right fun hnew => ⟨?_, fun r₀ hr₀ heq => ?_⟩
  · have hdata := List.mem_map_of_mem (f := Sim.toSimData) hnew
    rw [SimData.map_toSimData_numbered, List.mem_map] at hdata
    obtain ⟨d, hd, hrd⟩ := hdata
    exact ⟨d, hd, hrd.symm⟩
  · have hbound : r₀.id ≤ s.sims.last := s.sims.bounded r₀ hr₀
    have hlater := SimData.lt_id_of_mem_numbered hnew
    rw [← heq] at hlater
    exact Int.lt_irrefl _ (Int.lt_of_lt_of_le hlater hbound)

end Store

end SimDepot
