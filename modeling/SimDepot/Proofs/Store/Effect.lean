import Mathlib.Data.List.Pairwise
import SimDepot.Store.Command
import SimDepot.Store.Query

/-!
# What commands make of the SIMs

A command that is carried out changes one SIM that admits the change, adds SIMs, or leaves all SIMs
as they are. `Command.row_after` says where a SIM comes from that is stored after a command, and
`Command.row_before` what became of one that was stored before it. What every command keeps of the
SIMs follows from these two.
-/

namespace SimDepot

/-- What a SIM has in common with all others of its import. -/
structure Lot where
  /-- The batch. -/
  batch : BatchId
  /-- The registry. -/
  registry : RegistryId
  /-- The vendor. -/
  vendor : VendorId

/-- The lot that a SIM came with. -/
def SimData.lot (s : SimData) : Lot := ⟨s.batchId, s.registryId, s.vendorId⟩

/-- A change keeps it. -/
@[simp] theorem Sim.lot_change (r : Sim) (change : SimChange) : (r.change change).lot = r.lot := by
  cases change with
  | setRegistryState state => cases state <;> rfl
  | setVendorState state => cases state <;> rfl
  | _ => rfl

namespace Table

variable {α : Type} [Row α] {t : Table α} {id : Int} {guard : α → Bool} {f : α → α}
  {hid : ∀ r, Row.id (f r) = Row.id r} {htext : ∀ r, Row.uniqueText? (f r) = Row.uniqueText? r}

@[simp] theorem rows_update : (t.update id guard f hid htext).rows =
    t.rows.map fun r => if Row.id r == id && guard r then f r else r := rfl

/-- A table is its rows and the largest identity it ever held. -/
theorem eq_of_rows {t t' : Table α} (hrows : t.rows = t'.rows) (hlast : t.last = t'.last) :
    t = t' := by
  cases t
  cases t'
  cases hrows
  cases hlast
  rfl

/-- No two rows share a unique text. -/
theorem eq_of_uniqueText {a b : α} (ha : a ∈ t.rows) (hb : b ∈ t.rows) {text : String}
    (hatext : Row.uniqueText? a = some text) (hbtext : Row.uniqueText? b = some text) : a = b := by
  by_contra hne
  have hsymm : Std.Symm (Row.Apart (α := α)) := ⟨fun _ _ => Row.Apart.symm⟩
  rcases t.apart.forall ha hb hne with hnone | hapart
  · rw [hatext] at hnone
    cases hnone
  · exact hapart (hatext.trans hbtext.symm)

/-- At most one row has an identity, so at most one is changed. -/
theorem countMatching_le_one (t : Table α) (id : Int) (guard : α → Bool) :
    t.countMatching id guard ≤ 1 := by
  have hpair : (t.rows.filter fun r => Row.id r == id && guard r).Pairwise
      fun a b => Row.id a < Row.id b := t.sorted.filter _
  rw [countMatching, List.countP_eq_length_filter]
  match hl : t.rows.filter fun r => Row.id r == id && guard r with
  | [] | [_] => simp
  | a :: b :: rest =>
    have hmem : ∀ r ∈ a :: b :: rest, Row.id r = id := by
      intro r hr
      rw [← hl, List.mem_filter, Bool.and_eq_true, beq_iff_eq] at hr
      exact hr.2.1
    rw [hl, List.pairwise_cons] at hpair
    have hlt := hpair.1 b (by simp)
    have ha := hmem a (by simp)
    have hb := hmem b (by simp)
    omega

theorem countMatching_eq_one_iff :
    t.countMatching id guard = 1 ↔ ∃ r ∈ t.rows, Row.id r = id ∧ guard r := by
  have hle := t.countMatching_le_one id guard
  have hpos : 0 < t.countMatching id guard ↔ ∃ r ∈ t.rows, Row.id r = id ∧ guard r := by
    rw [countMatching, List.countP_pos_iff]
    simp
  rw [← hpos]
  omega

/-- The row that is found is the first one: no row before it would do. -/
theorem eq_false_of_lt_find? {p : α → Bool} {r a : α} (h : t.find? p = some r) (ha : a ∈ t.rows)
    (hlt : Row.id a < Row.id r) : p a = false := by
  obtain ⟨-, early, late, hrows, hearly⟩ := List.find?_eq_some_iff_append.1 h
  have hsorted := t.sorted
  rw [hrows] at ha hsorted
  have hlate := (List.pairwise_cons.1 (List.pairwise_append.1 hsorted).2.1).1
  rcases List.mem_append.1 ha with ha | ha
  · simpa using hearly a ha
  · rcases List.mem_cons.1 ha with rfl | ha
    · omega
    · have := hlate a ha
      omega

end Table

namespace Store

variable {s s' : Store}

theorem rows_changeSim (s : Store) (id : SimId) (change : SimChange) :
    (s.changeSim id change).1.sims.rows =
      s.sims.rows.map fun r => if r.id = id ∧ change.admits r.toSimData then r.change change
        else r := by
  refine List.map_congr_left fun r _ => ?_
  show (if (r.id == id && change.admits r.toSimData) = true then r.change change else r) = _
  simp only [Bool.and_eq_true, beq_iff_eq]

theorem changeSim_eq_one_iff {id : SimId} {change : SimChange} :
    (s.changeSim id change).2 = 1 ↔
      ∃ r ∈ s.sims.rows, r.id = id ∧ change.admits r.toSimData :=
  Table.countMatching_eq_one_iff

/-- A SIM that admits a change is stored as the change makes it. -/
theorem change_mem_changeSim {r : Sim} (hr : r ∈ s.sims.rows) {change : SimChange}
    (hadmits : change.admits r.toSimData) :
    r.change change ∈ (s.changeSim r.id change).1.sims.rows := by
  rw [rows_changeSim, List.mem_map]
  exact ⟨r, hr, if_pos ⟨rfl, hadmits⟩⟩

/-- The SIM that was changed is found again. -/
theorem eval_withId_changeSim {r : Sim} (hr : r ∈ s.sims.rows) {change : SimChange}
    (hadmits : change.admits r.toSimData) :
    Query.eval (s.changeSim r.id change).1 (.sim (.withId r.id)) = some (r.change change) :=
  Table.withId?_eq_some_iff.2 ⟨change_mem_changeSim hr hadmits, rfl⟩

/-- Where the guard of a change finds nothing, the store stays as it is. -/
theorem changeSim_of_eq_zero {id : SimId} {change : SimChange}
    (h : (s.changeSim id change).2 = 0) : (s.changeSim id change).1 = s := by
  have hrows : (s.changeSim id change).1.sims.rows = s.sims.rows := by
    rw [rows_changeSim]
    refine (List.map_congr_left fun r hr => if_neg fun hchange => ?_).trans (List.map_id' _)
    have hone := changeSim_eq_one_iff.2 ⟨r, hr, hchange⟩
    rw [h] at hone
    cases hone
  have hsims : (s.changeSim id change).1.sims = s.sims := Table.eq_of_rows hrows rfl
  show { s with sims := (s.changeSim id change).1.sims } = s
  rw [hsims]

theorem changeSim_cases (s : Store) (id : SimId) (change : SimChange) :
    (s.changeSim id change).2 = 0 ∨ (s.changeSim id change).2 = 1 := by
  have hle : (s.changeSim id change).2 ≤ 1 := Table.countMatching_le_one _ _ _
  omega

/-- A SIM that does not admit a change keeps the store from changing. -/
theorem changeSim_of_not_admits {r : Sim} (hr : r ∈ s.sims.rows) {change : SimChange}
    (hnot : change.admits r.toSimData = false) : s.changeSim r.id change = (s, 0) := by
  have hzero : (s.changeSim r.id change).2 = 0 := by
    rcases changeSim_cases s r.id change with hzero | hone
    · exact hzero
    · obtain ⟨r', hr', hid, hadmits⟩ := changeSim_eq_one_iff.1 hone
      rw [Table.id_inj hr' hr hid, hnot] at hadmits
      cases hadmits
  exact Prod.ext (changeSim_of_eq_zero hzero) hzero

/-- So does a SIM that is not stored. -/
theorem changeSim_of_absent {id : SimId} (habsent : ∀ r ∈ s.sims.rows, r.id ≠ id)
    {change : SimChange} : s.changeSim id change = (s, 0) := by
  have hzero : (s.changeSim id change).2 = 0 := by
    rcases changeSim_cases s id change with hzero | hone
    · exact hzero
    · obtain ⟨r, hr, hid, -⟩ := changeSim_eq_one_iff.1 hone
      exact absurd hid (habsent r hr)
  exact Prod.ext (changeSim_of_eq_zero hzero) hzero

/-- After a change a SIM is the one that was to be changed, as it is now, or another one, as it
was. -/
theorem mem_rows_changeSim {id : SimId} {change : SimChange} {r r' : Sim} (hr : r ∈ s.sims.rows)
    (hid : r.id = id) (hr' : r' ∈ (s.changeSim id change).1.sims.rows) :
    r' = (if change.admits r.toSimData then r.change change else r) ∨
      r' ∈ s.sims.rows ∧ r'.id ≠ id := by
  rw [rows_changeSim, List.mem_map] at hr'
  obtain ⟨r₀, hr₀, rfl⟩ := hr'
  by_cases hid₀ : r₀.id = id
  · obtain rfl := Table.id_inj hr₀ hr (hid₀.trans hid.symm)
    refine .inl ?_
    simp only [hid₀, true_and]
  · rw [if_neg fun h => hid₀ h.1]
    exact .inr ⟨hr₀, hid₀⟩

/-- A row that is stored is added to its table under some identity. -/
theorem insertRow_eq_ok {α : Type} [Row α] {table column : String} {t t' : Table α}
    {id? : Option Int} {row : Int → α} {r : α}
    (h : insertRow table column t id? row = .ok (t', r)) : ∃ id, r = row id ∧ t.add r = .ok t' := by
  unfold insertRow at h
  cases hid : id?.or t.nextId? with
  | none =>
    rw [hid] at h
    cases h
  | some id =>
    rw [hid] at h
    cases hadd : t.add (row id) with
    | error clash => cases clash <;> simp [hadd] at h
    | ok t₁ =>
      simp only [hadd, Except.ok.injEq, Prod.mk.injEq] at h
      obtain ⟨rfl, rfl⟩ := h
      exact ⟨id, rfl, hadd⟩

/-- A SIM that is stored is what was asked for, under some identity; all others stay. -/
theorem addSim_eq_ok {draft : SimDraft} (h : s.addSim draft = .ok s') :
    ∃ id, ∀ r, r ∈ s'.sims.rows ↔ r = { draft.toSimData with id } ∨ r ∈ s.sims.rows := by
  unfold addSim at h
  cases hrow : insertRow "sim_resources" "iccid" s.sims draft.id? fun id =>
      ({ draft.toSimData with id } : Sim) with
  | error refusal =>
    rw [hrow] at h
    cases h
  | ok added =>
    rw [hrow] at h
    cases h
    obtain ⟨id, hid, hadd⟩ := insertRow_eq_ok hrow
    exact ⟨id, fun r => hid ▸ Table.mem_rows_add hadd⟩

/-- SIMs that are stored are what was asked for, and all others stay. -/
theorem foldlM_addSim_eq_ok {drafts : List SimDraft} (h : drafts.foldlM addSim s = .ok s') :
    (∀ r ∈ s.sims.rows, r ∈ s'.sims.rows) ∧
      ∀ r ∈ s'.sims.rows, r ∈ s.sims.rows ∨ ∃ d ∈ drafts, r.toSimData = d.toSimData := by
  induction drafts generalizing s with
  | nil =>
    cases h
    exact ⟨fun _ hr => hr, fun _ hr => .inl hr⟩
  | cons draft rest ih =>
    rw [List.foldlM_cons] at h
    cases hadd : s.addSim draft with
    | error refusal =>
      rw [hadd] at h
      cases h
    | ok s₁ =>
      rw [hadd] at h
      obtain ⟨id, hs₁⟩ := addSim_eq_ok hadd
      obtain ⟨hstay, hnew⟩ := ih h
      refine ⟨fun r hr => hstay r ((hs₁ r).2 (.inr hr)), fun r hr => ?_⟩
      rcases hnew r hr with hr | ⟨d, hd, hrd⟩
      · rcases (hs₁ r).1 hr with rfl | hr
        · exact .inr ⟨draft, by simp, rfl⟩
        · exact .inl hr
      · exact .inr ⟨d, by simp [hd], hrd⟩

/-- Storing SIMs leaves the other tables as they are. -/
theorem rest_of_foldlM {drafts : List SimDraft} (h : drafts.foldlM addSim s = .ok s') :
    s' = { s with sims := s'.sims } := by
  induction drafts generalizing s with
  | nil =>
    cases h
    rfl
  | cons d rest ih =>
    rw [List.foldlM_cons] at h
    cases hadd : s.addSim d with
    | error refusal =>
      rw [hadd] at h
      cases h
    | ok s₁ =>
      rw [hadd] at h
      have hrest : s₁ = { s with sims := s₁.sims } := by
        unfold addSim at hadd
        generalize insertRow "sim_resources" "iccid" s.sims d.id? _ = added at hadd
        cases added with
        | error refusal => cases hadd
        | ok added =>
          cases hadd
          rfl
      rw [ih h, hrest]

/-- SIMs are stored one after the other, and only when what they refer to exists. -/
theorem addSims_eq_ok_iff {drafts : List SimDraft} : s.addSims drafts = .ok s' ↔
    drafts.foldlM addSim s = .ok s' ∧ ∀ d ∈ drafts, s'.hasReferences d.toSimData := by
  unfold addSims
  cases hfold : drafts.foldlM addSim s with
  | error refusal => exact ⟨nofun, fun h => nomatch h.1⟩
  | ok s₁ =>
    show (if (drafts.all fun d => s₁.hasReferences d.toSimData) = true then .ok s₁
      else .error .danglingReference) = (.ok s' : Except Refusal Store) ↔ _
    split
    next hall =>
      refine ⟨fun h => ?_, fun h => h.1⟩
      cases h
      exact ⟨rfl, List.all_eq_true.1 hall⟩
    next hnot =>
      refine ⟨nofun, fun ⟨h, hall⟩ => ?_⟩
      cases h
      exact absurd (List.all_eq_true.2 hall) hnot

theorem addSims_eq_ok {drafts : List SimDraft} (h : s.addSims drafts = .ok s') :
    (∀ r ∈ s.sims.rows, r ∈ s'.sims.rows) ∧
      ∀ r ∈ s'.sims.rows, r ∈ s.sims.rows ∨ ∃ d ∈ drafts, r.toSimData = d.toSimData :=
  foldlM_addSim_eq_ok (addSims_eq_ok_iff.1 h).1

/-- Storing an entry adds a row to the entries of its role and changes nothing else. -/
theorem addEntry_eq_ok {role : Role} {name : String} {e : Entry}
    (h : s.addEntry role name = .ok (s', e)) :
    ∃ t, insertRow (entryTable role) "name" (s.entries role) none
      (fun id => (⟨id, name⟩ : Entry)) = .ok (t, e) ∧ s' = s.setEntries role t := by
  unfold addEntry at h
  generalize insertRow (entryTable role) "name" (s.entries role) none _ = added at h ⊢
  cases added with
  | error refusal => cases h
  | ok added =>
    cases h
    exact ⟨added.1, rfl, rfl⟩

/-- A permission that is stored was not stored before, and its vendor and its registry exist. -/
theorem addPermission_eq_ok {p q : Permission} (h : s.addPermission p = .ok (s', q)) :
    q = p ∧ (s.vendors.hasId p.vendorId ∧ s.registries.hasId p.registryId) ∧
      ∃ hnodup, s' =
        { s with permissions := s.permissions ++ [p], nodup_permissions := hnodup } := by
  unfold addPermission at h
  split at h
  · cases h
  · split at h
    · cases h
    next hrefs =>
      cases h
      exact ⟨rfl, by simpa using hrefs, _, rfl⟩

/-- Opening a batch adds a row to the batches and changes nothing else. -/
theorem openBatch_eq_ok {importer : String} {registry : RegistryId} {vendor : VendorId}
    {time : Timestamp} {b : Batch} (h : s.openBatch importer registry vendor time = .ok (s', b)) :
    ∃ t, insertRow "import_batches" "id" s.batches none (fun id =>
      { id, importer, registryId := registry, vendorId := vendor, size := 0, status := .started,
        startedAt := time, endedAt := none }) = .ok (t, b) ∧ s' = { s with batches := t } := by
  unfold openBatch at h
  generalize insertRow "import_batches" "id" s.batches none _ = added at h ⊢
  cases added with
  | error refusal => cases h
  | ok added =>
    cases h
    exact ⟨added.1, rfl, rfl⟩

theorem sims_addEntry {role : Role} {name : String} {e : Entry}
    (h : s.addEntry role name = .ok (s', e)) : s'.sims = s.sims := by
  obtain ⟨t, -, rfl⟩ := addEntry_eq_ok h
  cases role <;> rfl

theorem sims_addPermission {p q : Permission} (h : s.addPermission p = .ok (s', q)) :
    s'.sims = s.sims := by
  obtain ⟨-, -, _, rfl⟩ := addPermission_eq_ok h
  rfl

theorem sims_openBatch {importer : String} {registry : RegistryId} {vendor : VendorId}
    {time : Timestamp} {b : Batch} (h : s.openBatch importer registry vendor time = .ok (s', b)) :
    s'.sims = s.sims := by
  obtain ⟨t, -, rfl⟩ := openBatch_eq_ok h
  rfl

end Store

namespace Command

variable {s s' : Store} {c : Command} {a : c.Answer}

theorem addSims_of_exec {drafts : List SimDraft} {a : (addSims drafts).Answer}
    (h : (addSims drafts).exec s = .ok (s', a)) : s.addSims drafts = .ok s' := by
  cases hadd : s.addSims drafts with
  | error refusal =>
    rw [exec, hadd] at h
    cases h
  | ok s₁ =>
    rw [exec, hadd] at h
    cases h
    rfl

theorem closeBatch_of_exec {id : BatchId} {size : Nat} {status : BatchStatus} {time : Timestamp}
    {n : Nat} (h : (closeBatch id size status time).exec s = .ok (s', n)) :
    s.closeBatch id size status time = (s', n) := by
  cases h
  rfl

/-- What a command can make of the SIMs. -/
theorem exec_sims (h : c.exec s = .ok (s', a)) :
    s'.sims = s.sims ∨ (∃ id change, c = .changeSim id change ∧ s' = (s.changeSim id change).1) ∨
      ∃ drafts, c = .addSims drafts ∧ s.addSims drafts = .ok s' := by
  cases c with
  | addEntry role name => exact .inl (Store.sims_addEntry h)
  | addPermission p => exact .inl (Store.sims_addPermission h)
  | openBatch importer registry vendor time => exact .inl (Store.sims_openBatch h)
  | closeBatch id size status time =>
    cases h
    exact .inl rfl
  | changeSim id change =>
    cases h
    exact .inr (.inl ⟨id, change, rfl, rfl⟩)
  | addSims drafts => exact .inr (.inr ⟨drafts, rfl, addSims_of_exec h⟩)

/-- A SIM that is stored after a command was there before, or the command changed it, or stored
it. -/
theorem row_after (h : c.exec s = .ok (s', a)) {r : Sim} (hr : r ∈ s'.sims.rows) :
    r ∈ s.sims.rows ∨
      (∃ r₀ ∈ s.sims.rows, ∃ change, c = .changeSim r₀.id change ∧ change.admits r₀.toSimData ∧
        r = r₀.change change) ∨
      ∃ drafts, c = .addSims drafts ∧ ∃ d ∈ drafts, r.toSimData = d.toSimData := by
  rcases exec_sims h with hsims | ⟨id, change, rfl, rfl⟩ | ⟨drafts, rfl, hadd⟩
  · rw [hsims] at hr
    exact .inl hr
  · rw [Store.rows_changeSim, List.mem_map] at hr
    obtain ⟨r₀, hr₀, rfl⟩ := hr
    split
    next hchange => exact .inr (.inl ⟨r₀, hr₀, change, by rw [hchange.1], hchange.2, rfl⟩)
    next => exact .inl hr₀
  · rcases (Store.addSims_eq_ok hadd).2 r hr with hr | hnew
    · exact .inl hr
    · exact .inr (.inr ⟨drafts, rfl, hnew⟩)

/-- A SIM that is stored before a command is there afterwards, unless the command changed it. -/
theorem row_before (h : c.exec s = .ok (s', a)) {r : Sim} (hr : r ∈ s.sims.rows) :
    r ∈ s'.sims.rows ∨
      ∃ change, c = .changeSim r.id change ∧ change.admits r.toSimData ∧
        r.change change ∈ s'.sims.rows := by
  rcases exec_sims h with hsims | ⟨id, change, rfl, rfl⟩ | ⟨drafts, rfl, hadd⟩
  · rw [hsims]
    exact .inl hr
  · have hmem := List.mem_map_of_mem (f := fun r : Sim =>
      if r.id = id ∧ change.admits r.toSimData then r.change change else r) hr
    rw [← Store.rows_changeSim] at hmem
    split at hmem
    next hchange => exact .inr ⟨change, by rw [hchange.1], hchange.2, hmem⟩
    next => exact .inl hmem
  · exact .inl ((Store.addSims_eq_ok hadd).1 r hr)

end Command

end SimDepot
