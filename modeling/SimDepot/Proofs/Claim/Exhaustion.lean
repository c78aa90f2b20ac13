import Mathlib.Combinatorics.Enumerative.DoubleCounting
import Mathlib.Data.Fintype.Card
import SimDepot.Proofs.Claim.Contest
import SimDepot.Proofs.Claim.Taking

/-!
# Callers that exhaust a pool

Callers claim SIMs of one pool side by side, and nobody else writes. In whatever order their
requests fall it ends the same way: as many callers as possible get a SIM, each one of its own, and
the others learn that nothing is ready.

The argument is a count. `Won` says which SIMs were won so far, each by one caller. A caller that
loses a SIM does so to a caller that has won since, so in its attempt `n` at least `n - 1` SIMs are
won; and as it has won none itself, there are fewer of these than callers. No caller that competes
with at most 32 in all comes to the end of its attempts.
-/

namespace SimDepot

namespace Store

/-- The SIMs of a pool that are ready to use. -/
def readySims (s : Store) (pool : Pool) : List Sim := s.sims.select (SimQuery.ready pool).holds

/-- The store with the SIMs with these identities claimed. -/
def claimAll (s : Store) (ids : Finset SimId) : Store :=
  { s with
    sims := s.sims.mapRows (fun r => if r.id ∈ ids then r.change .claim else r)
      (fun r => by split <;> rfl) (fun r => by split <;> simp [Row.uniqueText?]) }

variable {s : Store} {pool : Pool} {ids : Finset SimId}

theorem mem_readySims {r : Sim} :
    r ∈ s.readySims pool ↔ r ∈ s.sims.rows ∧ r.pool = pool ∧ r.isReady := by
  simp [readySims, Table.select, SimQuery.holds]

theorem mem_rows_claimAll {r : Sim} : r ∈ (s.claimAll ids).sims.rows ↔
    ∃ r₀ ∈ s.sims.rows, (if r₀.id ∈ ids then r₀.change .claim else r₀) = r := by
  show r ∈ s.sims.rows.map _ ↔ _
  rw [List.mem_map]

/-- A SIM that is ready was so before, and is not one of those that were claimed. -/
theorem isReady_claimAll {r : Sim} (hr : r ∈ (s.claimAll ids).sims.rows) (hready : r.isReady) :
    r ∈ s.sims.rows ∧ r.id ∉ ids := by
  obtain ⟨r₀, hr₀, rfl⟩ := mem_rows_claimAll.1 hr
  split at hready
  next => simp [SimData.isReady, SimChange.apply] at hready
  next hid =>
    rw [if_neg hid]
    exact ⟨hr₀, hid⟩

theorem mem_rows_claimAll_of_not_mem {r : Sim} (hr : r ∈ s.sims.rows) (hid : r.id ∉ ids) :
    r ∈ (s.claimAll ids).sims.rows :=
  mem_rows_claimAll.2 ⟨r, hr, if_neg hid⟩

@[simp] theorem claimAll_empty (s : Store) : s.claimAll ∅ = s := by
  have hsims : (s.claimAll ∅).sims = s.sims :=
    Table.eq_of_rows (by simp [claimAll, Table.mapRows]) rfl
  show { s with sims := (s.claimAll ∅).sims } = s
  rw [hsims]

/-- Claiming one more SIM. -/
theorem changeSim_claimAll {r : Sim} (hr : r ∈ s.sims.rows) (hready : r.isReady)
    (hid : r.id ∉ ids) :
    ((s.claimAll ids).changeSim r.id .claim).1 = s.claimAll (insert r.id ids) := by
  have hsims : ((s.claimAll ids).changeSim r.id .claim).1.sims =
      (s.claimAll (insert r.id ids)).sims := by
    refine Table.eq_of_rows ?_ rfl
    rw [rows_changeSim]
    show (s.sims.rows.map _).map _ = s.sims.rows.map _
    rw [List.map_map]
    refine List.map_congr_left fun r' hr' => ?_
    simp only [Function.comp_apply, Finset.mem_insert]
    by_cases he : r'.id = r.id
    · obtain rfl := Table.id_inj hr' hr he
      rw [if_neg hid, if_pos ⟨rfl, hready⟩, if_pos (.inl rfl)]
    · split
      next hmem =>
        rw [if_neg fun hn => he hn.1, if_pos (.inr hmem)]
      next hmem =>
        rw [if_neg fun hn => he hn.1, if_neg (not_or.2 ⟨he, hmem⟩)]
  show { s with sims := ((s.claimAll ids).changeSim r.id .claim).1.sims } = _
  rw [hsims]
  rfl

end Store

/-! ## What was won so far -/

section Won

variable {ι : Type} {s : Store} {pool : Pool} {won : Finset SimId} {h : Chronicle ι}

/-- The SIMs with the identities `won` were claimed so far, each by one caller, and no caller has
claimed two. -/
structure Won (s : Store) (pool : Pool) (won : Finset SimId) (h : Chronicle ι) : Prop where
  /-- Nothing else has changed. -/
  store_eq : h.store = s.claimAll won
  /-- They are SIMs of the pool that were ready at first. -/
  ready : ∀ id ∈ won, ∃ r ∈ s.readySims pool, r.id = id
  /-- They are the SIMs that callers took. -/
  mem_iff : ∀ id, id ∈ won ↔ ∃ i, h.TakenBy i id
  /-- No caller took two. -/
  one_sim : ∀ {i id id'}, h.TakenBy i id → h.TakenBy i id' → id = id'
  /-- None was taken by two callers. -/
  one_caller : ∀ {i j id}, h.TakenBy i id → h.TakenBy j id → i = j

/-- Every SIM that was claimed so far was won by one caller, its only one. -/
def Fair (s : Store) (pool : Pool) (h : Chronicle ι) : Prop := ∃ won, Won s pool won h

theorem fair_start (s : Store) (pool : Pool) : Fair s pool (.start s : Chronicle ι) :=
  ⟨∅, by simp, by simp, by simp, fun h => absurd h (by simp), fun h => absurd h (by simp)⟩

theorem Won.note_store (hw : Won s pool won h) (i : ι) (turn : Turn) :
    Won s pool won (h.note i turn h.store) where
  store_eq := hw.store_eq
  ready := hw.ready
  mem_iff := by simpa using hw.mem_iff
  one_sim ht ht' := hw.one_sim (Chronicle.takenBy_note_store.1 ht)
    (Chronicle.takenBy_note_store.1 ht')
  one_caller ht ht' := hw.one_caller (Chronicle.takenBy_note_store.1 ht)
    (Chronicle.takenBy_note_store.1 ht')

theorem quiet_fair (i : ι) : Quiet i (Fair s pool) :=
  fun _ turn ⟨won, hw⟩ => ⟨won, hw.note_store i turn⟩

/-- What was won stays won. -/
theorem Won.subset {h' : Chronicle ι} {won' : Finset SimId} (hw : Won s pool won h)
    (hw' : Won s pool won' h') (he : h.Extends h') : won ⊆ won' := by
  intro id hid
  obtain ⟨i, hi⟩ := (hw.mem_iff id).1 hid
  exact (hw'.mem_iff id).2 ⟨i, hi.extends he⟩

/-- A SIM that is ready was so at first, and nobody has won it. -/
theorem Won.of_isReady (hw : Won s pool won h) {r : Sim} (hr : r ∈ h.store.sims.rows)
    (hready : r.isReady) : r ∈ s.sims.rows ∧ r.id ∉ won := by
  rw [hw.store_eq] at hr
  exact Store.isReady_claimAll hr hready

/-- A SIM that nobody has won is as it was at first. -/
theorem Won.mem_rows (hw : Won s pool won h) {r : Sim} (hr : r ∈ s.sims.rows) (hid : r.id ∉ won) :
    r ∈ h.store.sims.rows := by
  rw [hw.store_eq]
  exact Store.mem_rows_claimAll_of_not_mem hr hid

/-- A caller that has won nothing wins a SIM that is ready. -/
theorem Won.claim (hw : Won s pool won h) {i : ι} (hi : ∀ id, ¬ h.TakenBy i id) {r : Sim}
    (hr : r ∈ h.store.sims.rows) (hpool : r.pool = pool) (hready : r.isReady) (turn : Turn) :
    Won s pool (insert r.id won) (h.note i turn (h.store.changeSim r.id .claim).1) := by
  obtain ⟨hr₀, hnot⟩ := hw.of_isReady hr hready
  have htaken : ∀ {j id}, (h.note i turn (h.store.changeSim r.id .claim).1).TakenBy j id ↔
      h.TakenBy j id ∨ (i = j ∧ id = r.id) := by
    intro j id
    rw [Chronicle.takenBy_note, Store.hasClaimed_changeSim_claim hr hready]
    have hfree := Store.not_hasClaimed_of_isReady hr hready
    constructor
    · rintro (ht | ⟨rfl, hbefore, hafter⟩)
      · exact .inl ht
      · exact .inr ⟨rfl, hafter.resolve_right hbefore⟩
    · rintro (ht | ⟨rfl, rfl⟩)
      · exact .inl ht
      · exact .inr ⟨rfl, hfree, .inl rfl⟩
  have hnobody : ∀ j, ¬ h.TakenBy j r.id := fun j ht => hnot ((hw.mem_iff _).2 ⟨j, ht⟩)
  refine ⟨?_, fun id hid => ?_, fun id => ?_, fun {j id id'} ht ht' => ?_,
    fun {j k id} ht ht' => ?_⟩
  · rw [Chronicle.store_note, hw.store_eq, Store.changeSim_claimAll hr₀ hready hnot]
  · rcases Finset.mem_insert.1 hid with rfl | hid
    · exact ⟨r, Store.mem_readySims.2 ⟨hr₀, hpool, hready⟩, rfl⟩
    · exact hw.ready id hid
  · simp only [Finset.mem_insert, hw.mem_iff, htaken, exists_or, exists_eq_left', or_comm]
  · rcases htaken.1 ht with ht | ⟨rfl, rfl⟩ <;> rcases htaken.1 ht' with ht' | ⟨hj, rfl⟩
    · exact hw.one_sim ht ht'
    · exact absurd ht (hj ▸ hi id)
    · exact absurd ht' (hi id')
    · rfl
  · rcases htaken.1 ht with ht | ⟨rfl, rfl⟩ <;> rcases htaken.1 ht' with ht' | ⟨hk, hid⟩
    · exact hw.one_caller ht ht'
    · exact absurd (hid ▸ ht) (hnobody j)
    · exact absurd ht' (hnobody k)
    · exact hk

/-- While a caller has won nothing, fewer SIMs are won than there are callers. -/
theorem Won.card_lt [Fintype ι] (hw : Won s pool won h) {i : ι} (hi : ∀ id, ¬ h.TakenBy i id) :
    won.card < Fintype.card ι := by
  classical
  have hle : won.card ≤ (Finset.univ.erase i).card := by
    refine Finset.card_le_card_of_forall_subsingleton (fun id j => h.TakenBy j id) ?_ ?_
    · intro id hid
      obtain ⟨j, hj⟩ := (hw.mem_iff id).1 hid
      have hji : j ≠ i := by
        rintro rfl
        exact hi id hj
      exact ⟨j, by simp [hji], hj⟩
    · rintro j - id ⟨-, hid⟩ id' ⟨-, hid'⟩
      exact hw.one_sim hid hid'
  rw [Finset.card_erase_of_mem (Finset.mem_univ i), Finset.card_univ] at hle
  have hpos : 0 < Fintype.card ι := Fintype.card_pos_iff.2 ⟨i⟩
  omega

end Won

/-! ## Callers side by side -/

section Callers

variable {ι : Type} {s : Store} {pool : Pool} {i : ι}

/-- Session `i` begins its attempt `n`: it has won nothing, and all its attempts before were lost to
others. -/
def Striving (s : Store) (pool : Pool) (i : ι) (n : Nat) (h : Chronicle ι) : Prop :=
  ∃ won, Won s pool won h ∧ (∀ id, ¬ h.TakenBy i id) ∧ n ≤ won.card + 1

/-- What a caller gets: a SIM that was ready at first and that it took, or, where none is left, the
news of that. -/
def Verdict (s : Store) (pool : Pool) (i : ι) (h : Chronicle ι) : Except Error Sim → Prop
  | .ok sim => (∃ r ∈ s.readySims pool, sim = r.change .claim) ∧ h.TakenBy i sim.id
  | .error e => e = .notFound (.readySim pool) ∧ (∀ id, ¬ h.TakenBy i id) ∧
      ∀ r ∈ s.readySims pool, ∃ j, h.TakenBy j r.id

theorem Verdict.later {law : Chronicle ι → Prop} {st : Standing} {h h' : Chronicle ι}
    {res : Except Error Sim} (hv : Verdict s pool i h res) (hd : Drift i law st h h') :
    Verdict s pool i h' res := by
  cases res with
  | ok sim => exact ⟨hv.1, hv.2.extends hd.toExtends⟩
  | error e =>
    refine ⟨hv.1, fun id ht => hv.2.1 id (hd.takenBy_iff.1 ht), fun r hr => ?_⟩
    obtain ⟨j, hj⟩ := hv.2.2 r hr
    exact ⟨j, hj.extends hd.toExtends⟩

/-- With 32 callers at most, a claim that never fails for the store abides by fairness. -/
theorem contest_fair [Fintype ι] (hcallers : Fintype.card ι ≤ 32) :
    Stock.Contest pool i (Fair s pool) False (Striving s pool i)
      (fun res h => Verdict s pool i h res) where
  quiet := quiet_fair i
  lawful := fun ⟨won, hw, _⟩ => ⟨won, hw⟩
  keep := by
    rintro n h h' ⟨won, hw, hi, hn⟩ hm
    obtain ⟨won', hw'⟩ := hm.lawful ⟨won, hw⟩
    have hle := Finset.card_le_card (hw.subset hw' hm.toExtends)
    exact ⟨won', hw', fun id ht => hi id (hm.takenBy_iff.1 ht), by omega⟩
  claimed := by
    rintro n h h₁ h₂ c r ⟨won, hw, hi, hn⟩ hchosen hm hr hid hready
    obtain ⟨won₁, hw₁⟩ := hchosen.meantime.lawful ⟨won, hw⟩
    obtain ⟨won₂, hw₂⟩ := hm.lawful ⟨won₁, hw₁⟩
    have hi₂ : ∀ id, ¬ h₂.TakenBy i id := fun id ht =>
      hi id (hchosen.meantime.takenBy_iff.1 (hm.takenBy_iff.1 ht))
    have hr₀ := (hw₂.of_isReady hr hready).1
    -- Both were ready at first, so the SIM is the one that was chosen.
    have hrc : r = c := Table.id_inj hr₀ (hw₁.of_isReady hchosen.mem hchosen.ready).1 hid
    have hpool : r.pool = pool := hrc ▸ hchosen.pool_eq
    refine ⟨⟨_, hw₂.claim hi₂ hr hpool hready _⟩,
      ⟨r, Store.mem_readySims.2 ⟨hr₀, hpool, hready⟩, rfl⟩, ?_⟩
    have hfree := Store.not_hasClaimed_of_isReady hr hready
    rw [Chronicle.takenBy_note, Store.hasClaimed_changeSim_claim hr hready]
    exact .inr ⟨rfl, hfree, .inl rfl⟩
  lost := by
    rintro n h h₁ h₂ c ⟨won, hw, hi, hn⟩ hchosen hm hnone
    obtain ⟨won₁, hw₁⟩ := hchosen.meantime.lawful ⟨won, hw⟩
    obtain ⟨won₂, hw₂⟩ := hm.lawful ⟨won₁, hw₁⟩
    have hle := Finset.card_le_card (hw.subset hw₁ hchosen.meantime.toExtends)
    obtain ⟨hc, hnot⟩ := hw₁.of_isReady hchosen.mem hchosen.ready
    -- The SIM that was chosen has been won since.
    have hwon : c.id ∈ won₂ := by
      by_contra hfree
      have hready := hnone c (hw₂.mem_rows hc hfree) rfl
      rw [hchosen.ready] at hready
      cases hready
    have hlt : won₁.card < won₂.card :=
      Finset.card_lt_card ⟨hw₁.subset hw₂ hm.toExtends, fun hsub => hnot (hsub hwon)⟩
    exact ⟨won₂, hw₂, fun id ht => hi id (hchosen.meantime.takenBy_iff.1 (hm.takenBy_iff.1 ht)),
      by omega⟩
  nothingReady := by
    rintro n h h' ⟨won, hw, hi, hn⟩ hnone hm
    refine ⟨rfl, fun id ht => hi id (hm.takenBy_iff.1 ht), fun r hr => ?_⟩
    obtain ⟨hr, hpool, hready⟩ := Store.mem_readySims.1 hr
    have hwon : r.id ∈ won := by
      by_contra hfree
      rw [hnone r (hw.mem_rows hr hfree) hpool] at hready
      cases hready
    obtain ⟨j, hj⟩ := (hw.mem_iff r.id).1 hwon
    exact ⟨j, hj.extends hm.toExtends⟩
  again := fun hfaulty => hfaulty.elim
  failed := fun hfaulty => hfaulty.elim
  givenUp := by
    rintro h ⟨won, hw, hi, hn⟩
    have hlt := hw.card_lt hi
    have hmany : 32 + 1 ≤ won.card + 1 := hn
    omega

/-- How callers share the SIMs of a pool that are ready in the store `s`; `s'` is what lasts when
they are done. -/
structure Shares [Fintype ι] (s : Store) (pool : Pool) (result : ι → Except Error Sim)
    (s' : Store) : Prop where
  /-- As many callers as possible get a SIM. -/
  count : (Finset.univ.filter fun i => (result i).isOk).card =
    min (Fintype.card ι) (s.readySims pool).length
  /-- What they get was ready, and is claimed. -/
  ready : ∀ i sim, result i = .ok sim → ∃ r ∈ s.readySims pool, sim = r.change .claim
  /-- No two of them get the same SIM. -/
  distinct : ∀ i j sim sim', result i = .ok sim → result j = .ok sim' → sim.id = sim'.id → i = j
  /-- All others learn that nothing is ready. -/
  nothingReady : ∀ i e, result i = .error e → e = .notFound (.readySim pool)
  /-- What they got is claimed, and nothing else has changed. -/
  store_eq : ∃ ids : Finset SimId,
    (∀ id, id ∈ ids ↔ ∃ i sim, result i = .ok sim ∧ sim.id = id) ∧ s' = s.claimAll ids

theorem card_readySims (s : Store) (pool : Pool) :
    ((s.readySims pool).map (·.id)).toFinset.card = (s.readySims pool).length := by
  have hsorted : (s.readySims pool).Pairwise fun a b => a.id < b.id := s.sims.sorted.filter _
  have hnodup : ((s.readySims pool).map (·.id)).Nodup :=
    List.pairwise_map.2 (hsorted.imp fun h => Int.ne_of_lt h)
  rw [List.toFinset_card_of_nodup hnodup, List.length_map]

/-! ### Counting -/

variable {won : Finset SimId} {h : Chronicle ι} {result : ι → Except Error Sim}

theorem Verdict.of_ok (hv : ∀ i, Verdict s pool i h (result i)) {i : ι} {sim : Sim}
    (hi : result i = .ok sim) :
    (∃ r ∈ s.readySims pool, sim = r.change .claim) ∧ h.TakenBy i sim.id := by
  have hi' := hv i
  rw [hi] at hi'
  exact hi'

theorem Verdict.of_error (hv : ∀ i, Verdict s pool i h (result i)) {i : ι} {e : Error}
    (hi : result i = .error e) : e = .notFound (.readySim pool) ∧ (∀ id, ¬ h.TakenBy i id) ∧
      ∀ r ∈ s.readySims pool, ∃ j, h.TakenBy j r.id := by
  have hi' := hv i
  rw [hi] at hi'
  exact hi'

/-- The SIMs that were won are those that callers got. -/
theorem Won.mem_iff_ok (hw : Won s pool won h) (hv : ∀ i, Verdict s pool i h (result i))
    (id : SimId) : id ∈ won ↔ ∃ i sim, result i = .ok sim ∧ sim.id = id := by
  rw [hw.mem_iff]
  constructor
  · rintro ⟨i, hi⟩
    cases hres : result i with
    | ok sim => exact ⟨i, sim, hres, hw.one_sim (Verdict.of_ok hv hres).2 hi⟩
    | error e => exact absurd hi ((Verdict.of_error hv hres).2.1 id)
  · rintro ⟨i, sim, hres, rfl⟩
    exact ⟨i, (Verdict.of_ok hv hres).2⟩

/-- As many callers get a SIM as SIMs are won. -/
theorem Won.card_ok [Fintype ι] (hw : Won s pool won h) (hv : ∀ i, Verdict s pool i h (result i)) :
    (Finset.univ.filter fun i => (result i).isOk).card = won.card := by
  refine le_antisymm ?_ ?_
  · refine Finset.card_le_card_of_forall_subsingleton (fun i id => h.TakenBy i id) ?_ ?_
    · intro i hi
      obtain ⟨-, hi⟩ := Finset.mem_filter.1 hi
      cases hres : result i with
      | ok sim => exact ⟨sim.id, (hw.mem_iff_ok hv _).2 ⟨i, sim, hres, rfl⟩,
          (Verdict.of_ok hv hres).2⟩
      | error e =>
        rw [hres] at hi
        cases hi
    · rintro id - i ⟨-, hi⟩ j ⟨-, hj⟩
      exact hw.one_caller hi hj
  · refine Finset.card_le_card_of_forall_subsingleton (fun id i => h.TakenBy i id) ?_ ?_
    · intro id hid
      obtain ⟨i, sim, hres, rfl⟩ := (hw.mem_iff_ok hv id).1 hid
      refine ⟨i, Finset.mem_filter.2 ⟨Finset.mem_univ i, ?_⟩, (Verdict.of_ok hv hres).2⟩
      rw [hres]
      rfl
    · rintro i - id ⟨-, hid⟩ id' ⟨-, hid'⟩
      exact hw.one_sim hid hid'

/-- Not more SIMs are won than were ready. -/
theorem Won.card_le (hw : Won s pool won h) : won.card ≤ (s.readySims pool).length := by
  rw [← card_readySims]
  refine Finset.card_le_card fun id hid => ?_
  simpa using hw.ready id hid

/-- Once a caller learns that nothing is ready, all that was ready is won. -/
theorem Won.card_eq_of_error (hw : Won s pool won h) (hv : ∀ i, Verdict s pool i h (result i))
    {i : ι} {e : Error} (hi : result i = .error e) : won.card = (s.readySims pool).length := by
  refine le_antisymm hw.card_le ?_
  rw [← card_readySims]
  refine Finset.card_le_card fun id hid => ?_
  obtain ⟨r, hr, rfl⟩ := List.mem_map.1 (List.mem_toFinset.1 hid)
  exact (hw.mem_iff r.id).2 ((Verdict.of_error hv hi).2.2 r hr)

/-- Verdicts that fit what was won share the pool. -/
theorem shares_of_verdict [Fintype ι] (hw : Won s pool won h)
    (hv : ∀ i, Verdict s pool i h (result i)) : Shares s pool result h.store where
  count := by
    have hok := hw.card_ok hv
    have hcallers := Finset.card_filter_le Finset.univ fun i => (result i).isOk
    have hle := hw.card_le
    rw [Finset.card_univ] at hcallers
    by_cases hall : ∀ i, (result i).isOk
    · have huniv : (Finset.univ.filter fun i => (result i).isOk) = Finset.univ :=
        Finset.filter_true_of_mem fun i _ => hall i
      rw [huniv, Finset.card_univ] at hok ⊢
      omega
    · obtain ⟨i, hi⟩ := not_forall.1 hall
      cases hres : result i with
      | ok sim => exact absurd (by rw [hres]; rfl) hi
      | error e =>
        have heq := hw.card_eq_of_error hv hres
        omega
  ready _ _ hi := (Verdict.of_ok hv hi).1
  distinct _ _ _ _ hi hj hid :=
    hw.one_caller (Verdict.of_ok hv hi).2 (hid ▸ (Verdict.of_ok hv hj).2)
  nothingReady _ _ hi := (Verdict.of_error hv hi).1
  store_eq := ⟨won, hw.mem_iff_ok hv, hw.store_eq⟩

/-- Callers that claim SIMs of a pool share it fairly. -/
theorem orderly_claims {ι : Type} [Fintype ι] [DecidableEq ι] (hcallers : Fintype.card ι ≤ 32)
    (s : Store) (pool : Pool) :
    (World.start s fun _ : ι => (Stock.claim pool).run).Orderly (Fair s pool) False
      (fun i res _ h => Verdict s pool i h res) := by
  refine World.Orderly.start (fair_start s pool) fun i => ?_
  have hstriving : Striving s pool i 1 (.start s) := by
    obtain ⟨won, hw⟩ := fair_start (ι := ι) s pool
    exact ⟨won, hw, by simp, by omega⟩
  refine Flow.Abides.mono ((contest_fair hcallers).abides_claim hstriving) ?_
  rintro (e | sim) st h ⟨-, hv⟩ <;> exact hv

/-- Up to 32 callers claim SIMs of a pool while nobody else writes and the store does not fail. In
whatever order their requests are answered: when all are done, as many as possible have a SIM that
was ready, each one of its own, the others were told that nothing is ready, and nothing has changed
but that these SIMs are claimed. -/
theorem claims_share_pool {ι : Type} [Fintype ι] [DecidableEq ι] (hcallers : Fintype.card ι ≤ 32)
    (s : Store) (pool : Pool) {moves : List (Move ι)} (hsmooth : ∀ m ∈ moves, m.isSmooth)
    {w : World fun _ : ι => Except Error Sim}
    (hrun : (World.start s fun _ => (Stock.claim pool).run).run moves = some w)
    {result : ι → Except Error Sim} (hdone : ∀ i, w.rest i = .done (result i)) :
    Shares s pool result w.store := by
  have hend := (orderly_claims hcallers s pool).run (fun m hm => by
    simp [Move.not_isFault_of_isSmooth (hsmooth m hm)]) hrun
  have halive := World.not_isGone_of_smooth (by simp [World.start, Standing.isGone]) hsmooth hrun
  have hv : ∀ i, Verdict s pool i w.toChronicle (result i) := by
    intro i
    obtain ⟨h, hd, hv⟩ := hend.post_of_done (halive i) (hdone i)
    exact hv.later hd
  obtain ⟨won, hw⟩ := hend.lawful
  exact shares_of_verdict hw hv

end Callers

/-- A SIM that is ready to use. -/
def readyCard : Sim where
  id := 1
  iccid := "8947"
  imsi := "2420"
  msisdn := none
  eid := none
  profileType := "P"
  registryId := 1
  vendorId := 1
  batchId := 1
  registryState := .notActivated
  vendorState := .released
  provisionState := .available
  matchingId := some "M"
  suspendedAt := none

/-- A store with one SIM. -/
def oneReady : Store where
  registries := ⟨[⟨1, "Registry"⟩], 1, by simp, by simp, by simp [Row.id]⟩
  vendors := ⟨[⟨1, "Vendor"⟩], 1, by simp, by simp, by simp [Row.id]⟩
  permissions := [⟨1, 1⟩]
  batches := ⟨[⟨1, "feed", 1, 1, 1, .completed, .epoch, some .epoch⟩], 1, by simp, by simp,
    by simp [Row.id]⟩
  sims := ⟨[readyCard], 1, by simp, by simp, by simp [Row.id, readyCard]⟩
  nodup_permissions := by simp

/-- Both callers choose the same SIM, and the first of them claims it. -/
def contestMoves : List (Move (Fin 2)) :=
  [.turn 0 .plain, .turn 1 .plain, .turn 0 .plain, .turn 1 .plain, .turn 0 .plain, .turn 0 .plain,
    .turn 0 .plain, .turn 1 .plain, .turn 1 .plain, .turn 1 .plain, .turn 1 .plain, .turn 1 .plain]

/-- Two callers for one SIM. -/
def contested : World fun _ : Fin 2 => Except Error Sim :=
  .start oneReady fun _ => (Stock.claim ⟨1, "P"⟩).run

/-- One caller gets the SIM, and the other one learns that nothing is ready. -/
theorem two_claims_share_one_sim : ∃ w, contested.run contestMoves = some w ∧
    Shares oneReady ⟨1, "P"⟩ (fun i : Fin 2 => if i = 0 then .ok (readyCard.change .claim)
      else .error (.notFound (.readySim ⟨1, "P"⟩))) w.store := by
  have hsmooth : ∀ m ∈ contestMoves, m.isSmooth := by decide
  have hrun : contested.run contestMoves = some ((contested.run contestMoves).get
    (by decide +kernel)) := (Option.some_get _).symm
  refine ⟨_, hrun, claims_share_pool (by decide) oneReady ⟨1, "P"⟩ hsmooth hrun fun i => ?_⟩
  match i with
  | 0 => rfl
  | 1 => rfl

end SimDepot
