import Mathlib.Algebra.Order.Floor.Div
import SimDepot.Proofs.Reconcile.Independence
import SimDepot.Proofs.Reconcile.Yield

/-!
# Passes that converge

A pass does not stop when enough SIMs are ready: a pool below the mark gets the whole budget of the
pass, and passes go on until the mark is reached or the stock is used up. So what passes release
that all go well is a number of full budgets, cut off where the stock ends. `Tuning.quota` is this
number, and `passes_converge` says that it is met, by the first SIMs of the stock.

A raw SIM that is claimed is not ready to use when it is released, so it does not count towards the
mark; and a SIM whose vendor is not bound to a service is not asked for. With such SIMs in the stock
passes release more than the quota or less, as `quota_missed` shows.
-/

namespace SimDepot

/-- How many SIMs of a pool with these figures so many passes release, when all goes well. -/
def Tuning.quota (tuning : Tuning) (figures : PoolFigures) (passes : Nat) : Nat :=
  if tuning.maxToAllocate = 0 ∨ tuning.lowWaterMark ≤ figures.ready then 0
  else min figures.raw (tuning.maxToAllocate *
    min passes ((tuning.lowWaterMark - figures.ready) ⌈/⌉ tuning.maxToAllocate))

namespace Tuning

variable {tuning : Tuning} {figures : PoolFigures}

theorem quota_zero (tuning : Tuning) (figures : PoolFigures) : tuning.quota figures 0 = 0 := by
  simp [quota]

theorem quota_eq_zero (h : tuning.maxToAllocate = 0 ∨ tuning.lowWaterMark ≤ figures.ready)
    (n : Nat) : tuning.quota figures n = 0 := if_pos h

/-- Below the mark a budget at least is missing. -/
theorem one_le_ceilDiv {k r mark : Nat} (hk : 0 < k) (hr : r < mark) : 1 ≤ (mark - r) ⌈/⌉ k := by
  by_contra hnot
  have hzero : (mark - r) ⌈/⌉ k ≤ 0 := by omega
  rw [ceilDiv_le_iff_le_mul hk] at hzero
  omega

/-- One pass spends its budget on the stock. -/
theorem quota_one (tuning : Tuning) (figures : PoolFigures) : tuning.quota figures 1 =
    if tuning.lowWaterMark ≤ figures.ready then 0 else min figures.raw tuning.maxToAllocate := by
  by_cases habove : tuning.lowWaterMark ≤ figures.ready
  · rw [quota_eq_zero (.inr habove), if_pos habove]
  · rw [if_neg habove]
    rcases Nat.eq_zero_or_pos tuning.maxToAllocate with hzero | hpos
    · rw [quota_eq_zero (.inl hzero), hzero, Nat.min_zero]
    · rw [quota, if_neg (by omega), min_eq_left (one_le_ceilDiv hpos (by omega)), Nat.mul_one]

/-- The first pass releases its share, and the others go on from there. -/
theorem quota_succ (tuning : Tuning) (figures : PoolFigures) (n : Nat) :
    tuning.quota figures (n + 1) = tuning.quota figures 1 + tuning.quota
      { figures with
        raw := figures.raw - tuning.quota figures 1
        ready := figures.ready + tuning.quota figures 1 } n := by
  obtain ⟨total, u, r, claimed⟩ := figures
  obtain ⟨interval, mark, k⟩ := tuning
  rw [quota_one]
  by_cases hnone : k = 0 ∨ mark ≤ r
  · rw [quota_eq_zero hnone, quota_eq_zero]
    · rcases hnone with rfl | habove <;> simp [*]
    · exact hnone.imp_right fun habove => habove.trans (Nat.le_add_right _ _)
  have hk : 0 < k := by omega
  have hr : r < mark := by omega
  have hmissing := one_le_ceilDiv hk hr
  simp only [quota, if_neg hnone, if_neg (not_le.2 hr)]
  rcases le_total u k with hu | hu
  · -- The stock ends in the first pass.
    have hall : u ≤ k * min (n + 1) ((mark - r) ⌈/⌉ k) :=
      hu.trans (Nat.le_mul_of_pos_right k (by omega))
    rw [min_eq_left hu, min_eq_left hall, Nat.sub_self]
    simp
  rw [min_eq_right hu]
  by_cases hmark : mark ≤ r + k
  · -- The mark is reached in the first pass.
    have hone : (mark - r) ⌈/⌉ k = 1 := by
      refine le_antisymm ?_ hmissing
      rw [ceilDiv_le_iff_le_mul hk]
      omega
    rw [hone, if_pos (.inr hmark)]
    simp [hu]
  · -- One budget less is missing afterwards.
    have hless : (mark - r) ⌈/⌉ k = (mark - (r + k)) ⌈/⌉ k + 1 := by
      have hsum : mark - r + k - 1 = mark - (r + k) + k - 1 + k := by omega
      rw [Nat.ceilDiv_eq_add_pred_div, Nat.ceilDiv_eq_add_pred_div, hsum, Nat.add_div_right _ hk]
    rw [if_neg (by omega), hless, Nat.add_min_add_right, Nat.mul_add, Nat.mul_one, Nat.add_comm k,
      ← Nat.sub_add_cancel hu, Nat.add_min_add_right]
    simp

end Tuning

/-- Calls of vendor services leave what SIMs refer to as it is. -/
theorem Store.Referential.supplyAll {s : Store} (hs : s.Referential) (calls : List ReleaseCall) :
    (s.supplyAll calls).Referential := by
  refine ⟨hs.vendor, hs.registry, fun sim hsim => ?_⟩
  obtain ⟨r, hr, rfl⟩ := List.mem_map.1 hsim
  have hrefs : s.hasReferences (ReleaseCall.applyAll calls r).toSimData =
      s.hasReferences r.toSimData :=
    ReleaseCall.applyAll_of_supplied (fun r => s.hasReferences r.toSimData) (fun _ _ => rfl) calls r
  exact hrefs.trans (hs.sim r hr)

namespace Reconcile

open SimDepot.Action

variable {ι : Type} {i : ι} {bindings : Bindings} {tuning : Tuning} {pool : Pool} {s : Store}
  {n : Nat}

/-! ## Passes one after the other -/

/-- Passes, one after the other. -/
def passes (bindings : Bindings) (tuning : Tuning) : Nat → Action (List PassReport)
  | 0 => return []
  | n + 1 => do
    let report ← pass bindings tuning
    return report :: (← passes bindings tuning n)

/-- What passes, one after the other, report, and the calls they make. -/
inductive Passes (bindings : Bindings) (tuning : Tuning) :
    Nat → Store → List PassReport → List ReleaseCall → Prop
  /-- There are no passes. -/
  | zero (s : Store) : Passes bindings tuning 0 s [] []
  /-- One pass, and then the others. -/
  | succ {n : Nat} {s : Store} {reports : List PoolReport} {calls : List ReleaseCall}
    {rest : List PassReport} {later : List ReleaseCall}
    (hpass : Rounds bindings tuning s.pools s reports calls)
    (hrest : Passes bindings tuning n (s.supplyAll calls) rest later) :
    Passes bindings tuning (n + 1) s (⟨reports⟩ :: rest) (calls ++ later)

theorem undisturbed_passes {h : Chronicle ι} :
    Action.Undisturbed i (fun res st h' => st = .outside ∧ ∃ reports calls, res = .ok reports ∧
        Passes bindings tuning n h.store reports calls ∧ h.Supplied calls h')
      (passes bindings tuning n) .outside h := by
  induction n generalizing h with
  | zero => exact ⟨rfl, [], [], rfl, .zero _, .refl h⟩
  | succ n ih =>
    refine undisturbed_bind (Flow.Undisturbed.mono undisturbed_pass ?_)
    rintro _ _ h₁ ⟨rfl, reports, calls, rfl, hpass, hsupplied⟩
    refine undisturbed_bind (Flow.Undisturbed.mono ih ?_)
    rintro _ _ h₂ ⟨rfl, rest, later, rfl, hrest, hsupplied₂⟩
    rw [hsupplied.store] at hrest
    exact ⟨rfl, _, _, rfl, .succ hpass hrest, hsupplied.trans hsupplied₂⟩

/-! ## One pool in them -/

/-- A run that goes well spends its budget on the first SIMs of the stock. -/
theorem Topped.sims_eq_take {budget : Nat} {raw : List Sim} {calls : List ReleaseCall}
    {outcome : PoolOutcome} (h : Topped bindings budget raw calls outcome)
    (hbound : ∀ sim ∈ raw, (bindings.vendors.get? sim.vendorId).isSome)
    (hgood : ∀ call ∈ calls, call.succeeded) : calls.map (·.sim) = raw.take budget := by
  induction h with
  | spent raw => rfl
  | exhausted budget => rfl
  | @unbound budget sim rest hunbound =>
    have hsome := hbound sim (List.mem_cons_self ..)
    rw [hunbound] at hsome
    cases hsome
  | refused budget rest e h => cases hgood _ (List.mem_singleton.2 rfl)
  | released release h hrest ih =>
    rw [List.map_cons, List.take_succ_cons, ih (fun sim hsim => hbound sim
      (List.mem_cons_of_mem _ hsim)) fun call hcall => hgood call (List.mem_cons_of_mem _ hcall)]

theorem PoolRun.sims_eq_take {report : PoolReport} {calls : List ReleaseCall}
    (h : PoolRun bindings tuning pool (s.rowsOf pool) report calls)
    (hbound : ∀ sim ∈ s.rawOf pool, (bindings.vendors.get? sim.vendorId).isSome)
    (hgood : ∀ call ∈ calls, call.succeeded) :
    calls.map (·.sim) = (s.rawOf pool).take (tuning.quota (s.figures pool) 1) ∧
      report.released = tuning.quota (s.figures pool) 1 := by
  have hsims : calls.map (·.sim) = (s.rawOf pool).take (tuning.quota (s.figures pool) 1) := by
    rw [Tuning.quota_one, Store.raw_figures]
    cases h with
    | above habove =>
      have habove : tuning.lowWaterMark ≤ (s.figures pool).ready := habove
      rw [if_pos habove, List.take_zero, List.map_nil]
    | topped hbelow htopped =>
      have hbelow : (s.figures pool).ready < tuning.lowWaterMark := hbelow
      rw [if_neg (Nat.not_le.2 hbelow), htopped.sims_eq_take hbound hgood, Store.rawOf,
        List.take_eq_take_iff]
      omega
  have hquota : tuning.quota (s.figures pool) 1 ≤ (s.rawOf pool).length := by
    rw [Tuning.quota_one, Store.raw_figures]
    split <;> omega
  refine ⟨hsims, ?_⟩
  rw [h.released_eq.2, List.countP_eq_length.2 hgood]
  have hlength := congrArg List.length hsims
  rw [List.length_map, List.length_take, min_eq_left hquota] at hlength
  exact hlength

/-- What has become of a pool when all passes went well. -/
theorem Passes.converge {reports : List PassReport} {calls : List ReleaseCall}
    (h : Passes bindings tuning n s reports calls) (hs : s.Referential)
    (hfree : ∀ sim ∈ s.rawOf pool, sim.provisionState = .available)
    (hbound : ∀ sim ∈ s.rawOf pool, (bindings.vendors.get? sim.vendorId).isSome)
    (hgood : ∀ call ∈ calls, call.succeeded) :
    (reports.map (·.releasedIn pool)).sum = tuning.quota (s.figures pool) n ∧
      (calls.filter fun call => call.sim.pool == pool).map (·.sim) =
        (s.rawOf pool).take (tuning.quota (s.figures pool) n) ∧
      (s.supplyAll calls).rawOf pool = (s.rawOf pool).drop (tuning.quota (s.figures pool) n) ∧
      (s.supplyAll calls).figures pool =
        { s.figures pool with
          raw := (s.figures pool).raw - tuning.quota (s.figures pool) n
          ready := (s.figures pool).ready + tuning.quota (s.figures pool) n } := by
  induction h with
  | zero s =>
    rw [Tuning.quota_zero, Store.supplyAll_nil]
    exact ⟨rfl, rfl, rfl, rfl⟩
  | @succ n s reports calls rest later hpass hrest ih =>
    obtain ⟨-, report, hrun, hreported⟩ := hpass.own hs pool
    obtain ⟨hsims, hreleased⟩ := hrun.sims_eq_take hbound fun call hcall =>
      hgood call (List.mem_append_left _ (List.mem_filter.1 hcall).1)
    obtain ⟨-, hraw⟩ := hpass.rawOf_supplyAll hs pool
    have hfigures := hpass.figures_supplyAll hs hfree
    rw [hreported, hreleased] at hraw hfigures
    -- What is asked of the raw stock holds of what the first pass leaves of it.
    have hleft : ∀ sim ∈ (s.supplyAll calls).rawOf pool, sim ∈ s.rawOf pool := fun sim hsim =>
      List.mem_of_mem_drop (hraw ▸ hsim)
    obtain ⟨hsum, hlater, hend, hlast⟩ := ih (hs.supplyAll calls)
      (fun sim hsim => hfree sim (hleft sim hsim)) (fun sim hsim => hbound sim (hleft sim hsim))
      fun call hcall => hgood call (List.mem_append_right _ hcall)
    rw [hfigures] at hsum hlater hend hlast
    rw [Tuning.quota_succ, Store.supplyAll_append]
    refine ⟨?_, ?_, ?_, ?_⟩
    · rw [List.map_cons, List.sum_cons, hsum, hreported, hreleased]
    · rw [List.filter_append, List.map_append, hsims, hlater, hraw, List.take_add]
    · rw [hend, hraw, List.drop_drop]
    · rw [hlast]
      simp only [Nat.sub_sub, Nat.add_assoc]

/-- A run over a pool that has nothing left to do calls nobody. -/
theorem PoolRun.calls_eq_nil {report : PoolReport} {calls : List ReleaseCall}
    (h : PoolRun bindings tuning pool (s.rowsOf pool) report calls)
    (hdone : tuning.lowWaterMark ≤ (s.figures pool).ready ∨ s.rawOf pool = []) : calls = [] := by
  cases h with
  | above habove => rfl
  | topped hbelow htopped =>
    have hnone : s.rawOf pool = [] := hdone.resolve_left (Nat.not_le.2 hbelow)
    have hprefix := htopped.sims_isPrefix
    rw [← Store.rawOf, hnone] at hprefix
    exact List.map_eq_nil_iff.1 (List.prefix_nil.1 hprefix)

/-- Passes leave a pool as it is for which there is nothing left to do. -/
theorem Passes.still {reports : List PassReport} {calls : List ReleaseCall}
    (h : Passes bindings tuning n s reports calls) (hs : s.Referential)
    (hdone : tuning.lowWaterMark ≤ (s.figures pool).ready ∨ s.rawOf pool = []) :
    (calls.filter fun call => call.sim.pool == pool) = [] ∧
      (s.supplyAll calls).rowsOf pool = s.rowsOf pool := by
  induction h with
  | zero s => exact ⟨rfl, by rw [Store.supplyAll_nil]⟩
  | @succ n s reports calls rest later hpass hrest ih =>
    obtain ⟨hsim, report, hrun, -⟩ := hpass.own hs pool
    have hnone := hrun.calls_eq_nil hdone
    have hrows : (s.supplyAll calls).rowsOf pool = s.rowsOf pool := by
      rw [← Store.rowsOf_supplyAll_filter hsim, hnone, Store.supplyAll_nil]
    have hstill := ih (hs.supplyAll calls) (by rwa [Store.figures, Store.rawOf, hrows])
    rw [List.filter_append, hnone, hstill.1, Store.supplyAll_append, hstill.2, hrows]
    exact ⟨rfl, rfl⟩

/-- No pass releases more SIMs of a pool than its budget. -/
theorem Passes.releasedIn_le {reports : List PassReport} {calls : List ReleaseCall}
    (h : Passes bindings tuning n s reports calls) (hs : s.Referential) :
    ∀ report ∈ reports, report.releasedIn pool ≤ tuning.maxToAllocate := by
  induction h with
  | zero s => simp
  | succ hpass hrest ih =>
    obtain ⟨-, report, hrun, hreported⟩ := hpass.own hs pool
    exact List.forall_mem_cons.2 ⟨hreported ▸ hrun.released_le, ih (hs.supplyAll _)⟩

/-- Of the raw stock, the SIMs that are not left were released. -/
theorem mem_released_iff {calls : List ReleaseCall} {m : Nat}
    (hleft : (s.supplyAll calls).rawOf pool = (s.rawOf pool).drop m) {r : Sim}
    (hr : r ∈ s.rawOf pool) :
    r.id ∈ (s.supplyAll calls).idsWhere Sim.isReleased ↔ r ∈ (s.rawOf pool).take m := by
  have hnot : ∀ q : Sim, q.isReleased = !q.isRaw := Sim.isReleased_eq_not_isRaw
  obtain ⟨hmem, hpool, -⟩ := Store.mem_rawOf.1 hr
  have hafter : ReleaseCall.applyAll calls r ∈ (s.supplyAll calls).sims.rows :=
    List.mem_map_of_mem hmem
  have hid : (ReleaseCall.applyAll calls r).id = r.id := ReleaseCall.id_applyAll calls r
  rw [← hid, Store.id_mem_idsWhere hafter, hnot]
  constructor
  · intro hreleased
    by_contra hlate
    -- A SIM that is left is as it was, and raw.
    have hdrop : r ∈ (s.supplyAll calls).rawOf pool := by
      rw [← List.take_append_drop m (s.rawOf pool), List.mem_append] at hr
      exact hleft ▸ hr.resolve_left hlate
    obtain ⟨hsame, -, hraw⟩ := Store.mem_rawOf.1 hdrop
    rw [Table.id_inj hafter hsame hid, hraw] at hreleased
    cases hreleased
  · intro hearly
    rw [Bool.not_eq_true', ← Bool.not_eq_true]
    intro hraw
    have hdrop : ReleaseCall.applyAll calls r ∈ (s.rawOf pool).drop m :=
      hleft ▸ Store.mem_rawOf.2 ⟨hafter, (ReleaseCall.pool_applyAll calls r).trans hpool, hraw⟩
    obtain ⟨hsame, -⟩ := Store.mem_rawOf.1 (List.mem_of_mem_drop hdrop)
    rw [Table.id_inj hsame hmem hid] at hdrop
    have hnodup : (s.rawOf pool).Nodup := (s.pairwise_rawOf pool).imp fun hlt heq =>
      Int.ne_of_lt hlt (congrArg Sim.id heq)
    exact List.disjoint_take_drop hnodup le_rfl hearly hdrop

/-! ## All goes well -/

/-- Passes, one after the other, on a store in which no raw SIM of a pool is claimed and all its
vendors are bound to services. Nobody else is at work, the store does not fail, and every call of a
vendor service succeeds. All passes succeed; they release as many SIMs of the pool as the quota
says, none of them more than its budget. These are the first SIMs of the raw stock, vendors were
called once for each of them and for no other SIM of the pool, and what was not raw is as it was.
Once enough SIMs are ready, or none is raw, further passes leave the pool as it is and call nobody
for it. -/
theorem passes_converge (s : Store) (hs : s.Referential) (bindings : Bindings) (tuning : Tuning)
    (pool : Pool) (hfree : ∀ sim ∈ s.rawOf pool, sim.provisionState = .available)
    (hbound : ∀ sim ∈ s.rawOf pool, (bindings.vendors.get? sim.vendorId).isSome) (n : Nat) :
    (∃ res h, (passes bindings tuning n).run.ComesToBy (·.succeeded) s res h) ∧
    ∀ res h, (passes bindings tuning n).run.ComesToBy (·.succeeded) s res h →
      (∃ reports, res = .ok reports ∧
        (reports.map (·.releasedIn pool)).sum = tuning.quota (s.figures pool) n ∧
        ∀ report ∈ reports, report.releasedIn pool ≤ tuning.maxToAllocate) ∧
      (h.releaseCalls.filter fun call => call.sim.pool == pool).map (·.sim) =
        (s.rawOf pool).take (tuning.quota (s.figures pool) n) ∧
      (∀ r ∈ s.rawOf pool, r.id ∈ h.store.idsWhere Sim.isReleased ↔
        r ∈ (s.rawOf pool).take (tuning.quota (s.figures pool) n)) ∧
      (∀ r ∈ s.rowsOf pool, r.isRaw = false → r ∈ h.store.rowsOf pool) ∧
      (tuning.lowWaterMark ≤ (s.figures pool).ready + tuning.quota (s.figures pool) n ∨
          tuning.quota (s.figures pool) n = (s.figures pool).raw →
        ∀ k res' h', (passes bindings tuning k).run.ComesToBy (fun _ => True) h.store res' h' →
          h'.store.rowsOf pool = h.store.rowsOf pool ∧
            (h'.releaseCalls.filter fun call => call.sim.pool == pool) = []) := by
  -- Vendors can answer with success, and so the passes can be made.
  refine ⟨Flow.exists_comesToBy (fun vendor sim => ⟨.ok ⟨"", none⟩, rfl⟩) _ s,
    fun res h hcomes => ?_⟩
  obtain ⟨_, -, reports, calls, rfl, hpasses, hsupplied⟩ :=
    Flow.post_of_comesToBy undisturbed_passes hcomes
  obtain ⟨_, _, _, _, _, _, hgood⟩ := hcomes
  have hpasses : Passes bindings tuning n s reports calls := hpasses
  have hcalls : h.releaseCalls = calls := hsupplied.calls
  have hstore : h.store = s.supplyAll calls := hsupplied.store
  rw [hcalls] at hgood ⊢
  rw [hstore]
  obtain ⟨hsum, hsims, hleft, hfigures⟩ := Passes.converge hpasses hs hfree hbound hgood
  refine ⟨⟨reports, rfl, hsum, Passes.releasedIn_le hpasses hs⟩, hsims,
    fun r hr => mem_released_iff hleft hr, fun r hr hraw => ?_, fun hdone k res' h' hlater => ?_⟩
  · rw [Store.rowsOf_supplyAll]
    exact List.mem_map.2 ⟨r, hr, ReleaseCall.applyAll_of_not_isRaw hraw⟩
  · obtain ⟨_, -, _, later, -, hpasses', hsupplied'⟩ :=
      Flow.post_of_comesToBy undisturbed_passes hlater
    have hcalls' : h'.releaseCalls = later := hsupplied'.calls
    have hstore' : h'.store = (s.supplyAll calls).supplyAll later := hsupplied'.store
    rw [hcalls', hstore', and_comm]
    refine Passes.still hpasses' (hs.supplyAll calls) (hdone.imp ?_ ?_)
    · rw [hfigures]
      exact id
    · intro hall
      rw [hleft, hall, Store.raw_figures, List.drop_length]

/-- The store of two pools with five raw SIMs in one of them. -/
def fiveRaw : Store :=
  { twoPools with
    sims := ⟨[rawCard 1 "8947" 1, rawCard 2 "8948" 1, rawCard 3 "8949" 1, rawCard 4 "8950" 1,
      rawCard 5 "8951" 1], 5, by decide, by decide, by decide⟩ }

/-- To have three SIMs ready, two passes of two SIMs are made, and the others do nothing. -/
theorem passes_converge_of_fiveRaw : ∃ res h,
    (passes firstServices ⟨0, 3, 2⟩ 5).run.ComesToBy (·.succeeded) fiveRaw res h ∧
      (∃ reports, res = .ok reports ∧ (reports.map (·.releasedIn ⟨1, "P"⟩)).sum = 4) ∧
      (h.releaseCalls.filter fun call => call.sim.pool == ⟨1, "P"⟩).map (·.sim.id) =
        [1, 2, 3, 4] := by
  have hs : fiveRaw.Referential := ⟨by decide, by decide, by decide⟩
  have hquota : Tuning.quota ⟨0, 3, 2⟩ (fiveRaw.figures ⟨1, "P"⟩) 5 = 4 := by decide +kernel
  have hfirst : ((fiveRaw.rawOf ⟨1, "P"⟩).take 4).map (·.id) = [1, 2, 3, 4] := by decide +kernel
  obtain ⟨⟨res, h, hcomes⟩, hall⟩ := passes_converge fiveRaw hs firstServices ⟨0, 3, 2⟩ ⟨1, "P"⟩
    (by decide +kernel) (by decide +kernel) 5
  obtain ⟨⟨reports, hres, hsum, -⟩, hcalls, -⟩ := hall res h hcomes
  rw [hquota] at hsum hcalls
  refine ⟨res, h, hcomes, ⟨reports, hres, hsum⟩, ?_⟩
  rw [← hfirst, ← hcalls, List.map_map]
  rfl

/-- The store of two pools with two raw SIMs in one of them, both claimed. -/
def claimedStock : Store :=
  { twoPools with
    sims := ⟨[{ rawCard 1 "8947" 1 with provisionState := .provisioned },
      { rawCard 2 "8948" 1 with provisionState := .provisioned }], 2, by decide, by decide,
      by decide⟩ }

/-- Two passes, each of which releases a SIM. -/
def claimedMoves : List (Move Unit) :=
  (List.replicate 2 (List.replicate 4 (.turn () .plain) ++
    .turn () (.release (.ok ⟨"M", none⟩)) :: List.replicate 3 (.turn () .plain))).flatten

/-- The depot when both passes are done. -/
def claimedReleased : World fun _ : Unit => Except Error (List PassReport) :=
  ((World.start claimedStock fun _ => (passes firstServices ⟨0, 1, 1⟩ 2).run).run
    claimedMoves).get (by decide +kernel)

/-- The depot when a pass without services is done. -/
def unboundPassed : World fun _ : Unit => Except Error (List PassReport) :=
  ((World.start fiveRaw fun _ => (passes .empty ⟨0, 1, 1⟩ 1).run).run
    (List.replicate 5 (.turn () .plain))).get (by decide +kernel)

/-- One SIM would do, and no call of a vendor service fails. Where the raw stock is claimed, two
passes release two SIMs; where no service is bound to the vendor, no SIM is released. -/
theorem quota_missed :
    (∃ res h, (passes firstServices ⟨0, 1, 1⟩ 2).run.ComesToBy (·.succeeded) claimedStock res h ∧
      Tuning.quota ⟨0, 1, 1⟩ (claimedStock.figures ⟨1, "P"⟩) 2 = 1 ∧ h.releaseCalls.length = 2 ∧
      (claimedStock.figures ⟨1, "P"⟩).raw = 2 ∧ (h.store.figures ⟨1, "P"⟩).raw = 0) ∧
    ∃ res h, (passes .empty ⟨0, 1, 1⟩ 1).run.ComesToBy (·.succeeded) fiveRaw res h ∧
      Tuning.quota ⟨0, 1, 1⟩ (fiveRaw.figures ⟨1, "P"⟩) 1 = 1 ∧ h.releaseCalls.length = 0 ∧
      (fiveRaw.figures ⟨1, "P"⟩).raw = 5 ∧ (h.store.figures ⟨1, "P"⟩).raw = 5 := by
  obtain ⟨res, hres⟩ := Flow.exists_eq_done (x := claimedReleased.rest ()) (by decide +kernel)
  obtain ⟨res', hres'⟩ := Flow.exists_eq_done (x := unboundPassed.rest ()) (by decide +kernel)
  refine ⟨⟨res, claimedReleased.toChronicle, ⟨claimedMoves, claimedReleased, by decide,
    (Option.some_get _).symm, hres, rfl, ?_⟩, by decide +kernel⟩,
    res', unboundPassed.toChronicle, ⟨_, unboundPassed, by decide, (Option.some_get _).symm, hres',
      rfl, ?_⟩, by decide +kernel⟩
  · have hgood : claimedReleased.releaseCalls.all (·.succeeded) := by decide +kernel
    exact fun call hcall => List.all_eq_true.1 hgood call hcall
  · have hgood : unboundPassed.releaseCalls.all (·.succeeded) := by decide +kernel
    exact fun call hcall => List.all_eq_true.1 hgood call hcall

end Reconcile

end SimDepot
