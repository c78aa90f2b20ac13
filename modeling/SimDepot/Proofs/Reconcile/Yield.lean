import Mathlib.Algebra.GroupWithZero.Nat
import SimDepot.Proofs.Reconcile.Course

/-!
# What a pass yields

The SIMs that a run over a pool releases are the first ones of its raw stock, as many as it reports,
and the rest of the stock is left. A pass has one run over each pool, so that this holds of each
pool in a pass as well. Where no raw SIM is claimed, what is lost to the raw stock is won for what
is ready to use.
-/

namespace SimDepot

/-- How many SIMs of a pool a pass released, as it reports. -/
def PassReport.releasedIn (report : PassReport) (pool : Pool) : Nat :=
  ((report.pools.filter fun r => r.pool == pool).map (·.released)).sum

namespace Reconcile

variable {bindings : Bindings} {tuning : Tuning} {pool : Pool} {s : Store}

/-- What a run released are the first SIMs of the stock. -/
theorem Topped.releasedIds_eq {budget : Nat} {raw : List Sim} {calls : List ReleaseCall}
    {outcome : PoolOutcome} (h : Topped bindings budget raw calls outcome) :
    ReleaseCall.releasedIds calls = (raw.take (calls.countP (·.succeeded))).map (·.id) := by
  induction h with
  | spent raw => rfl
  | exhausted budget => rfl
  | unbound budget rest h => rfl
  | refused budget rest e h => rfl
  | released release h hrest ih =>
    rw [List.countP_cons_of_pos rfl, List.take_succ_cons, List.map_cons, ← ih]
    rfl

theorem PoolRun.released_eq {sims : List Sim} {report : PoolReport} {calls : List ReleaseCall}
    (h : PoolRun bindings tuning pool sims report calls) :
    report.pool = pool ∧ report.released = calls.countP (·.succeeded) := by
  cases h <;> exact ⟨rfl, rfl⟩

/-- A run keeps to its budget. -/
theorem PoolRun.released_le {sims : List Sim} {report : PoolReport} {calls : List ReleaseCall}
    (h : PoolRun bindings tuning pool sims report calls) :
    report.released ≤ tuning.maxToAllocate := by
  cases h with
  | above h => exact Nat.zero_le _
  | topped h htopped => exact List.countP_le_length.trans htopped.length_le

theorem PoolRun.releasedIds_eq {sims : List Sim} {report : PoolReport} {calls : List ReleaseCall}
    (h : PoolRun bindings tuning pool sims report calls) :
    ReleaseCall.releasedIds calls =
      ((sims.filter fun r => r.isRaw).take report.released).map (·.id) := by
  rw [h.released_eq.2]
  cases h with
  | above h => rfl
  | topped h htopped => exact htopped.releasedIds_eq

/-- The run over a pool without SIMs. -/
theorem exists_poolRun_nil (bindings : Bindings) (tuning : Tuning) (pool : Pool) :
    ∃ report, PoolRun bindings tuning pool [] report [] := by
  by_cases habove : tuning.lowWaterMark ≤ (PoolFigures.ofSims []).ready
  · exact ⟨_, .above habove⟩
  · have hspent : ∃ outcome, Topped bindings tuning.maxToAllocate [] [] outcome := by
      cases tuning.maxToAllocate with
      | zero => exact ⟨_, .spent []⟩
      | succ budget => exact ⟨_, .exhausted budget⟩
    obtain ⟨outcome, hspent⟩ := hspent
    exact ⟨_, .topped (Nat.lt_of_not_le habove) hspent⟩

/-- Of a pass, the run over one pool. -/
theorem Rounds.own {reports : List PoolReport} {calls : List ReleaseCall}
    (h : Rounds bindings tuning s.pools s reports calls) (hs : s.Referential) (pool : Pool) :
    (∀ call ∈ calls, call.sim ∈ s.sims.rows) ∧ ∃ report,
      PoolRun bindings tuning pool (s.rowsOf pool) report
        (calls.filter fun call => call.sim.pool == pool) ∧
      PassReport.releasedIn ⟨reports⟩ pool = report.released := by
  obtain ⟨run, rfl, rfl, hruns⟩ := h.apart s.nodup_pools
  have hsim : ∀ other ∈ s.pools, ∀ call ∈ (run other).2,
      call.sim ∈ s.sims.rows ∧ call.sim.pool = other := fun other hother call hcall =>
    Store.mem_rowsOf.1 ((hruns other hother).sim_mem hcall)
  have hreports : (s.pools.map fun other => (run other).1).filter (fun r => r.pool == pool) =
      (s.pools.filter (· == pool)).map fun other => (run other).1 := by
    rw [List.filter_map]
    refine congrArg _ (List.filter_congr fun other hother => ?_)
    rw [Function.comp_apply, (hruns other hother).released_eq.1]
  refine ⟨fun call hcall => ?_, ?_⟩
  · obtain ⟨other, hother, hcall⟩ := List.mem_flatMap.1 hcall
    exact (hsim other hother call hcall).1
  rw [PassReport.releasedIn, hreports, List.filter_beq]
  by_cases hpool : pool ∈ s.pools
  · rw [ReleaseCall.filter_flatMap s.nodup_pools (fun other hother call hcall =>
      (hsim other hother call hcall).2) hpool, List.count_eq_one_of_mem s.nodup_pools hpool]
    exact ⟨_, hruns pool hpool, by simp⟩
  · -- A pool without SIMs is not visited. A run over it would have done nothing.
    have hnone : s.rowsOf pool = [] := List.filter_eq_nil_iff.2 fun r hr heq =>
      hpool ((Store.mem_pools hs).2 ⟨r, hr, by simpa using heq⟩)
    have hcalls : (s.pools.flatMap fun other => (run other).2).filter
        (fun call => call.sim.pool == pool) = [] := by
      refine List.filter_eq_nil_iff.2 fun call hcall heq => hpool ?_
      obtain ⟨other, hother, hcall⟩ := List.mem_flatMap.1 hcall
      rwa [← beq_iff_eq.1 heq, (hsim other hother call hcall).2]
    obtain ⟨report, hrun⟩ := exists_poolRun_nil bindings tuning pool
    rw [hnone, hcalls, List.count_eq_zero_of_not_mem hpool]
    exact ⟨report, hrun, hrun.released_eq.2.symm⟩

end Reconcile

namespace Store

variable {s : Store} {pool : Pool} {calls : List ReleaseCall}

/-- When the first SIMs of the raw stock are released, the rest is left. -/
theorem rawOf_supplyAll_take {n : Nat}
    (h : ReleaseCall.releasedIds calls = ((s.rawOf pool).take n).map (·.id)) :
    (s.supplyAll calls).rawOf pool = (s.rawOf pool).drop n := by
  -- Identities ascend, so those of the first SIMs are none of the rest.
  have hascending := s.pairwise_rawOf pool
  rw [rawOf_supplyAll, h]
  generalize s.rawOf pool = raw at hascending ⊢
  rw [← List.take_append_drop n raw, List.pairwise_append] at hascending
  have hfirst : (raw.take n).filter (fun r => r.id ∉ (raw.take n).map (·.id)) = [] :=
    List.filter_eq_nil_iff.2 fun r hr hnot => of_decide_eq_true hnot (List.mem_map_of_mem hr)
  have hrest : (raw.drop n).filter (fun r => r.id ∉ (raw.take n).map (·.id)) = raw.drop n := by
    refine List.filter_eq_self.2 fun r hr => decide_eq_true fun hmem => ?_
    obtain ⟨r', hr', hid⟩ := List.mem_map.1 hmem
    exact absurd hid (Int.ne_of_lt (hascending.2.2 r' hr' r hr))
  calc raw.filter (fun r => r.id ∉ (raw.take n).map (·.id))
      = (raw.take n ++ raw.drop n).filter fun r => r.id ∉ (raw.take n).map (·.id) := by
        rw [List.take_append_drop]
    _ = raw.drop n := by rw [List.filter_append, hfirst, hrest, List.nil_append]

theorem raw_figures (s : Store) (pool : Pool) : (s.figures pool).raw = (s.rawOf pool).length :=
  List.countP_eq_length_filter

/-- Calls of vendor services bring no SIM to a pool, and take none. -/
theorem total_supplyAll (s : Store) (pool : Pool) (calls : List ReleaseCall) :
    ((s.supplyAll calls).figures pool).total = (s.figures pool).total := by
  simp [figures, PoolFigures.ofSims, rowsOf_supplyAll]

/-- Where no raw SIM is claimed, calls of vendor services leave what is claimed as it is. -/
theorem claimed_supplyAll (hfree : ∀ sim ∈ s.rawOf pool, sim.provisionState = .available)
    (calls : List ReleaseCall) :
    ((s.supplyAll calls).figures pool).claimed = (s.figures pool).claimed := by
  simp only [figures, PoolFigures.ofSims, rowsOf_supplyAll, List.countP_map]
  refine List.countP_congr fun r hr => ?_
  rw [Function.comp_apply]
  by_cases hraw : r.isRaw
  · have hprovision := hfree r (List.mem_filter.2 ⟨hr, hraw⟩)
    simp [SimData.isTaken, hprovision]
  · rw [ReleaseCall.applyAll_of_not_isRaw (by simpa using hraw)]

end Store

namespace Reconcile

variable {bindings : Bindings} {tuning : Tuning} {s : Store} {reports : List PoolReport}
  {calls : List ReleaseCall}

/-- A pass releases the first SIMs of the raw stock of every pool, as many as it reports. -/
theorem Rounds.rawOf_supplyAll (h : Rounds bindings tuning s.pools s reports calls)
    (hs : s.Referential) (pool : Pool) :
    PassReport.releasedIn ⟨reports⟩ pool ≤ (s.rawOf pool).length ∧
      (s.supplyAll calls).rawOf pool =
        (s.rawOf pool).drop (PassReport.releasedIn ⟨reports⟩ pool) := by
  obtain ⟨hsim, report, hrun, hreported⟩ := h.own hs pool
  rw [hreported]
  constructor
  · have hprefix := hrun.sims_isPrefix.length_le
    rw [List.length_map] at hprefix
    rw [hrun.released_eq.2]
    exact List.countP_le_length.trans hprefix
  · rw [Store.rawOf, ← Store.rowsOf_supplyAll_filter hsim]
    exact Store.rawOf_supplyAll_take hrun.releasedIds_eq

/-- Where no raw SIM is claimed, a pass moves as many SIMs from the raw stock of a pool to what is
ready to use as it reports. -/
theorem Rounds.figures_supplyAll (h : Rounds bindings tuning s.pools s reports calls)
    (hs : s.Referential) {pool : Pool}
    (hfree : ∀ sim ∈ s.rawOf pool, sim.provisionState = .available) :
    (s.supplyAll calls).figures pool =
      { s.figures pool with
        raw := (s.figures pool).raw - PassReport.releasedIn ⟨reports⟩ pool
        ready := (s.figures pool).ready + PassReport.releasedIn ⟨reports⟩ pool } := by
  obtain ⟨hle, hraw⟩ := h.rawOf_supplyAll hs pool
  have htotal := Store.total_supplyAll s pool calls
  have hclaimed := Store.claimed_supplyAll hfree calls
  have hleft : ((s.supplyAll calls).figures pool).raw =
      (s.figures pool).raw - PassReport.releasedIn ⟨reports⟩ pool := by
    rw [Store.raw_figures, hraw, List.length_drop, Store.raw_figures]
  -- The figures add up before and after, and three of them are known.
  have hready : ((s.supplyAll calls).figures pool).ready =
      (s.figures pool).ready + PassReport.releasedIn ⟨reports⟩ pool := by
    have hsum := s.total_figures pool
    have hsum' := (s.supplyAll calls).total_figures pool
    rw [← Store.raw_figures] at hle
    omega
  calc (s.supplyAll calls).figures pool
      = ⟨((s.supplyAll calls).figures pool).total, ((s.supplyAll calls).figures pool).raw,
          ((s.supplyAll calls).figures pool).ready, ((s.supplyAll calls).figures pool).claimed⟩ :=
        rfl
    _ = _ := by rw [htotal, hleft, hready, hclaimed]

end Reconcile

end SimDepot
