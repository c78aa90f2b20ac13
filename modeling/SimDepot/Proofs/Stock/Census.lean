import SimDepot.Proofs.Feed.Interruption
import SimDepot.Proofs.Lifecycle.Soundness
import SimDepot.Proofs.Queue.Order
import SimDepot.Proofs.Reconcile.Yield

/-!
# How many SIMs have come to a stage

The figures of a pool are three counts in disguise: of the SIMs that are stored, of those that the
vendor has released, and of those that are claimed. `Store.reached` is such a count. No step takes
anything away from it: a feed adds to the first one, a pass to the second and a claim to the third,
and everything else leaves all three as they are.
-/

namespace SimDepot

/-- How many SIMs of a pool have come to a stage. -/
def Store.reached (s : Store) (pool : Pool) (stage : Stage) : Nat :=
  s.sims.rows.countP (stage.holds pool)

namespace Store

variable {s s' : Store} {pool : Pool} {stage : Stage} {change : SimChange}

theorem reached_of_sims_eq (h : s'.sims = s.sims) :
    s'.reached pool stage = s.reached pool stage := by
  rw [reached, h, reached]

theorem reached_append {new : List Sim} (h : s'.sims.rows = s.sims.rows ++ new) :
    s'.reached pool stage = s.reached pool stage + new.countP (stage.holds pool) := by
  rw [reached, h, List.countP_append, reached]

/-! ### Figures -/

theorem total_figures_eq (s : Store) (pool : Pool) :
    (s.figures pool).total = s.reached pool .stored := by
  rw [reached, List.countP_eq_length_filter]
  refine congrArg List.length (List.filter_congr fun r _ => ?_)
  simp [Stage.holds, Stage.isReachedBy]

/-- What is not raw stock was released. -/
theorem raw_add_reached (s : Store) (pool : Pool) :
    (s.figures pool).raw + s.reached pool .released = (s.figures pool).total := by
  have hreleased : s.reached pool .released =
      (s.rowsOf pool).countP fun r => decide ¬ r.isRaw = true := by
    rw [rowsOf, Table.select, List.countP_filter, reached]
    refine List.countP_congr fun r _ => ?_
    have hnot := r.isReleased_eq_not_isRaw
    cases hstate : r.vendorState <;>
      simp_all [Stage.holds, Stage.isReachedBy, SimData.isRaw]
  rw [hreleased]
  exact (List.length_eq_countP_add_countP _).symm

/-- Where states agree, what is claimed was released. -/
theorem claimed_figures_eq (hs : ∀ r ∈ s.sims.rows, r.Ordered) (pool : Pool) :
    (s.figures pool).claimed = s.reached pool .claimed := by
  show (s.sims.rows.filter fun r => r.pool == pool).countP (fun r => r.isTaken) = _
  rw [List.countP_filter, reached]
  refine List.countP_congr fun r hr => ?_
  -- A SIM that were claimed and raw would count as raw.
  have hordered := (hs r hr).released_of_provisioned
  cases hstate : r.provisionState <;>
    simp_all [Stage.holds, Stage.isReachedBy, SimData.isTaken, and_comm]

/-! ### Changes -/

/-- A change that brings a SIM to another stage, or to none. -/
theorem reached_changeSim_of_not_reaches (hforward : change.isForward)
    (hstill : change.reaches stage = false) (s : Store) (id : SimId) (pool : Pool) :
    (s.changeSim id change).1.reached pool stage = s.reached pool stage := by
  rw [reached, rows_changeSim, List.countP_map, reached]
  refine List.countP_congr fun r _ => ?_
  rw [Function.comp_apply]
  split
  · rw [Stage.holds_change hforward, hstill, Bool.and_false, Bool.or_false]
  · rfl

/-- Of the rows, a change that is admitted replaces one. -/
theorem exists_rows_changeSim {r : Sim} (hr : r ∈ s.sims.rows) (change : SimChange)
    (hadmits : change.admits r.toSimData) : ∃ early late, s.sims.rows = early ++ r :: late ∧
      (s.changeSim r.id change).1.sims.rows = early ++ r.change change :: late := by
  obtain ⟨early, late, hrows⟩ := List.append_of_mem hr
  have hsorted := s.sims.sorted
  rw [hrows, List.pairwise_append, List.pairwise_cons] at hsorted
  obtain ⟨-, ⟨hlate, -⟩, hearly⟩ := hsorted
  have hsame : ∀ others : List Sim, (∀ r' ∈ others, r'.id ≠ r.id) → (others.map fun r' =>
      if r'.id = r.id ∧ change.admits r'.toSimData then r'.change change else r') = others :=
    fun others hother => (List.map_congr_left fun r' hr' =>
      if_neg fun h => hother r' hr' h.1).trans (List.map_id' others)
  refine ⟨early, late, hrows, ?_⟩
  rw [rows_changeSim, hrows, List.map_append, List.map_cons, if_pos ⟨rfl, hadmits⟩,
    hsame early fun r' hr' => Int.ne_of_lt (hearly r' hr' r (List.mem_cons_self ..)),
    hsame late fun r' hr' => (Int.ne_of_lt (hlate r' hr')).symm]

/-- A claim brings one SIM to its stage, in its own pool. -/
theorem reached_claim {c : Sim} (hc : c ∈ s.sims.rows) (hready : c.isReady) (pool : Pool)
    (stage : Stage) : (s.changeSim c.id .claim).1.reached pool stage =
      s.reached pool stage + if c.pool = pool ∧ stage = .claimed then 1 else 0 := by
  obtain ⟨early, late, hrows, hrows'⟩ := exists_rows_changeSim hc .claim hready
  have hfree : c.provisionState = .available := by
    simp only [SimData.isReady, Bool.and_eq_true, beq_iff_eq] at hready
    exact hready.2
  rw [reached, hrows', reached, hrows, List.countP_append, List.countP_append, List.countP_cons,
    List.countP_cons, Stage.holds_change rfl]
  cases stage <;> by_cases hpool : c.pool = pool <;>
    simp [Stage.holds, Stage.isReachedBy, SimChange.reaches, hfree, hpool, Nat.add_assoc]

end Store

/-! ## Feeds -/

namespace Feed

variable {s s' : Store} {records : List FeedRecord} {batch : Batch} {pool : Pool} {stage : Stage}

/-- How many records of a feed for a registry describe SIMs of a pool. -/
def countFor (pool : Pool) (registry : RegistryId) (records : List FeedRecord) : Nat :=
  if registry = pool.registry then
    records.countP fun r => Text.trim r.profileType == pool.profile
  else 0

/-- SIMs that were stored for a feed are stored, and nothing more. -/
theorem countP_holds_storedAs {new : List Sim}
    (h : List.Forall₂ (fun r sim => FeedRecord.StoredAs r batch sim) records new) :
    new.countP (stage.holds pool) =
      if stage = .stored then countFor pool batch.registryId records else 0 := by
  induction h with
  | nil => simp [countFor]
  | @cons r sim rest new hstored _ ih =>
    have hholds : stage.holds pool sim =
        (decide (stage = .stored) && (decide (batch.registryId = pool.registry) &&
          (Text.trim r.profileType == pool.profile))) := by
      have hpool : (sim.pool == pool) = (decide (batch.registryId = pool.registry) &&
          (Text.trim r.profileType == pool.profile)) := by
        obtain ⟨registry, profile⟩ := pool
        rw [← hstored.registryId, ← hstored.profileType, Bool.eq_iff_iff]
        simp [SimData.pool]
      cases stage <;>
        simp [Stage.holds, Stage.isReachedBy, hstored.vendorState, hstored.provisionState, hpool]
    rw [List.countP_cons, ih, hholds]
    by_cases hstage : stage = .stored <;> by_cases hregistry : batch.registryId = pool.registry <;>
      simp [countFor, hstage, hregistry, List.countP_cons]

/-- A feed that was stored brings SIMs to its pools. -/
theorem Stored.reached (h : Stored s records batch s') (pool : Pool) (stage : Stage) :
    s'.reached pool stage = s.reached pool stage +
      if stage = .stored then countFor pool batch.registryId records else 0 := by
  obtain ⟨new, hrows, hnew⟩ := h.rows
  rw [Store.reached_append hrows, countP_holds_storedAs hnew]

end Feed

/-! ## Passes -/

namespace Reconcile

variable {bindings : Bindings} {tuning : Tuning} {s : Store} {reports : List PoolReport}
  {calls : List ReleaseCall}

/-- A pass brings SIMs to be released, as many as it reports. -/
theorem Rounds.reached_supplyAll (h : Rounds bindings tuning s.pools s reports calls)
    (hs : s.Referential) (pool : Pool) (stage : Stage) :
    (s.supplyAll calls).reached pool stage = s.reached pool stage +
      if stage = .released then PassReport.releasedIn ⟨reports⟩ pool else 0 := by
  have hkept : ∀ {p : Sim → Bool}, (∀ r, p (ReleaseCall.applyAll calls r) = p r) →
      (s.supplyAll calls).sims.rows.countP p = s.sims.rows.countP p := by
    intro p hp
    rw [Store.rows_supplyAll, List.countP_map]
    exact List.countP_congr fun r _ => by rw [Function.comp_apply, hp]
  cases stage with
  | stored => exact hkept fun r => by simp [Stage.holds, Stage.isReachedBy]
  | claimed => exact hkept fun r => by simp [Stage.holds, Stage.isReachedBy]
  | released =>
    obtain ⟨hle, hraw⟩ := h.rawOf_supplyAll hs pool
    -- What the raw stock of the pool loses was released.
    have hleft := congrArg List.length hraw
    rw [List.length_drop, ← Store.raw_figures, ← Store.raw_figures] at hleft
    rw [← Store.raw_figures] at hle
    have hbefore := s.raw_add_reached pool
    have hafter := (s.supplyAll calls).raw_add_reached pool
    have htotal := s.total_supplyAll pool calls
    rw [if_pos rfl]
    omega

end Reconcile

end SimDepot
