import SimDepot.Proofs.Lifecycle.Order
import SimDepot.Proofs.Reconcile.Answered
import SimDepot.Proofs.Reconcile.Course

/-!
# Pools apart

The run over a pool looks at the SIMs of the pool and changes nothing else. Where vendors answer by
the SIM only that they are given, `Reconcile.reportFor` and `Reconcile.callsFor` say what it reports
and which calls it makes, as functions of these SIMs. A pass is one such run for every pool that has
a SIM, each as if it were the only one.
-/

namespace SimDepot

/-- The table that has this row only. -/
def Table.single {α : Type} [Row α] (r : α) : Table α :=
  ⟨[r], Row.id r, List.pairwise_singleton .., List.pairwise_singleton .., by simp⟩

namespace Reconcile

/-! ## What a run comes to -/

section Runs

variable (bindings : Bindings) (tuning : Tuning) (answers : Answers)

/-- The calls by which a run spends its budget on raw stock, and how it ends. -/
def spend : (budget : Nat) → (raw : List Sim) → List ReleaseCall × PoolOutcome
  | 0, _ => ([], .replenished)
  | _ + 1, [] => ([], .exhausted)
  | budget + 1, sim :: rest =>
    if (bindings.vendors.get? sim.vendorId).isSome then
      match answers sim.vendorId sim with
      | .ok release =>
        (⟨sim.vendorId, sim, .ok release⟩ :: (spend budget rest).1, (spend budget rest).2)
      | .error e => ([⟨sim.vendorId, sim, .error e⟩], .failed e)
    else ([], .failed (.system (.vendorService sim.vendorId)))

/-- The calls of the run over a pool with these SIMs. -/
def callsFor (sims : List Sim) : List ReleaseCall :=
  if tuning.lowWaterMark ≤ (PoolFigures.ofSims sims).ready then []
  else (spend bindings answers tuning.maxToAllocate (sims.filter fun r => r.isRaw)).1

/-- The report of the run over a pool with these SIMs. -/
def reportFor (pool : Pool) (sims : List Sim) : PoolReport where
  pool
  readyBefore := (PoolFigures.ofSims sims).ready
  released := (callsFor bindings tuning answers sims).countP (·.succeeded)
  outcome :=
    if tuning.lowWaterMark ≤ (PoolFigures.ofSims sims).ready then .aboveLowWater
    else (spend bindings answers tuning.maxToAllocate (sims.filter fun r => r.isRaw)).2

end Runs

variable {bindings : Bindings} {tuning : Tuning} {answers : Answers} {pool : Pool} {sims : List Sim}
  {s : Store}

theorem topped_spend (budget : Nat) (raw : List Sim) :
    Topped bindings budget raw (spend bindings answers budget raw).1
      (spend bindings answers budget raw).2 := by
  induction budget generalizing raw with
  | zero => exact .spent raw
  | succ budget ih =>
    cases raw with
    | nil => exact .exhausted budget
    | cons sim rest =>
      unfold spend
      split
      next hbound =>
        split
        next release _ => exact .released release hbound (ih rest)
        next e _ => exact .refused budget rest e hbound
      next hunbound => exact .unbound budget rest (by simpa using hunbound)

theorem poolRun_callsFor (pool : Pool) (sims : List Sim) :
    PoolRun bindings tuning pool sims (reportFor bindings tuning answers pool sims)
      (callsFor bindings tuning answers sims) := by
  unfold reportFor callsFor
  split
  next habove => exact .above habove
  next hbelow => exact .topped (Nat.lt_of_not_le hbelow) (topped_spend _ _)

theorem Topped.eq_spend {budget : Nat} {raw : List Sim} {calls : List ReleaseCall}
    {outcome : PoolOutcome} (h : Topped bindings budget raw calls outcome)
    (hgive : ∀ call ∈ calls, answers.Give call) :
    spend bindings answers budget raw = (calls, outcome) := by
  induction h with
  | spent raw => rfl
  | exhausted budget => rfl
  | unbound budget rest h => simp [spend, h]
  | refused budget rest e h =>
    have hanswer : .error e = answers _ _ := hgive _ (List.mem_singleton.2 rfl)
    simp [spend, h, ← hanswer]
  | released release h hrest ih =>
    have hanswer : .ok release = answers _ _ := hgive _ (List.mem_cons_self ..)
    simp [spend, h, ← hanswer, ih fun call hcall => hgive call (List.mem_cons_of_mem _ hcall)]

/-- Where vendors answer so, there is one way only for a run over a pool. -/
theorem PoolRun.eq_for {report : PoolReport} {calls : List ReleaseCall}
    (h : PoolRun bindings tuning pool sims report calls)
    (hgive : ∀ call ∈ calls, answers.Give call) :
    report = reportFor bindings tuning answers pool sims ∧
      calls = callsFor bindings tuning answers sims := by
  unfold reportFor callsFor
  cases h with
  | above habove => simp [habove]
  | topped hbelow htopped => simp [Nat.not_le.2 hbelow, htopped.eq_spend hgive]

/-- A run over a pool depends on its SIMs only, on which of their vendors are bound to services, and
on what these answer. -/
theorem spend_congr {bindings' : Bindings} {answers' : Answers} {raw : List Sim}
    (h : ∀ sim ∈ raw, (bindings'.vendors.get? sim.vendorId).isSome =
      (bindings.vendors.get? sim.vendorId).isSome ∧
        answers' sim.vendorId sim = answers sim.vendorId sim) (budget : Nat) :
    spend bindings' answers' budget raw = spend bindings answers budget raw := by
  induction budget generalizing raw with
  | zero => rfl
  | succ budget ih =>
    cases raw with
    | nil => rfl
    | cons sim rest =>
      obtain ⟨hbound, hanswer⟩ := h sim (List.mem_cons_self ..)
      unfold spend
      rw [hbound, hanswer, ih fun r hr => h r (List.mem_cons_of_mem _ hr)]

/-! ## What sessions come to -/

/-- The run over a pool, alone. -/
theorem leadsTo_pool (s : Store) (pool : Pool) :
    (Reconcile.pool bindings tuning pool).LeadsTo answers s
      (reportFor bindings tuning answers pool (s.rowsOf pool))
      (s.supplyAll (callsFor bindings tuning answers (s.rowsOf pool))) := by
  refine Flow.leadsTo_of_undisturbed (undisturbed_pool.mono ?_)
  rintro report _ h ⟨-, calls, hrun, hsupplied⟩ hgive
  rw [hsupplied.calls] at hgive
  obtain ⟨rfl, rfl⟩ := hrun.eq_for fun call hcall => hgive call (List.mem_append_right _ hcall)
  exact ⟨rfl, hsupplied.store⟩

/-- The calls of a pass over the store. -/
def passCalls (bindings : Bindings) (tuning : Tuning) (answers : Answers) (s : Store) :
    List ReleaseCall :=
  s.pools.flatMap fun pool => callsFor bindings tuning answers (s.rowsOf pool)

/-- The report of a pass over the store. -/
def passReport (bindings : Bindings) (tuning : Tuning) (answers : Answers) (s : Store) :
    PassReport :=
  ⟨s.pools.map fun pool => reportFor bindings tuning answers pool (s.rowsOf pool)⟩

/-- A pass. -/
theorem leadsTo_pass (s : Store) :
    (pass bindings tuning).run.LeadsTo answers s (.ok (passReport bindings tuning answers s))
      (s.supplyAll (passCalls bindings tuning answers s)) := by
  refine Flow.leadsTo_of_undisturbed (Flow.Undisturbed.mono undisturbed_pass ?_)
  rintro _ _ h ⟨-, reports, calls, rfl, hrounds, hsupplied⟩ hgive
  rw [hsupplied.calls] at hgive
  obtain ⟨run, rfl, rfl, hruns⟩ := Rounds.apart hrounds s.nodup_pools
  have heq : ∀ pool ∈ s.pools, (run pool).1 =
      reportFor bindings tuning answers pool (s.rowsOf pool) ∧
        (run pool).2 = callsFor bindings tuning answers (s.rowsOf pool) := fun pool hpool =>
    (hruns pool hpool).eq_for fun call hcall =>
      hgive call (List.mem_append_right _ (List.mem_flatMap.2 ⟨pool, hpool, hcall⟩))
  refine ⟨?_, ?_⟩
  · exact congrArg _ (congrArg _ (List.map_congr_left fun pool hpool => (heq pool hpool).1))
  · rw [hsupplied.store]
    exact congrArg _ (List.flatMap_congr fun pool hpool => (heq pool hpool).2)

/-! ## Pools among others -/

/-- The calls of the run over a pool are about its raw stock. -/
theorem mem_rawOf_of_callsFor {call : ReleaseCall}
    (hcall : call ∈ callsFor bindings tuning answers (s.rowsOf pool)) :
    call.sim ∈ s.rawOf pool :=
  (poolRun_callsFor pool (s.rowsOf pool)).sims_isPrefix.subset (List.mem_map_of_mem hcall)

theorem sim_mem_of_callsFor {call : ReleaseCall}
    (hcall : call ∈ callsFor bindings tuning answers (s.rowsOf pool)) :
    call.sim ∈ s.rowsOf pool :=
  (List.mem_filter.1 (mem_rawOf_of_callsFor hcall)).1

/-- What a pass makes of a pool is what the run over the pool makes of it. -/
theorem rowsOf_supplyAll_passCalls (hs : s.Referential) (pool : Pool) :
    (s.supplyAll (passCalls bindings tuning answers s)).rowsOf pool =
      (s.supplyAll (callsFor bindings tuning answers (s.rowsOf pool))).rowsOf pool := by
  by_cases hpool : pool ∈ s.pools
  · have hcalls : ∀ call ∈ passCalls bindings tuning answers s, call.sim ∈ s.sims.rows := by
      intro call hcall
      obtain ⟨other, -, hcall⟩ := List.mem_flatMap.1 hcall
      exact (Store.mem_rawOf.1 (mem_rawOf_of_callsFor hcall)).1
    have hown : (passCalls bindings tuning answers s).filter (fun call => call.sim.pool == pool) =
        callsFor bindings tuning answers (s.rowsOf pool) :=
      ReleaseCall.filter_flatMap s.nodup_pools (fun other _ call hcall =>
        (Store.mem_rawOf.1 (mem_rawOf_of_callsFor hcall)).2.1) hpool
    rw [← Store.rowsOf_supplyAll_filter hcalls, hown]
  · have hnone : s.rowsOf pool = [] := List.filter_eq_nil_iff.2 fun r hr heq =>
      hpool ((Store.mem_pools hs).2 ⟨r, hr, by simpa using heq⟩)
    simp [Store.rowsOf_supplyAll, hnone]

/-- A pass calls vendors about a SIM once at most. -/
theorem nodup_passCalls : ((passCalls bindings tuning answers s).map (·.sim.id)).Nodup := by
  refine List.pairwise_map.2 (List.pairwise_flatMap.2 ⟨fun pool _ => ?_, ?_⟩)
  · have hprefix : (callsFor bindings tuning answers (s.rowsOf pool)).map (·.sim) <+:
        s.rawOf pool := (poolRun_callsFor pool (s.rowsOf pool)).sims_isPrefix
    have hascending := (s.pairwise_rawOf pool).sublist hprefix.sublist
    exact (List.pairwise_map.1 hascending).imp Int.ne_of_lt
  · -- A SIM is in one pool only.
    refine s.nodup_pools.imp fun {pool other} hne call hcall later hlater hid => hne ?_
    obtain ⟨hsim, hpool, -⟩ := Store.mem_rawOf.1 (mem_rawOf_of_callsFor hcall)
    obtain ⟨hsim', hother, -⟩ := Store.mem_rawOf.1 (mem_rawOf_of_callsFor hlater)
    rw [← hpool, ← hother, Table.id_inj hsim hsim' hid]

/-- A pass reports as many SIMs released as were released. -/
theorem released_passReport (s : Store) :
    (passReport bindings tuning answers s).released =
      (((s.supplyAll (passCalls bindings tuning answers s)).idsWhere Sim.isReleased).filter
        fun id => id ∉ s.idsWhere Sim.isReleased).length := by
  have hraw : ∀ call ∈ passCalls bindings tuning answers s,
      call.sim ∈ s.sims.rows ∧ call.sim.isRaw := by
    intro call hcall
    obtain ⟨pool, -, hcall⟩ := List.mem_flatMap.1 hcall
    obtain ⟨hsim, -, hraw⟩ := Store.mem_rawOf.1 (mem_rawOf_of_callsFor hcall)
    exact ⟨hsim, hraw⟩
  -- Both sides count the calls that succeeded.
  rw [(Store.perm_releasedIds hraw nodup_passCalls).length_eq, ReleaseCall.releasedIds,
    List.length_map, ← List.countP_eq_length_filter, passCalls, List.countP_flatMap]
  rw [PassReport.released, passReport, List.map_map]
  rfl

/-- The runs over two pools may change places. -/
theorem leadsTo_pool_after {other : Pool} (hne : other ≠ pool) (s : Store) :
    (Reconcile.pool bindings tuning other).LeadsTo answers
      (s.supplyAll (callsFor bindings tuning answers (s.rowsOf pool)))
      (reportFor bindings tuning answers other (s.rowsOf other))
      (s.supplyAll (callsFor bindings tuning answers (s.rowsOf pool) ++
        callsFor bindings tuning answers (s.rowsOf other))) := by
  have hrun : (Reconcile.pool bindings tuning other).LeadsTo answers _ _ _ :=
    leadsTo_pool (s.supplyAll (callsFor bindings tuning answers (s.rowsOf pool))) other
  rw [Store.rowsOf_supplyAll_of_ne (fun _ => sim_mem_of_callsFor) hne,
    ← Store.supplyAll_append] at hrun
  exact hrun

/-- What a pass makes of a pool depends on the SIMs of the pool only, on which of their vendors are
bound to services, and on what these answer. -/
theorem poolOf_pass {bindings' : Bindings} {answers' : Answers} (hs : s.Referential)
    (h : ∀ sim ∈ s.rowsOf pool, (bindings'.vendors.get? sim.vendorId).isSome =
      (bindings.vendors.get? sim.vendorId).isSome ∧
        answers' sim.vendorId sim = answers sim.vendorId sim) :
    (∀ own, own.pool = pool → (own ∈ (passReport bindings' tuning answers' s).pools ↔
        own ∈ (passReport bindings tuning answers s).pools)) ∧
      (s.supplyAll (passCalls bindings' tuning answers' s)).rowsOf pool =
        (s.supplyAll (passCalls bindings tuning answers s)).rowsOf pool := by
  have hspend : spend bindings' answers' tuning.maxToAllocate (s.rawOf pool) =
      spend bindings answers tuning.maxToAllocate (s.rawOf pool) :=
    spend_congr (fun sim hsim => h sim (List.mem_filter.1 hsim).1) _
  have hcalls : callsFor bindings' tuning answers' (s.rowsOf pool) =
      callsFor bindings tuning answers (s.rowsOf pool) := by
    rw [callsFor, ← Store.rawOf, hspend, callsFor, Store.rawOf]
  have hreport : reportFor bindings' tuning answers' pool (s.rowsOf pool) =
      reportFor bindings tuning answers pool (s.rowsOf pool) := by
    rw [reportFor, hcalls, ← Store.rawOf, hspend, reportFor, Store.rawOf]
  refine ⟨?_, ?_⟩
  · rintro own rfl
    simp only [passReport, List.mem_map]
    refine exists_congr fun other => and_congr_right fun _ => ⟨?_, ?_⟩ <;> intro heq
    · obtain rfl : other = own.pool := congrArg PoolReport.pool heq
      exact hreport.symm.trans heq
    · obtain rfl : other = own.pool := congrArg PoolReport.pool heq
      exact hreport.trans heq
  · rw [rowsOf_supplyAll_passCalls hs, rowsOf_supplyAll_passCalls hs, hcalls]

/-- Vendors answer by the SIM only that they are given, with a release or with any error, and some
may not be bound to a service. A pass that is alone has one report for every pool that has a SIM, by
registry and then by the bytes of the profile type. Each report, and what becomes of each pool, is
what the run over this pool comes to when it is the only one on the same store; and that run leaves
the other pools as they are. Runs over two pools come to the same reports and the same store in
either order. The reports count the SIMs that were released, and nothing but SIMs changes. Where
only vendors of other pools answer otherwise, or are bound to services otherwise, the report on a
pool and what becomes of it are the same. -/
theorem pools_apart (s : Store) (hs : s.Referential) (bindings : Bindings) (tuning : Tuning)
    (answers : Answers) :
    ∃ report s', (pass bindings tuning).run.LeadsTo answers s (.ok report) s' ∧
      (∀ pool, pool ∈ report.pools.map (·.pool) ↔ ∃ r ∈ s.sims.rows, r.pool = pool) ∧
      report.pools.Pairwise (fun a b => a.pool.Precedes b.pool) ∧
      (∀ pool, ∃ own t, (Reconcile.pool bindings tuning pool).LeadsTo answers s own t ∧
        (∀ r ∈ report.pools, r.pool = pool → r = own) ∧ s'.rowsOf pool = t.rowsOf pool ∧
          ∀ other, other ≠ pool → t.rowsOf other = s.rowsOf other) ∧
      (∀ p q, p ≠ q → ∃ a b sp sq t,
        (Reconcile.pool bindings tuning p).LeadsTo answers s a sp ∧
        (Reconcile.pool bindings tuning q).LeadsTo answers sp b t ∧
        (Reconcile.pool bindings tuning q).LeadsTo answers s b sq ∧
        (Reconcile.pool bindings tuning p).LeadsTo answers sq a t) ∧
      report.released =
        ((s'.idsWhere Sim.isReleased).filter fun id => id ∉ s.idsWhere Sim.isReleased).length ∧
      { s' with sims := s.sims } = s ∧
      ∀ bindings' answers' pool report' t,
        (∀ sim ∈ s.rowsOf pool, (bindings'.vendors.get? sim.vendorId).isSome =
          (bindings.vendors.get? sim.vendorId).isSome ∧
            answers' sim.vendorId sim = answers sim.vendorId sim) →
        (pass bindings' tuning).run.LeadsTo answers' s (.ok report') t →
          (∀ own, own.pool = pool → (own ∈ report'.pools ↔ own ∈ report.pools)) ∧
            t.rowsOf pool = s'.rowsOf pool := by
  refine ⟨_, _, leadsTo_pass s, fun pool => ?_, ?_, fun pool => ?_, fun p q hne => ?_,
    released_passReport s, rfl, fun bindings' answers' pool report' t hsame hleads => ?_⟩
  · rw [← Store.mem_pools hs, passReport, List.map_map]
    simp [reportFor]
  · exact List.pairwise_map.2 s.pairwise_pools
  · refine ⟨_, _, leadsTo_pool s pool, ?_, rowsOf_supplyAll_passCalls hs pool,
      fun other hne => Store.rowsOf_supplyAll_of_ne (fun _ => sim_mem_of_callsFor) hne⟩
    rintro r hr rfl
    obtain ⟨pool, -, rfl⟩ := List.mem_map.1 hr
    rfl
  · refine ⟨_, _, _, _, _, leadsTo_pool s p, leadsTo_pool_after hne.symm s, leadsTo_pool s q, ?_⟩
    rw [Store.supplyAll_comm fun call hcall later hlater hid => hne ?_]
    · exact leadsTo_pool_after hne s
    · obtain ⟨hsim, hp⟩ := Store.mem_rowsOf.1 (sim_mem_of_callsFor hcall)
      obtain ⟨hsim', hq⟩ := Store.mem_rowsOf.1 (sim_mem_of_callsFor hlater)
      rw [← hp, ← hq, Table.id_inj hsim hsim' hid]
  · obtain ⟨hreport, rfl⟩ := hleads.eq (leadsTo_pass s)
    obtain rfl := Except.ok.inj hreport
    exact poolOf_pass hs hsame

/-- A raw SIM. -/
def rawCard (id : SimId) (iccid : String) (registry : RegistryId) : Sim where
  id := id
  iccid := iccid
  imsi := "2420"
  msisdn := none
  eid := none
  profileType := "P"
  registryId := registry
  vendorId := 1
  batchId := 1
  registryState := .notActivated
  vendorState := .available
  provisionState := .available
  matchingId := none
  suspendedAt := none

/-- Two registries, each with raw stock of the same vendor. -/
def twoPools : Store where
  registries := ⟨[⟨1, "First"⟩, ⟨2, "Second"⟩], 2, by decide, by decide, by decide⟩
  vendors := .single ⟨1, "Vendor"⟩
  permissions := [⟨1, 1⟩, ⟨1, 2⟩]
  batches := .single ⟨1, "feed", 1, 1, 2, .completed, .epoch, some .epoch⟩
  sims := ⟨[rawCard 1 "8947" 2, rawCard 2 "8948" 1], 2, by decide, by decide, by decide⟩
  nodup_permissions := by decide

/-- The vendor does not know the SIMs of one registry. -/
def knowsSecond : Answers := fun vendor sim =>
  if sim.registryId = 1 then .error (.system (.vendorService vendor)) else .ok ⟨"M", none⟩

/-- The pool that is visited first fails, and the other one is topped up. -/
theorem pools_apart_of_failure : ∃ report s',
    (pass firstServices ⟨0, 1, 1⟩).run.LeadsTo knowsSecond twoPools (.ok report) s' ∧
      report.pools.map (fun r => (r.pool.registry, r.released, r.error?.isSome)) =
        [(1, 0, true), (2, 1, false)] ∧
      report.pools.Pairwise (fun a b => a.pool.Precedes b.pool) ∧
      ((s'.idsWhere Sim.isReleased).filter
        fun id => id ∉ twoPools.idsWhere Sim.isReleased).length = 1 := by
  have hs : twoPools.Referential := ⟨by decide, by decide, by decide⟩
  have hruns : ((passReport firstServices ⟨0, 1, 1⟩ knowsSecond twoPools).pools.map fun r =>
      (r.pool.registry, r.released, r.error?.isSome)) = [(1, 0, true), (2, 1, false)] := by
    decide +kernel
  have hone : (passReport firstServices ⟨0, 1, 1⟩ knowsSecond twoPools).released = 1 := by
    decide +kernel
  obtain ⟨report, s', hleads, -, hordered, -, -, hreleased, -⟩ :=
    pools_apart twoPools hs firstServices ⟨0, 1, 1⟩ knowsSecond
  obtain ⟨hreport, -⟩ := hleads.eq (leadsTo_pass twoPools)
  obtain rfl := Except.ok.inj hreport
  exact ⟨_, _, hleads, hruns, hordered, hreleased.symm.trans hone⟩

end Reconcile

end SimDepot
