import SimDepot.Proofs.Reconcile.Convergence

/-!
# Runs that stop at the first failure

The run over a pool asks the vendors of raw SIMs one after the other, until one of them fails, a
vendor turns out to be bound to no service, or the budget or the stock is used up. `Topped` follows
it call by call; `Reconcile.ToppedUp` says of the calls as a whole which they are and how the run
ends after them. What lasts of a run that stops are the releases before the failure:
`Store.Released` says that these are recorded and that nothing else has changed.

An error of a vendor ends a run whatever kind it is of. In particular a vendor that does not find a
SIM, or does not update it, is not taken for a stock that is used up or for a release that another
run was first to record.
-/

namespace SimDepot

/-- From `s` to `s'` the SIMs of the calls that succeeded were released, as their vendors answered,
and nothing else has changed. -/
structure Store.Released (s : Store) (calls : List ReleaseCall) (s' : Store) : Prop where
  /-- What a vendor released is recorded. A chip that is known stays. -/
  released : ∀ call ∈ calls, ∀ release, call.answer = .ok release →
    { call.sim with
      vendorState := .released
      matchingId := some release.matchingId
      eid := call.sim.eid.or release.eid } ∈ s'.sims.rows
  /-- Every other SIM is as it was. -/
  others : ∀ r ∈ s.sims.rows, (∀ call ∈ calls, call.succeeded → call.sim ≠ r) → r ∈ s'.sims.rows
  /-- No SIM came or went. -/
  ids : s'.sims.rows.map (·.id) = s.sims.rows.map (·.id)
  /-- No identity was given out. -/
  last : s'.sims.last = s.sims.last
  /-- Only SIMs have changed. -/
  rest : { s' with sims := s.sims } = s

/-- Where calls are about different SIMs, a raw SIM is what its own call makes of it. -/
theorem ReleaseCall.applyAll_of_mem {calls : List ReleaseCall}
    (hnodup : (calls.map (·.sim.id)).Nodup) {call : ReleaseCall} (hcall : call ∈ calls) :
    applyAll calls call.sim = call.apply call.sim := by
  obtain ⟨early, late, rfl⟩ := List.append_of_mem hcall
  rw [List.map_append, List.map_cons, List.nodup_middle, List.nodup_cons, List.mem_append,
    not_or] at hnodup
  have habsent : ∀ {others : List ReleaseCall}, call.sim.id ∉ others.map (·.sim.id) →
      call.sim.id ∉ releasedIds others := fun hnot hmem =>
    hnot ((List.filter_sublist.map _).subset hmem)
  have hid : (call.apply call.sim).id = call.sim.id := apply_of_supplied _ (fun _ _ => rfl) _ _
  rw [applyAll_append, applyAll_of_not_mem (habsent hnodup.1.1), applyAll_cons,
    applyAll_of_not_mem (hid ▸ habsent hnodup.1.2)]

/-- Calls about different raw SIMs release those whose vendors succeed. -/
theorem Store.released_supplyAll {s : Store} {calls : List ReleaseCall}
    (hraw : ∀ call ∈ calls, call.sim ∈ s.sims.rows ∧ call.sim.isRaw)
    (hnodup : (calls.map (·.sim.id)).Nodup) : s.Released calls (s.supplyAll calls) where
  released call hcall release hanswer := by
    obtain ⟨hsim, hsimraw⟩ := hraw call hcall
    have happly : call.apply call.sim = call.sim.supplied release := by
      simp [ReleaseCall.apply, hanswer, hsimraw]
    exact List.mem_map.2 ⟨call.sim, hsim,
      (ReleaseCall.applyAll_of_mem hnodup hcall).trans happly⟩
  others r hr hnone := by
    refine List.mem_map.2 ⟨r, hr, ReleaseCall.applyAll_of_not_mem fun hmem => ?_⟩
    obtain ⟨call, hcall, hid⟩ := List.mem_map.1 hmem
    obtain ⟨hcall, hsucceeded⟩ := List.mem_filter.1 hcall
    exact hnone call hcall hsucceeded (Table.id_inj (hraw call hcall).1 hr hid)
  ids := by
    rw [rows_supplyAll, List.map_map]
    exact List.map_congr_left fun r _ => ReleaseCall.id_applyAll calls r
  last := rfl
  rest := rfl

namespace Reconcile

/-- What a run did that had so much to spend on the raw stock `raw`: the calls it made, and how it
ended. -/
structure ToppedUp (bindings : Bindings) (budget : Nat) (raw : List Sim) (calls : List ReleaseCall)
    (outcome : PoolOutcome) : Prop where
  /-- The calls are about the first SIMs of the stock, in order and each once. -/
  order : calls.map (·.sim) <+: raw
  /-- They keep to the budget. -/
  within : calls.length ≤ budget
  /-- Each goes to the service that is bound to the vendor of the SIM. -/
  vendor : ∀ call ∈ calls, call.vendor = call.sim.vendorId ∧
    (bindings.vendors.get? call.vendor).isSome
  /-- All but the last one succeeded. -/
  goes : ∀ call ∈ calls.dropLast, call.succeeded
  /-- Where a vendor failed, its error is how the run ended. -/
  failed : ∀ call ∈ calls, ∀ e, call.answer = .error e → outcome = .failed e
  /-- Where none did, the budget or the stock was used up, or the vendor of the next SIM is bound
  to no service. -/
  ended : (∀ call ∈ calls, call.succeeded) →
    (calls.length = min budget raw.length ∧
      outcome = if raw.length < budget then .exhausted else .replenished) ∨
    (calls.length < budget ∧ ∃ sim, raw[calls.length]? = some sim ∧
      bindings.vendors.get? sim.vendorId = none ∧
      outcome = .failed (.system (.vendorService sim.vendorId)))

variable {bindings : Bindings} {budget : Nat} {raw : List Sim} {calls : List ReleaseCall}
  {outcome : PoolOutcome}

theorem Topped.vendor (h : Topped bindings budget raw calls outcome) :
    ∀ call ∈ calls, call.vendor = call.sim.vendorId ∧
      (bindings.vendors.get? call.vendor).isSome := by
  induction h with
  | spent raw => simp
  | exhausted budget => simp
  | unbound budget rest h => simp
  | refused budget rest e h => exact List.forall_mem_singleton.2 ⟨rfl, h⟩
  | released release h hrest ih => exact List.forall_mem_cons.2 ⟨⟨rfl, h⟩, ih⟩

theorem Topped.goes (h : Topped bindings budget raw calls outcome) :
    ∀ call ∈ calls.dropLast, call.succeeded := by
  induction h with
  | spent raw => simp
  | exhausted budget => simp
  | unbound budget rest h => simp
  | refused budget rest e h => simp
  | @released budget sim rest release calls outcome h hrest ih =>
    cases calls with
    | nil => simp
    | cons call later => exact List.forall_mem_cons.2 ⟨rfl, ih⟩

theorem Topped.failed (h : Topped bindings budget raw calls outcome) :
    ∀ call ∈ calls, ∀ e, call.answer = .error e → outcome = .failed e := by
  induction h with
  | spent raw => simp
  | exhausted budget => simp
  | unbound budget rest h => simp
  | refused budget rest e h =>
    rintro call hcall e' he
    rw [List.mem_singleton.1 hcall] at he
    rw [Except.error.inj he]
  | released release h hrest ih =>
    exact List.forall_mem_cons.2 ⟨fun _ he => (nomatch he), ih⟩

theorem Topped.ended (h : Topped bindings budget raw calls outcome)
    (hgood : ∀ call ∈ calls, call.succeeded) :
    (calls.length = min budget raw.length ∧
      outcome = if raw.length < budget then .exhausted else .replenished) ∨
    (calls.length < budget ∧ ∃ sim, raw[calls.length]? = some sim ∧
      bindings.vendors.get? sim.vendorId = none ∧
      outcome = .failed (.system (.vendorService sim.vendorId))) := by
  induction h with
  | spent raw => exact .inl ⟨by simp, by simp⟩
  | exhausted budget => exact .inl ⟨by simp, by simp⟩
  | @unbound budget sim rest h => exact .inr ⟨Nat.succ_pos _, sim, rfl, h, rfl⟩
  | refused budget rest e h => cases hgood _ (List.mem_singleton.2 rfl)
  | released release h hrest ih =>
    rcases ih fun call hcall => hgood call (List.mem_cons_of_mem _ hcall) with
      ⟨hlength, houtcome⟩ | ⟨hlength, sim, hsim, hunbound, houtcome⟩
    · refine .inl ⟨?_, ?_⟩
      · rw [List.length_cons, List.length_cons, hlength, Nat.add_min_add_right]
      · simp only [houtcome, List.length_cons, Nat.add_lt_add_iff_right]
    · exact .inr ⟨Nat.succ_lt_succ hlength, sim, hsim, hunbound, houtcome⟩

theorem Topped.toppedUp (h : Topped bindings budget raw calls outcome) :
    ToppedUp bindings budget raw calls outcome :=
  ⟨h.sims_isPrefix, h.length_le, h.vendor, h.goes, h.failed, h.ended⟩

theorem PoolRun.readyBefore_eq {tuning : Tuning} {pool : Pool} {sims : List Sim}
    {report : PoolReport} (h : PoolRun bindings tuning pool sims report calls) :
    report.readyBefore = sims.countP fun r => r.isReady := by
  cases h <;> rfl

/-- The run over a pool when nobody else is at work and the store does not fail: vendors may answer
each call with a release or with any error. It finds so many SIMs ready to use, and reports as
released the calls that succeeded; the SIMs of these are recorded as released, and nothing else has
changed. With enough SIMs ready to use it calls nobody. Otherwise it calls the vendors of raw SIMs
in the order of identities, up to the first failure. -/
theorem pool_stops_at_failure (s : Store) (bindings : Bindings) (tuning : Tuning) (pool : Pool) :
    (∀ answers : Answers, ∃ report h,
      (Reconcile.pool bindings tuning pool).ComesToBy answers.Give s report h) ∧
    ∀ report h, (Reconcile.pool bindings tuning pool).ComesToBy (fun _ => True) s report h →
      report.pool = pool ∧
      report.readyBefore = (s.rowsOf pool).countP (fun r => r.isReady) ∧
      report.released = h.releaseCalls.countP (·.succeeded) ∧
      s.Released h.releaseCalls h.store ∧
      if tuning.lowWaterMark ≤ report.readyBefore then
        report.outcome = .aboveLowWater ∧ h.releaseCalls = [] ∧ h.store = s
      else ToppedUp bindings tuning.maxToAllocate (s.rawOf pool) h.releaseCalls report.outcome := by
  refine ⟨fun answers => Flow.exists_comesToBy (fun vendor sim => ⟨answers vendor sim, rfl⟩) _ s,
    fun report h hcomes => ?_⟩
  obtain ⟨_, -, calls, hrun, hsupplied⟩ := Flow.post_of_comesToBy undisturbed_pool hcomes
  have hrun : PoolRun bindings tuning pool (s.rowsOf pool) report calls := hrun
  have hcalls : h.releaseCalls = calls := hsupplied.calls
  have hstore : h.store = s.supplyAll calls := hsupplied.store
  have hfirst : calls.map (·.sim) <+: s.rawOf pool := hrun.sims_isPrefix
  -- The calls are about different raw SIMs, as the stock is in the order of identities.
  have hraw : ∀ call ∈ calls, call.sim ∈ s.sims.rows ∧ call.sim.isRaw := fun call hcall =>
    have hsim := Store.mem_rawOf.1 (hfirst.subset (List.mem_map_of_mem hcall))
    ⟨hsim.1, hsim.2.2⟩
  have hnodup : (calls.map (·.sim.id)).Nodup := by
    have hascending := (s.pairwise_rawOf pool).sublist hfirst.sublist
    exact List.pairwise_map.2 ((List.pairwise_map.1 hascending).imp Int.ne_of_lt)
  rw [hcalls, hstore]
  refine ⟨hrun.released_eq.1, hrun.readyBefore_eq, hrun.released_eq.2,
    Store.released_supplyAll hraw hnodup, ?_⟩
  cases hrun with
  | above habove => exact (if_pos habove).symm ▸ ⟨rfl, rfl, Store.supplyAll_nil s⟩
  | topped hbelow htopped =>
    rw [if_neg (Nat.not_le.2 hbelow)]
    exact htopped.toppedUp

/-- The vendor does not know one of its SIMs. -/
def unknownSecond : Answers := fun _ sim =>
  if sim.id = 2 then .error (.notFound (.simWithIccid sim.iccid)) else .ok ⟨"M", none⟩

/-- A run that is to release three SIMs of five releases one and fails with what the vendor says of
the next one. -/
theorem pool_stops_at_unknown_card : ∃ report h,
    (Reconcile.pool firstServices ⟨0, 1, 3⟩ ⟨1, "P"⟩).ComesToBy unknownSecond.Give fiveRaw report h ∧
      report.outcome = .failed (.notFound (.simWithIccid "8948")) ∧
      h.releaseCalls.countP (·.succeeded) = 1 ∧ fiveRaw.Released h.releaseCalls h.store := by
  obtain ⟨hexists, hall⟩ := pool_stops_at_failure fiveRaw firstServices ⟨0, 1, 3⟩ ⟨1, "P"⟩
  obtain ⟨report, h, hcomes⟩ := hexists unknownSecond
  obtain ⟨-, -, hcount, hreleased, -⟩ := hall report h (hcomes.mono fun _ _ => trivial)
  obtain ⟨rfl, -⟩ := (leadsTo_pool fiveRaw ⟨1, "P"⟩).unique report h hcomes
  exact ⟨_, h, hcomes, by decide +kernel, hcount.symm.trans (by decide +kernel), hreleased⟩

end Reconcile

end SimDepot
