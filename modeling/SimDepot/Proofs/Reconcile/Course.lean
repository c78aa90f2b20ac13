import SimDepot.Proofs.Lifecycle.Calls
import SimDepot.Proofs.Reconcile.Pools
import SimDepot.Proofs.Session.InTurn
import SimDepot.Proofs.Stock.Update
import SimDepot.Reconcile.Pass

/-!
# The course of a pass

A pass that nobody disturbs is determined by the stock and by what the vendors answer. `Topped` says
how the run over a pool spends its budget on the raw stock, `PoolRun` what it calls and reports, and
`Rounds` puts the runs over several pools together. None of them speaks of requests to the store:
`Reconcile.undisturbed_pass` says that a pass keeps to them, and what it makes of the store is what
its calls make of it.
-/

namespace SimDepot

variable {ι : Type} {i : ι}

/-- From `h` to `h'` these calls of vendor services were made, and what lasts has changed by them
only. -/
structure Chronicle.Supplied (calls : List ReleaseCall) (h h' : Chronicle ι) : Prop where
  /-- What the calls made of the store. -/
  store : h'.store = h.store.supplyAll calls
  /-- No other calls were made. -/
  calls : h'.releaseCalls = h.releaseCalls ++ calls

namespace Chronicle

variable {h h₁ h₂ : Chronicle ι} {early late : List ReleaseCall}

theorem Supplied.refl (h : Chronicle ι) : Supplied [] h h where
  store := (Store.supplyAll_nil _).symm
  calls := (List.append_nil _).symm

theorem Supplied.trans (hearly : Supplied early h h₁) (hlate : Supplied late h₁ h₂) :
    Supplied (early ++ late) h h₂ where
  store := by rw [hlate.store, hearly.store, Store.supplyAll_append]
  calls := by rw [hlate.calls, hearly.calls, List.append_assoc]

/-- A session that called nobody made no calls of vendor services. -/
theorem OnlyAsked.releaseCalls_eq (hasked : OnlyAsked i (fun r => r.isCall = false) h h₁) :
    h₁.releaseCalls = h.releaseCalls := by
  refine hasked.filterMap_eq fun d hd => Turn.releaseCall?_eq_none fun vendor sim hturn => ?_
  rw [hturn] at hd
  cases hd

theorem OnlyAsked.supplied (hasked : OnlyAsked i (fun r => r.isCall = false) h h₁)
    (hstore : h₁.store = h.store) : Supplied [] h h₁ where
  store := by rw [hstore, Store.supplyAll_nil]
  calls := by rw [hasked.releaseCalls_eq, List.append_nil]

/-- A question changes nothing. -/
theorem Supplied.of_read (h : Chronicle ι) (q : Query) (answer : Except StoreFailure q.Answer) :
    Supplied [] h (h.note i ⟨.read q, answer⟩ h.store) :=
  ((OnlyAsked.refl h).note (by rfl) _).supplied rfl

/-- A call, and what was made of its answer. -/
theorem Supplied.of_note {vendor : VendorId} {sim : Sim} {answer : Except Error Release}
    (hasked : OnlyAsked i (fun r => r.isCall = false)
      (h.note i ⟨.release vendor sim, answer⟩ h.store) h₁)
    (hstore : h₁.store = h.store.supplyAll [⟨vendor, sim, answer⟩]) :
    Supplied [⟨vendor, sim, answer⟩] h h₁ where
  store := hstore
  calls := by
    rw [hasked.releaseCalls_eq]
    simp [releaseCalls, Turn.releaseCall?]

end Chronicle

namespace Reconcile

open SimDepot.Action

/-- How a run over a pool with the raw stock `raw` spends its budget: the calls it makes, in the
order of the stock, and how it ends. -/
inductive Topped (bindings : Bindings) :
    (budget : Nat) → (raw : List Sim) → List ReleaseCall → PoolOutcome → Prop
  /-- The budget is used up. -/
  | spent (raw : List Sim) : Topped bindings 0 raw [] .replenished
  /-- No raw stock is left. -/
  | exhausted (budget : Nat) : Topped bindings (budget + 1) [] [] .exhausted
  /-- No service is bound to the vendor of the next SIM. -/
  | unbound (budget : Nat) {sim : Sim} (rest : List Sim)
    (h : bindings.vendors.get? sim.vendorId = none) :
    Topped bindings (budget + 1) (sim :: rest) [] (.failed (.system (.vendorService sim.vendorId)))
  /-- The vendor does not release the next SIM. -/
  | refused (budget : Nat) {sim : Sim} (rest : List Sim) (e : Error)
    (h : (bindings.vendors.get? sim.vendorId).isSome) :
    Topped bindings (budget + 1) (sim :: rest) [⟨sim.vendorId, sim, .error e⟩] (.failed e)
  /-- The vendor releases the next SIM, and the run goes on. -/
  | released {budget : Nat} {sim : Sim} {rest : List Sim} (release : Release)
    {calls : List ReleaseCall} {outcome : PoolOutcome}
    (h : (bindings.vendors.get? sim.vendorId).isSome)
    (hrest : Topped bindings budget rest calls outcome) :
    Topped bindings (budget + 1) (sim :: rest) (⟨sim.vendorId, sim, .ok release⟩ :: calls) outcome

/-- The calls are about the first SIMs of the stock, in order and each once. -/
theorem Topped.sims_isPrefix {bindings : Bindings} {budget : Nat} {raw : List Sim}
    {calls : List ReleaseCall} {outcome : PoolOutcome}
    (h : Topped bindings budget raw calls outcome) : calls.map (·.sim) <+: raw := by
  induction h with
  | spent raw => exact List.nil_prefix
  | exhausted budget => exact List.nil_prefix
  | unbound budget rest h => exact List.nil_prefix
  | refused budget rest e h => exact ⟨rest, rfl⟩
  | released release h hrest ih => exact List.cons_prefix_cons.2 ⟨rfl, ih⟩

theorem Topped.length_le {bindings : Bindings} {budget : Nat} {raw : List Sim}
    {calls : List ReleaseCall} {outcome : PoolOutcome}
    (h : Topped bindings budget raw calls outcome) : calls.length ≤ budget := by
  induction h with
  | released release h hrest ih => exact Nat.succ_le_succ ih
  | _ => simp

/-- What the run over a pool with the SIMs `sims` reports, and the calls it makes. -/
inductive PoolRun (bindings : Bindings) (tuning : Tuning) (pool : Pool) (sims : List Sim) :
    PoolReport → List ReleaseCall → Prop
  /-- Enough SIMs are ready to use. -/
  | above (h : tuning.lowWaterMark ≤ (PoolFigures.ofSims sims).ready) :
    PoolRun bindings tuning pool sims ⟨pool, (PoolFigures.ofSims sims).ready, 0, .aboveLowWater⟩ []
  /-- The pool is topped up. -/
  | topped {calls : List ReleaseCall} {outcome : PoolOutcome}
    (h : (PoolFigures.ofSims sims).ready < tuning.lowWaterMark)
    (htopped : Topped bindings tuning.maxToAllocate (sims.filter fun r => r.isRaw) calls outcome) :
    PoolRun bindings tuning pool sims
      ⟨pool, (PoolFigures.ofSims sims).ready, calls.countP (·.succeeded), outcome⟩ calls

theorem PoolRun.sims_isPrefix {bindings : Bindings} {tuning : Tuning} {pool : Pool}
    {sims : List Sim} {report : PoolReport} {calls : List ReleaseCall}
    (h : PoolRun bindings tuning pool sims report calls) :
    calls.map (·.sim) <+: sims.filter fun r => r.isRaw := by
  cases h with
  | above h => exact List.nil_prefix
  | topped h htopped => exact htopped.sims_isPrefix

theorem PoolRun.sim_mem {bindings : Bindings} {tuning : Tuning} {pool : Pool} {sims : List Sim}
    {report : PoolReport} {calls : List ReleaseCall}
    (h : PoolRun bindings tuning pool sims report calls) {call : ReleaseCall}
    (hcall : call ∈ calls) : call.sim ∈ sims :=
  (List.mem_filter.1 (h.sims_isPrefix.subset (List.mem_map_of_mem hcall))).1

/-- What runs over pools, one after the other, report, and the calls they make. -/
inductive Rounds (bindings : Bindings) (tuning : Tuning) :
    List Pool → Store → List PoolReport → List ReleaseCall → Prop
  /-- There are no pools. -/
  | nil (s : Store) : Rounds bindings tuning [] s [] []
  /-- One pool, and then the others. -/
  | cons {pool : Pool} {pools : List Pool} {s : Store} {report : PoolReport}
    {reports : List PoolReport} {calls later : List ReleaseCall}
    (hpool : PoolRun bindings tuning pool (s.rowsOf pool) report calls)
    (hrest : Rounds bindings tuning pools (s.supplyAll calls) reports later) :
    Rounds bindings tuning (pool :: pools) s (report :: reports) (calls ++ later)

/-- Runs over different pools do not depend on each other: each is as it would be on the store that
the first of them found. -/
theorem Rounds.apart {bindings : Bindings} {tuning : Tuning} {pools : List Pool} {s : Store}
    {reports : List PoolReport} {calls : List ReleaseCall}
    (h : Rounds bindings tuning pools s reports calls) (hnodup : pools.Nodup) :
    ∃ run : Pool → PoolReport × List ReleaseCall,
      reports = pools.map (fun pool => (run pool).1) ∧
        calls = pools.flatMap (fun pool => (run pool).2) ∧
          ∀ pool ∈ pools,
            PoolRun bindings tuning pool (s.rowsOf pool) (run pool).1 (run pool).2 := by
  induction h with
  | nil s => exact ⟨fun pool => (⟨pool, 0, 0, .replenished⟩, []), rfl, rfl, by simp⟩
  | @cons pool pools s report reports calls later hpool hrest ih =>
    rw [List.nodup_cons] at hnodup
    obtain ⟨run, rfl, rfl, hruns⟩ := ih hnodup.2
    have hne : ∀ other ∈ pools, other ≠ pool := fun _ hother heq => hnodup.1 (heq ▸ hother)
    refine ⟨Function.update run pool (report, calls), ?_, ?_, fun other hother => ?_⟩
    · rw [List.map_cons, Function.update_self]
      refine congrArg _ (List.map_congr_left fun other hother => ?_)
      rw [Function.update_of_ne (hne other hother)]
    · rw [List.flatMap_cons, Function.update_self]
      refine congrArg _ (List.flatMap_congr fun other hother => ?_)
      rw [Function.update_of_ne (hne other hother)]
    · rcases List.mem_cons.1 hother with rfl | hother
      · rw [Function.update_self]
        exact hpool
      · -- The run over the first pool leaves the SIMs of the others as they are.
        have hrun := hruns other hother
        rw [Store.rowsOf_supplyAll_of_ne (fun _ => hpool.sim_mem) (hne other hother)] at hrun
        rw [Function.update_of_ne (hne other hother)]
        exact hrun

theorem Rounds.append {bindings : Bindings} {tuning : Tuning} {early late : List Pool} {s : Store}
    {reports reports' : List PoolReport} {calls calls' : List ReleaseCall}
    (hearly : Rounds bindings tuning early s reports calls)
    (hlate : Rounds bindings tuning late (s.supplyAll calls) reports' calls') :
    Rounds bindings tuning (early ++ late) s (reports ++ reports') (calls ++ calls') := by
  induction hearly with
  | nil s => simpa using hlate
  | cons hpool hrest ih =>
    rw [Store.supplyAll_append] at hlate
    rw [List.append_assoc]
    exact .cons hpool (ih hlate)

/-! ## What is requested -/

variable {bindings : Bindings} {tuning : Tuning} {h : Chronicle ι}

/-- Recording what a vendor handed out for a raw SIM. -/
theorem alone_record {s : Store} {sim : Sim} (hsim : sim ∈ s.sims.rows) (hraw : sim.isRaw)
    (vendor : VendorId) (release : Release) :
    Action.Alone (fun res st s' => res = .ok .released ∧ st = .outside ∧
        s' = s.supplyAll [⟨vendor, sim, .ok release⟩])
      (record sim.id release) .outside s := by
  have hadmits : SimChange.admits sim.toSimData (.release release.matchingId) := hraw
  have hsupplied := Store.supplyAll_release hsim hraw vendor release
  refine alone_bind (alone_attempt
    ((Stock.alone_update_stored hsim (.release release.matchingId)).mono ?_))
  rintro res _ s' ⟨rfl, ⟨-, rfl, rfl⟩ | ⟨hnot, -⟩⟩
  · dsimp only
    cases heid : release.eid with
    | none =>
      rw [heid] at hsupplied
      exact alone_pure ⟨rfl, rfl, hsupplied⟩
    | some eid =>
      rw [heid] at hsupplied
      dsimp only at hsupplied
      have hchanged := Store.change_mem_changeSim hsim hadmits
      refine alone_bind (alone_attempt
        ((Stock.alone_update_stored hchanged (.setEid eid)).mono ?_))
      -- Whether the chip is recorded or another one was known, the release is done.
      rintro res _ s'' ⟨rfl, ⟨-, rfl, rfl⟩ | ⟨hknown, rfl, rfl⟩⟩
      · exact alone_pure ⟨rfl, rfl, hsupplied⟩
      · have hsame := Store.changeSim_of_not_admits hchanged hknown
        rw [Sim.id_change] at hsame
        rw [hsame] at hsupplied
        exact alone_pure ⟨rfl, rfl, hsupplied⟩
  · rw [hadmits] at hnot
    cases hnot

/-- How one step of a run over a pool with the raw stock `raw` ends, and the calls it makes. -/
inductive Step (bindings : Bindings) :
    List Sim → Except Error ReleaseStep → List ReleaseCall → Prop
  /-- No raw stock is left. -/
  | exhausted : Step bindings [] (.ok .exhausted) []
  /-- No service is bound to the vendor of the next SIM. -/
  | unbound {sim : Sim} (rest : List Sim) (h : bindings.vendors.get? sim.vendorId = none) :
    Step bindings (sim :: rest) (.error (.system (.vendorService sim.vendorId))) []
  /-- The vendor does not release the next SIM. -/
  | refused {sim : Sim} (rest : List Sim) (e : Error)
    (h : (bindings.vendors.get? sim.vendorId).isSome) :
    Step bindings (sim :: rest) (.error e) [⟨sim.vendorId, sim, .error e⟩]
  /-- The vendor releases the next SIM. -/
  | released {sim : Sim} (rest : List Sim) (release : Release)
    (h : (bindings.vendors.get? sim.vendorId).isSome) :
    Step bindings (sim :: rest) (.ok .released) [⟨sim.vendorId, sim, .ok release⟩]

/-- One step of a run over a pool. -/
theorem undisturbed_releaseNext {pool : Pool} :
    Action.Undisturbed i (fun res st h' => st = .outside ∧ ∃ calls,
        Step bindings (h.store.rawOf pool) res calls ∧ h.Supplied calls h')
      (releaseNext bindings pool) .outside h := by
  refine undisturbed_bind (Flow.Undisturbed.bind (undisturbed_bind (undisturbed_read ?_)))
  rw [Standing.view_outside, Store.eval_raw]
  cases hstock : h.store.rawOf pool with
  | nil => exact ⟨rfl, [], .exhausted, .of_read h _ _⟩
  | cons sim rest =>
    obtain ⟨hmem, -, hraw⟩ := Store.mem_rawOf.1 (hstock ▸ List.mem_cons_self .. :
      sim ∈ h.store.rawOf pool)
    refine undisturbed_bind (undisturbed_expect (fun binding hbinding => ?_) fun hunbound =>
      ⟨rfl, [], .unbound rest hunbound, .of_read h _ _⟩)
    have hbound : (bindings.vendors.get? sim.vendorId).isSome := by rw [hbinding]; rfl
    refine undisturbed_bind (undisturbed_release fun res => ?_)
    cases res with
    | error e =>
      refine ⟨rfl, _, .refused rest e hbound, (Chronicle.Supplied.of_read h _ _).trans
        (Chronicle.Supplied.of_note (.refl _) ?_)⟩
      rw [Store.supplyAll_error]
      rfl
    | ok release =>
      refine undisturbed_alone (asks_record fun _ hr => hr)
        (alone_record hmem hraw sim.vendorId release) ?_
      rintro _ _ h₂ ⟨rfl, rfl, hstore⟩ hasked
      exact ⟨rfl, _, .released rest release hbound, (Chronicle.Supplied.of_read h _ _).trans
        (Chronicle.Supplied.of_note hasked hstore)⟩

/-- A run over a pool that tops it up. -/
theorem undisturbed_topUp {report : PoolReport} {budget : Nat}
    (hfine : report.outcome = .replenished) :
    (topUp bindings report budget).Undisturbed i (fun report' st h' => st = .outside ∧
        ∃ calls outcome, Topped bindings budget (h.store.rawOf report.pool) calls outcome ∧
          report' = { report with
            released := report.released + calls.countP (·.succeeded)
            outcome } ∧ h.Supplied calls h') .outside h := by
  induction budget generalizing report h with
  | zero => exact ⟨rfl, [], .replenished, .spent _, by rw [← hfine]; rfl, .refl h⟩
  | succ budget ih =>
    refine Flow.Undisturbed.bind (Flow.Undisturbed.mono undisturbed_releaseNext ?_)
    rintro res _ h₁ ⟨rfl, calls, hstep, hsupplied⟩
    -- A step that releases a SIM leaves the rest of the stock to the next one.
    generalize hstock : h.store.rawOf report.pool = raw at hstep
    cases hstep with
    | exhausted => exact ⟨rfl, [], .exhausted, .exhausted budget, rfl, hsupplied⟩
    | unbound rest hunbound => exact ⟨rfl, [], _, .unbound budget rest hunbound, rfl, hsupplied⟩
    | refused rest e hbound => exact ⟨rfl, _, _, .refused budget rest e hbound, rfl, hsupplied⟩
    | @released sim rest release hbound =>
      have hgoes : ({ report with released := report.released + 1 } : PoolReport).outcome =
          .replenished := hfine
      refine (ih hgoes).mono ?_
      rintro _ _ h₂ ⟨rfl, later, outcome, htopped, rfl, hsupplied₂⟩
      rw [hsupplied.store, Store.rawOf_supplyAll_head hstock] at htopped
      refine ⟨rfl, _, outcome, .released release hbound htopped, ?_, hsupplied.trans hsupplied₂⟩
      have hcount : (⟨sim.vendorId, sim, .ok release⟩ : ReleaseCall).succeeded = true := rfl
      rw [List.countP_cons_of_pos hcount]
      simp only [Nat.add_assoc, Nat.add_comm 1]

/-- The run over a pool. -/
theorem undisturbed_pool {pool : Pool} :
    (Reconcile.pool bindings tuning pool).Undisturbed i (fun report st h' => st = .outside ∧
        ∃ calls, PoolRun bindings tuning pool (h.store.rowsOf pool) report calls ∧
          h.Supplied calls h') .outside h := by
  refine Flow.Undisturbed.bind (undisturbed_bind (undisturbed_read (undisturbed_pure ?_)))
  rw [Standing.view_outside, eval_poolGroups]
  have hsupplied := Chronicle.Supplied.of_read h (.poolGroups pool)
    (i := i) (.ok (Query.eval h.store (.poolGroups pool)))
  dsimp only
  by_cases habove : tuning.lowWaterMark ≤ (h.store.figures pool).ready
  · rw [if_pos habove]
    exact ⟨rfl, [], .above habove, hsupplied⟩
  · rw [if_neg habove]
    refine (undisturbed_topUp rfl).mono ?_
    rintro _ _ h₁ ⟨rfl, calls, outcome, htopped, rfl, hsupplied₁⟩
    refine ⟨rfl, calls, ?_, hsupplied.trans hsupplied₁⟩
    rw [Nat.zero_add]
    exact .topped (Nat.lt_of_not_le habove) htopped

/-- The runs over the pools of a registry with these profile types. -/
theorem undisturbed_poolsOf {registry : RegistryId} {profiles : List String} :
    (poolsOf bindings tuning registry profiles).Undisturbed i (fun reports st h' => st = .outside ∧
        ∃ calls, Rounds bindings tuning (profiles.map fun profile => ⟨registry, profile⟩) h.store
          reports calls ∧ h.Supplied calls h') .outside h := by
  induction profiles generalizing h with
  | nil => exact ⟨rfl, [], .nil _, .refl h⟩
  | cons profile rest ih =>
    refine Flow.Undisturbed.bind (Flow.Undisturbed.mono undisturbed_pool ?_)
    rintro report _ h₁ ⟨rfl, calls, hpool, hsupplied⟩
    refine Flow.Undisturbed.bind (Flow.Undisturbed.mono ih ?_)
    rintro reports _ h₂ ⟨rfl, later, hrounds, hsupplied₂⟩
    rw [hsupplied.store] at hrounds
    exact ⟨rfl, _, .cons hpool hrounds, hsupplied.trans hsupplied₂⟩

/-- The runs over the pools of registries. -/
theorem undisturbed_registries {entries : List Entry} :
    Action.Undisturbed i (fun res st h' => st = .outside ∧ ∃ reports calls, res = .ok reports ∧
        Rounds bindings tuning (entries.flatMap fun entry => h.store.poolsOf entry.id) h.store
          reports calls ∧ h.Supplied calls h')
      (registries bindings tuning entries) .outside h := by
  induction entries generalizing h with
  | nil => exact ⟨rfl, [], [], rfl, .nil _, .refl h⟩
  | cons entry rest ih =>
    refine undisturbed_bind (undisturbed_read ?_)
    rw [Standing.view_outside]
    refine undisturbed_bind (Flow.Undisturbed.bind (Flow.Undisturbed.mono undisturbed_poolsOf ?_))
    rintro early _ h₁ ⟨rfl, calls, hearly, hsupplied⟩
    refine undisturbed_bind (Flow.Undisturbed.mono ih ?_)
    rintro _ _ h₂ ⟨rfl, late, later, rfl, hlate, hsupplied₂⟩
    have hstore : h₁.store = h.store.supplyAll calls := hsupplied.store
    simp only [hstore, Store.poolsOf_supplyAll] at hlate
    exact ⟨rfl, early ++ late, calls ++ later, rfl, hearly.append hlate,
      ((Chronicle.Supplied.of_read h _ _).trans hsupplied).trans hsupplied₂⟩

/-- What comes of a pass that nobody disturbs: it succeeds, its reports and calls are those of the
runs over all pools, and what it makes of the store is what its calls make of it. -/
theorem undisturbed_pass :
    Action.Undisturbed i (fun res st h' => st = .outside ∧ ∃ reports calls, res = .ok ⟨reports⟩ ∧
        Rounds bindings tuning h.store.pools h.store reports calls ∧ h.Supplied calls h')
      (pass bindings tuning) .outside h := by
  refine undisturbed_bind (undisturbed_read ?_)
  rw [Standing.view_outside]
  refine undisturbed_bind (Flow.Undisturbed.mono undisturbed_registries ?_)
  rintro _ _ h₁ ⟨rfl, reports, calls, rfl, hrounds, hsupplied⟩
  exact ⟨rfl, reports, calls, rfl, hrounds, (Chronicle.Supplied.of_read h _ _).trans hsupplied⟩

end Reconcile

end SimDepot
