import SimDepot.Proofs.Handout.Meanwhile
import SimDepot.Proofs.Handout.Retry
import SimDepot.Proofs.Stock.Undisturbed
import SimDepot.Proofs.Store.Revision

/-!
# What an allocation leaves behind

An allocation claims a SIM, assigns the number, calls the registry and records that the SIM is
active, one after the other and outside of a transaction. So what lasts depends on how far it comes.
`Handout.allocation_ends` says it for an allocation that has the store to itself: what is refused
before the claim leaves the store as it was and calls nobody; a registry that refuses leaves the SIM
claimed and with its number; and at the end one SIM is changed and nothing else.

The call and its record are `undisturbed_tell`; before them stand the number, in
`undisturbed_confirm`, and the claim, in `undisturbed_claim_confirm`.
-/

namespace SimDepot

open SimDepot.Action

/-- Whatever else is requested, calls that activate are answered so. -/
def Turn.ActivatesWith (answer : Except Error Unit) : Turn → Prop
  | ⟨.activate .., a⟩ => a = answer
  | _ => True

/-- Calls are answered as everything is that was requested. -/
theorem Flow.ComesWith.of_mem_calls {α : Type} {Q : Turn → Prop} {x : Flow α} {s : Store} {a : α}
    {h : Chronicle Unit} (hcomes : x.ComesWith Q s a h) {turn : Turn} (hturn : turn ∈ h.calls) :
    Q turn := by
  obtain ⟨_, _, _, _, _, rfl, hanswers⟩ := hcomes
  obtain ⟨d, hd, hcall⟩ := List.mem_filterMap.1 hturn
  obtain ⟨-, hsame⟩ := Option.ite_none_right_eq_some.1 hcall
  exact Option.some.inj hsame ▸ hanswers d hd

/-- A registry may answer as it likes. -/
theorem exists_serve_activating (answer : Except Error Unit) (r : Request) (st : Standing)
    (s : Store) : ∃ cue a st' s', cue.isFault = false ∧ serve r cue st s = some (a, st', s') ∧
      Turn.ActivatesWith answer ⟨r, a⟩ := by
  cases r with
  | activate registry iccid msisdn => exact ⟨.call answer, answer, st, s, rfl, rfl, rfl⟩
  | _ =>
    obtain ⟨cue, a, st', s', hcue, hserve⟩ := exists_serve _ st s
    exact ⟨cue, a, st', s', hcue, hserve, trivial⟩

namespace Handout

variable {ι : Type} {i : ι} {h : Chronicle ι} {bindings : Bindings} {pool : Pool}

/-- The operation was refused before it called anybody or changed anything. -/
structure Declined {α : Type} (s : Store) (e : Error) (res : Except Error α) (h : Chronicle ι) :
    Prop where
  /-- This is the error. -/
  error : res = .error e
  /-- No service was called. -/
  calls : h.calls = []
  /-- The store is as it was. -/
  store : h.store = s

/-! ## The steps -/

/-- A registry is told once that a released SIM is live, and if it accepts, the SIM is active. -/
theorem undisturbed_tell {r : Sim} (hr : r ∈ h.store.sims.rows)
    (hreleased : r.vendorState = .released) (registry : RegistryId) (iccid msisdn : String) :
    Action.Undisturbed i (fun res _ h' => ∃ answer,
        h'.calls = h.calls ++ [⟨.activate registry iccid msisdn, answer⟩] ∧
        match answer with
        | .error e => res = .error e ∧ h'.store = h.store
        | .ok _ => res = .ok (.describe bindings (r.change (.setRegistryState .activated))) ∧
          h.store.Revised r (r.change (.setRegistryState .activated)) h'.store)
      (tell bindings registry iccid msisdn r.id) .outside h := by
  have hadmits : (SimChange.setRegistryState .activated).admits r.toSimData := by
    simp [SimChange.admits, hreleased]
  refine undisturbed_bind (undisturbed_activate fun answer => ?_)
  have hcalls : (h.note i ⟨.activate registry iccid msisdn, answer⟩ h.store).calls =
      h.calls ++ [⟨.activate registry iccid msisdn, answer⟩] := h.calls_note h.store rfl
  cases answer with
  | error e => exact ⟨.error e, hcalls, rfl, rfl⟩
  | ok a =>
    refine undisturbed_bind (Flow.Undisturbed.mono
      (Stock.undisturbed_admitted (h := h.note i _ h.store) hr hadmits) ?_)
    rintro _ _ h' ⟨rfl, hasked, rfl, hstore⟩
    exact undisturbed_pure ⟨.ok a, hasked.calls_eq.trans hcalls, rfl,
      hstore ▸ Store.revised_changeSim hr hadmits⟩

/-- From `h` to `h'` a registry was told once of the SIM `r`, which got the number `msisdn`. If it
refused, this is the error; if it accepted, the SIM is active as well. -/
def Tells (bindings : Bindings) (registry : RegistryId) (msisdn : String) (r : Sim)
    (h : Chronicle ι) (res : Except Error SimDetails) (h' : Chronicle ι) : Prop :=
  ∃ answer, h'.calls = h.calls ++ [⟨.activate registry r.iccid msisdn, answer⟩] ∧
    match answer with
    | .error e => res = .error e ∧ h.store.Revised r (r.change (.setMsisdn msisdn)) h'.store
    | .ok _ => ∃ active,
      active = (r.change (.setMsisdn msisdn)).change (.setRegistryState .activated) ∧
      res = .ok (.describe bindings active) ∧ h.store.Revised r active h'.store

/-- The SIM has its number before the registry is called, so a registry that refuses leaves it with
the number. -/
theorem undisturbed_tell_numbered {h₁ : Chronicle ι} {r : Sim} {msisdn : String}
    (hnumbered : h.store.Revised r (r.change (.setMsisdn msisdn)) h₁.store)
    (hcalls : h₁.calls = h.calls) (hreleased : r.vendorState = .released) (registry : RegistryId) :
    Action.Undisturbed i (fun res _ h' => Tells bindings registry msisdn r h res h')
      (tell bindings registry r.iccid msisdn r.id) .outside h₁ := by
  refine Flow.Undisturbed.mono
    (undisturbed_tell hnumbered.mem_after hreleased registry r.iccid msisdn) ?_
  rintro res _ h₂ ⟨answer, htoldCalls, htold⟩
  refine ⟨answer, htoldCalls.trans (by rw [hcalls]), ?_⟩
  cases answer with
  | error e =>
    obtain ⟨rfl, hstore⟩ := htold
    exact ⟨rfl, hstore ▸ hnumbered⟩
  | ok a => exact ⟨_, rfl, htold.1, hnumbered.trans htold.2⟩

/-- A SIM that was just claimed gets its number first. -/
theorem undisturbed_confirm {r : Sim} (hr : r ∈ h.store.sims.rows)
    (hreleased : r.vendorState = .released) (msisdn : String) :
    Action.Undisturbed i (fun res _ h' => Tells bindings pool.registry msisdn r h res h')
      (confirm bindings pool msisdn r) .outside h := by
  have hfree : (SimChange.setMsisdn msisdn).admits r.toSimData := rfl
  refine undisturbed_bind (Flow.Undisturbed.mono (Stock.undisturbed_admitted hr hfree) ?_)
  rintro _ _ h₁ ⟨rfl, hasked, rfl, hstore⟩
  exact undisturbed_tell_numbered (hstore ▸ Store.revised_changeSim hr hfree) hasked.calls_eq
    hreleased pool.registry

/-- An allocation from its claim on. -/
theorem undisturbed_claim_confirm (msisdn : String) :
    Action.Undisturbed i (fun res _ h' =>
        ((∀ r ∈ h.store.sims.rows, r.pool = pool → r.isReady = false) ∧
          res = .error (.notFound (.readySim pool)) ∧ h'.calls = h.calls ∧ h'.store = h.store) ∨
        ∃ c, Stock.FirstReady pool h.store c ∧ ∃ answer,
          h'.calls = h.calls ++ [⟨.activate pool.registry c.iccid msisdn, answer⟩] ∧
          match answer with
          | .error e => res = .error e ∧
            h.store.Revised c ((c.change .claim).change (.setMsisdn msisdn)) h'.store
          | .ok _ => ∃ active, active = ((c.change .claim).change (.setMsisdn msisdn)).change
              (.setRegistryState .activated) ∧
            res = .ok (.describe bindings active) ∧ h.store.Revised c active h'.store)
      (Stock.claim pool >>= confirm bindings pool msisdn) .outside h := by
  refine undisturbed_bind (Flow.Undisturbed.mono (Stock.undisturbed_claim pool) ?_)
  rintro _ _ h₁ ⟨rfl, hasked, ⟨c, hfirst, rfl, hstore⟩ | ⟨hnone, rfl, hstore⟩⟩
  · have hclaimed : h.store.Revised c (c.change .claim) h₁.store :=
      hstore ▸ Store.revised_changeSim hfirst.mem hfirst.ready
    have hreleased : (c.change .claim).vendorState = .released := hfirst.released
    refine Flow.Undisturbed.mono (undisturbed_confirm hclaimed.mem_after hreleased msisdn) ?_
    rintro res _ h₂ ⟨answer, hcalls, hconfirmed⟩
    refine .inr ⟨c, hfirst, answer, hcalls.trans (by rw [hasked.calls_eq]; rfl), ?_⟩
    cases answer with
    | error e => exact ⟨hconfirmed.1, hclaimed.trans hconfirmed.2⟩
    | ok a =>
      obtain ⟨active, hactive, hres, hrevised⟩ := hconfirmed
      exact ⟨active, hactive, hres, hclaimed.trans hrevised⟩
  · exact .inl ⟨hnone, rfl, hasked.calls_eq, hstore⟩

/-! ## The whole -/

theorem allocate_of_unbound (hnone : bindings.registries.get? pool.registry = none)
    (msisdn : String) :
    allocate bindings pool msisdn = throw (.notFound (.registryService pool.registry)) := by
  unfold allocate requireRegistry
  rw [hnone]
  rfl

theorem allocate_of_blank {binding : RegistryBinding}
    (hbound : bindings.registries.get? pool.registry = some binding) {msisdn : String}
    (hblank : Text.isBlank msisdn) :
    allocate bindings pool msisdn = throw (.notUpdated .blankNumber) := by
  unfold allocate requireRegistry
  rw [hbound]
  simp only [hblank]
  rfl

theorem allocate_of_bound {binding : RegistryBinding}
    (hbound : bindings.registries.get? pool.registry = some binding) {msisdn : String}
    (hblank : Text.isBlank msisdn = false) :
    allocate bindings pool msisdn = Stock.claim pool >>= confirm bindings pool msisdn := by
  unfold allocate requireRegistry
  rw [hbound]
  simp only [hblank]
  rfl

/-- What throws an error at once was refused. -/
theorem declined_of_throw {α : Type} {Q : Turn → Prop} {s : Store} {e : Error}
    {res : Except Error α} {h : Chronicle Unit}
    (hcomes : (throw e : Action α).run.ComesWith Q s res h) : Declined s e res h := by
  have hthrow : Action.Undisturbed () (fun res _ h => Declined s e res h) (throw e : Action α)
      .outside (.start s) := undisturbed_throw ⟨rfl, rfl, rfl⟩
  obtain ⟨-, hpost⟩ := Flow.post_of_comesWith hthrow hcomes
  exact hpost

/-- A released SIM with a matching id has an activation code if its vendor is bound to a service. -/
theorem describe_of_released {r : Sim} (hreleased : r.vendorState = .released) {matchingId : String}
    (hmatching : r.matchingId = some matchingId) (bindings : Bindings) :
    SimDetails.describe bindings r = ⟨r, (bindings.vendors.get? r.vendorId).map fun v =>
      "LPA:" ++ v.host ++ ":" ++ matchingId⟩ := by
  simp only [SimDetails.describe, SimData.activationCode, hreleased, hmatching]
  cases bindings.vendors.get? r.vendorId <;> rfl

/-- An allocation when nobody else is at work and the store does not fail, on a store in which every
released SIM has its matching id. The registry may answer its call with success or with any error.
Where the registry is not bound to a service, the number is blank or nothing of the pool is ready,
the allocation is refused with the error of the first of these. Otherwise the registry is called
once, with the card number of the first SIM that is ready. If it fails, this is the error, and the
SIM is claimed and has its number; if it accepts, the SIM is active as well, and this SIM is the
result, with the code that the host of its vendor makes. Nothing else has changed. -/
theorem allocation_ends (s : Store)
    (hmatching : ∀ r ∈ s.sims.rows, r.vendorState = .released → r.matchingId.isSome)
    (bindings : Bindings) (pool : Pool) (msisdn : String) (answer : Except Error Unit) :
    (∃ res h, (allocate bindings pool msisdn).run.ComesWith (Turn.ActivatesWith answer) s res h) ∧
    ∀ res h, (allocate bindings pool msisdn).run.ComesWith (Turn.ActivatesWith answer) s res h →
      if (bindings.registries.get? pool.registry).isNone then
        Declined s (.notFound (.registryService pool.registry)) res h
      else if Text.isBlank msisdn then Declined s (.notUpdated .blankNumber) res h
      else if ∀ r ∈ s.sims.rows, r.pool = pool → r.isReady = false then
        Declined s (.notFound (.readySim pool)) res h
      else ∃ c, Stock.FirstReady pool s c ∧
        h.calls = [⟨.activate pool.registry c.iccid msisdn, answer⟩] ∧
        match answer with
        | .error e => res = .error e ∧
          s.Revised c { c with provisionState := .provisioned, msisdn := some msisdn } h.store
        | .ok _ => ∃ active : Sim,
          active = { c with
            provisionState := .provisioned
            registryState := .activated
            msisdn := some msisdn
            suspendedAt := none } ∧
          s.Revised c active h.store ∧ ∃ matchingId, c.matchingId = some matchingId ∧
            res = .ok ⟨active, (bindings.vendors.get? c.vendorId).map fun v =>
              "LPA:" ++ v.host ++ ":" ++ matchingId⟩ := by
  refine ⟨Flow.exists_comesWith (exists_serve_activating answer) _ s, fun res h hcomes => ?_⟩
  cases hbinding : bindings.registries.get? pool.registry with
  | none =>
    rw [allocate_of_unbound hbinding] at hcomes
    exact declined_of_throw hcomes
  | some binding =>
    rw [if_neg (by simp)]
    by_cases hblank : Text.isBlank msisdn
    · rw [if_pos hblank]
      rw [allocate_of_blank hbinding hblank] at hcomes
      exact declined_of_throw hcomes
    rw [if_neg hblank]
    rw [allocate_of_bound hbinding (by simpa using hblank)] at hcomes
    obtain ⟨-, hend⟩ := Flow.post_of_comesWith (undisturbed_claim_confirm msisdn) hcomes
    rcases hend with ⟨hnone, hres, hcalls, hstore⟩ | ⟨c, hfirst, given, hcalls, hend⟩
    · exact (if_pos hnone).symm ▸ ⟨hres, hcalls, hstore⟩
    have hready : ¬ ∀ r ∈ s.sims.rows, r.pool = pool → r.isReady = false := fun hnone =>
      Bool.false_ne_true ((hnone c hfirst.mem hfirst.pool_eq).symm.trans hfirst.ready)
    have hcall : ⟨.activate pool.registry c.iccid msisdn, given⟩ ∈ h.calls := by
      rw [hcalls]
      exact List.mem_singleton.2 rfl
    obtain rfl : given = answer := hcomes.of_mem_calls hcall
    rw [if_neg hready]
    refine ⟨c, hfirst, hcalls, ?_⟩
    cases given with
    | error e => exact hend
    | ok a =>
      obtain ⟨_, rfl, rfl, hrevised⟩ := hend
      obtain ⟨matchingId, hid⟩ :=
        Option.isSome_iff_exists.1 (hmatching c hfirst.mem hfirst.released)
      exact ⟨_, rfl, hrevised, matchingId, hid,
        congrArg _ (describe_of_released (by exact hfirst.released) (by exact hid) bindings)⟩

/-- The only SIM is claimed and gets its number, and its registry is down. -/
theorem allocation_ends_of_outage : ∃ res h,
    (allocate firstServices ⟨1, "P"⟩ "4790").run.ComesWith
        (Turn.ActivatesWith (.error (.service "Registry" (.stated "down")))) oneReady res h ∧
      h.calls = [⟨.activate 1 "8947" "4790", .error (.service "Registry" (.stated "down"))⟩] ∧
      res = .error (.service "Registry" (.stated "down")) ∧
      oneReady.Revised readyCard
        { readyCard with provisionState := .provisioned, msisdn := some "4790" } h.store := by
  obtain ⟨⟨res, h, hcomes⟩, hall⟩ := allocation_ends oneReady (by decide) firstServices ⟨1, "P"⟩
    "4790" (.error (.service "Registry" (.stated "down")))
  have hend := hall res h hcomes
  rw [if_neg (by decide), if_neg (by decide), if_neg (by decide)] at hend
  obtain ⟨c, hfirst, hcalls, hres, hrevised⟩ := hend
  obtain rfl : c = readyCard := by simpa [oneReady] using hfirst.mem
  exact ⟨res, h, hcomes, hcalls, hres, hrevised⟩

end Handout

end SimDepot
