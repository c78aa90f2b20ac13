import SimDepot.Proofs.Handout.Allocation

/-!
# What an activation leaves behind

An activation looks at its SIM and at the services that are bound before it writes anything or calls
anybody, and the first condition that does not hold is the one that it reports. Then the number is
stored, unless it is stored already, the registry is called, and the answer is recorded.

`Obstacle` and `Activatable` say on the store and the bindings alone what can be in the way and when
nothing is; for every activation it is one or the other. `Handout.activation_ends` says what comes
of it. An activation that succeeded finds the SIM as it left it when it is made again, so it changes
nothing.
-/

namespace SimDepot

open SimDepot.Action

namespace Handout

variable {ι : Type} {i : ι} {h : Chronicle ι} {s : Store} {bindings : Bindings}
  {registry : RegistryId} {iccid msisdn : String} {given : Option String} {r : Sim} {e : Error}

/-! ## What an activation needs -/

/-- An activation with the number `given`, of a SIM whose number is `stored`, is made with the
number `msisdn`. -/
inductive NumberFor (given stored : Option String) (msisdn : String) : Prop
  /-- It is given, and it is not blank. -/
  | given (hgiven : given = some msisdn) (hblank : Text.isBlank msisdn = false)
  /-- It is stored, and what is given, if anything, is blank. -/
  | stored (hgiven : ∀ m, given = some m → Text.isBlank m) (hstored : stored = some msisdn)

theorem effectiveMsisdn?_eq_some_iff {stored : Option String} :
    effectiveMsisdn? given stored = some msisdn ↔ NumberFor given stored msisdn := by
  cases given with
  | none =>
    refine ⟨fun h => .stored nofun h, fun h => ?_⟩
    cases h with
    | given hgiven _ => cases hgiven
    | stored _ hstored => exact hstored
  | some m =>
    cases hblank : Text.isBlank m with
    | true =>
      have heff : effectiveMsisdn? (some m) stored = stored := by
        simp [effectiveMsisdn?, Option.filter, hblank]
      rw [heff]
      refine ⟨fun h => .stored (fun _ hm => Option.some.inj hm ▸ hblank) h, fun h => ?_⟩
      cases h with
      | given hgiven hnot =>
        rw [← Option.some.inj hgiven, hblank] at hnot
        cases hnot
      | stored _ hstored => exact hstored
    | false =>
      have heff : effectiveMsisdn? (some m) stored = some m := by
        simp [effectiveMsisdn?, Option.filter, hblank]
      rw [heff]
      refine ⟨fun h => .given h (Option.some.inj h ▸ hblank), fun h => ?_⟩
      cases h with
      | given hgiven _ => exact hgiven
      | stored hgiven _ =>
        rw [hgiven m rfl] at hblank
        cases hblank

/-- What is in the way of an activation: the first of its conditions that does not hold, and the
error for it. -/
inductive Obstacle (s : Store) (bindings : Bindings) (registry : RegistryId) (iccid : String)
    (given : Option String) : Error → Prop
  /-- No SIM has the card number. -/
  | unknown (hnone : ∀ r ∈ s.sims.rows, r.iccid ≠ iccid) :
    Obstacle s bindings registry iccid given (.notFound (.simWithIccid iccid))
  /-- The SIM is not one of the registry. -/
  | foreign {r : Sim} (hr : r ∈ s.sims.rows) (hiccid : r.iccid = iccid)
      (hregistry : r.registryId ≠ registry) :
    Obstacle s bindings registry iccid given (.notFound (.simOfRegistry iccid registry))
  /-- Its profile is not released. -/
  | unreleased {r : Sim} (hr : r ∈ s.sims.rows) (hiccid : r.iccid = iccid)
      (hregistry : r.registryId = registry) (hraw : r.vendorState ≠ .released) :
    Obstacle s bindings registry iccid given (.notUpdated (.unreleased iccid))
  /-- It is not claimed. -/
  | unclaimed {r : Sim} (hr : r ∈ s.sims.rows) (hiccid : r.iccid = iccid)
      (hregistry : r.registryId = registry) (hreleased : r.vendorState = .released)
      (hfree : r.provisionState ≠ .provisioned) :
    Obstacle s bindings registry iccid given (.notUpdated (.unallocated iccid))
  /-- There is no number for it. -/
  | numberless {r : Sim} (hr : r ∈ s.sims.rows) (hiccid : r.iccid = iccid)
      (hregistry : r.registryId = registry) (hreleased : r.vendorState = .released)
      (hclaimed : r.provisionState = .provisioned)
      (hnone : ∀ msisdn, ¬ NumberFor given r.msisdn msisdn) :
    Obstacle s bindings registry iccid given (.notUpdated (.numberless iccid))
  /-- The registry is bound to no service. -/
  | unbound {r : Sim} {msisdn : String} (hr : r ∈ s.sims.rows) (hiccid : r.iccid = iccid)
      (hregistry : r.registryId = registry) (hreleased : r.vendorState = .released)
      (hclaimed : r.provisionState = .provisioned) (hnumber : NumberFor given r.msisdn msisdn)
      (hnone : bindings.registries.get? registry = none) :
    Obstacle s bindings registry iccid given (.notFound (.registryService registry))

/-- Nothing is in the way of activating the SIM `r`, which has the card number, with the number
`msisdn`. -/
structure Activatable (s : Store) (bindings : Bindings) (registry : RegistryId) (iccid : String)
    (given : Option String) (r : Sim) (msisdn : String) : Prop where
  /-- It is stored. -/
  mem : r ∈ s.sims.rows
  /-- It has the card number. -/
  iccid_eq : r.iccid = iccid
  /-- It is one of the registry. -/
  registry_eq : r.registryId = registry
  /-- Its profile is released. -/
  released : r.vendorState = .released
  /-- It is claimed. -/
  provisioned : r.provisionState = .provisioned
  /-- This is the number for it. -/
  number : NumberFor given r.msisdn msisdn
  /-- The registry is bound to a service. -/
  bound : ∃ service, bindings.registries.get? registry = some service

theorem obstacle_or_activatable (s : Store) (bindings : Bindings) (registry : RegistryId)
    (iccid : String) (given : Option String) :
    (∃ e, Obstacle s bindings registry iccid given e) ∨
      ∃ r msisdn, Activatable s bindings registry iccid given r msisdn := by
  by_cases hknown : ∃ r ∈ s.sims.rows, r.iccid = iccid
  swap
  · exact .inl ⟨_, .unknown fun r hr hiccid => hknown ⟨r, hr, hiccid⟩⟩
  obtain ⟨r, hr, hiccid⟩ := hknown
  by_cases hregistry : r.registryId = registry
  swap
  · exact .inl ⟨_, .foreign hr hiccid hregistry⟩
  by_cases hreleased : r.vendorState = .released
  swap
  · exact .inl ⟨_, .unreleased hr hiccid hregistry hreleased⟩
  by_cases hclaimed : r.provisionState = .provisioned
  swap
  · exact .inl ⟨_, .unclaimed hr hiccid hregistry hreleased hclaimed⟩
  by_cases hnumber : ∃ msisdn, NumberFor given r.msisdn msisdn
  swap
  · exact .inl ⟨_, .numberless hr hiccid hregistry hreleased hclaimed
      fun msisdn h => hnumber ⟨msisdn, h⟩⟩
  obtain ⟨msisdn, hnumber⟩ := hnumber
  cases hservice : bindings.registries.get? registry with
  | none => exact .inl ⟨_, .unbound hr hiccid hregistry hreleased hclaimed hnumber hservice⟩
  | some service =>
    exact .inr ⟨r, msisdn, hr, hiccid, hregistry, hreleased, hclaimed, hnumber, service, hservice⟩

/-! ## The steps -/

/-- With an obstacle in the way, the activation of the SIM that was found is given up at once. -/
theorem activateFound_of_obstacle (hr : r ∈ s.sims.rows)
    (he : Obstacle s bindings registry r.iccid given e) :
    activateFound bindings registry r.iccid given r = throw e := by
  unfold activateFound
  cases he with
  | unknown hnone => exact absurd rfl (hnone r hr)
  | foreign hr' hiccid hregistry =>
    obtain rfl := Store.eq_of_iccid hr hr' hiccid.symm
    rw [if_pos hregistry]
    rfl
  | unreleased hr' hiccid hregistry hraw =>
    obtain rfl := Store.eq_of_iccid hr hr' hiccid.symm
    rw [if_neg (not_not.2 hregistry), if_pos hraw]
    rfl
  | unclaimed hr' hiccid hregistry hreleased hfree =>
    obtain rfl := Store.eq_of_iccid hr hr' hiccid.symm
    rw [if_neg (not_not.2 hregistry), if_neg (not_not.2 hreleased), if_pos hfree]
    rfl
  | numberless hr' hiccid hregistry hreleased hclaimed hnone =>
    obtain rfl := Store.eq_of_iccid hr hr' hiccid.symm
    have hnumber : effectiveMsisdn? given r.msisdn = none :=
      Option.eq_none_iff_forall_not_mem.2 fun m hm => hnone m (effectiveMsisdn?_eq_some_iff.1 hm)
    rw [if_neg (not_not.2 hregistry), if_neg (not_not.2 hreleased), if_neg (not_not.2 hclaimed),
      hnumber]
    rfl
  | unbound hr' hiccid hregistry hreleased hclaimed hnumber hnone =>
    obtain rfl := Store.eq_of_iccid hr hr' hiccid.symm
    rw [if_neg (not_not.2 hregistry), if_neg (not_not.2 hreleased), if_neg (not_not.2 hclaimed),
      effectiveMsisdn?_eq_some_iff.2 hnumber, requireRegistry, hnone]
    rfl

/-- With nothing in the way, the number is stored, unless it is stored already, and the registry is
told. -/
theorem activateFound_of_activatable
    (ha : Activatable s bindings registry iccid given r msisdn) :
    activateFound bindings registry iccid given r =
      if r.msisdn ≠ some msisdn then
        Stock.setMsisdn r.id msisdn >>= fun _ => tell bindings registry r.iccid msisdn r.id
      else tell bindings registry r.iccid msisdn r.id := by
  obtain ⟨service, hservice⟩ := ha.bound
  unfold activateFound
  rw [if_neg (not_not.2 ha.registry_eq), if_neg (not_not.2 ha.released),
    if_neg (not_not.2 ha.provisioned), effectiveMsisdn?_eq_some_iff.2 ha.number, requireRegistry,
    hservice]
  rfl

/-- With an obstacle in the way, nobody is called and nothing changes. -/
theorem undisturbed_obstacle (he : Obstacle h.store bindings registry iccid given e) :
    Action.Undisturbed i
      (fun res _ h' => res = .error e ∧ h'.calls = h.calls ∧ h'.store = h.store)
      (activate bindings registry iccid given) .outside h := by
  refine undisturbed_bind (Flow.Undisturbed.mono (Stock.undisturbed_withIccid iccid) ?_)
  rintro _ _ h₁ ⟨rfl, hasked, hstore, ⟨r, hr, rfl, rfl⟩ | ⟨hnone, rfl⟩⟩
  · dsimp only
    rw [activateFound_of_obstacle hr he]
    exact undisturbed_throw ⟨rfl, hasked.calls_eq, hstore⟩
  · cases he with
    | unknown => exact ⟨rfl, hasked.calls_eq, hstore⟩
    | foreign hr hiccid | unreleased hr hiccid | unclaimed hr hiccid | numberless hr hiccid
    | unbound hr hiccid => exact absurd hiccid (hnone _ hr)

/-- With nothing in the way, the registry is called once, when the SIM has its number. -/
theorem undisturbed_activatable
    (ha : Activatable h.store bindings registry iccid given r msisdn) :
    Action.Undisturbed i (fun res _ h' => Tells bindings registry msisdn r h res h')
      (activate bindings registry iccid given) .outside h := by
  refine undisturbed_bind (Flow.Undisturbed.mono (Stock.undisturbed_withIccid iccid) ?_)
  rintro _ _ h₁ ⟨rfl, hasked, hstore, ⟨r', hr', hiccid, rfl⟩ | ⟨hnone, -⟩⟩
  swap
  · exact absurd ha.iccid_eq (hnone r ha.mem)
  obtain rfl : r = r' := Store.eq_of_iccid ha.mem hr' (ha.iccid_eq.trans hiccid.symm)
  have hr₁ : r ∈ h₁.store.sims.rows := hstore ▸ hr'
  dsimp only
  rw [activateFound_of_activatable ha]
  refine undisturbed_ite (fun _ => ?_) fun hstored => ?_
  · have hfree : (SimChange.setMsisdn msisdn).admits r.toSimData := rfl
    refine undisturbed_bind (Flow.Undisturbed.mono (Stock.undisturbed_admitted hr₁ hfree) ?_)
    rintro _ _ h₂ ⟨rfl, hasked₂, rfl, hstore₂⟩
    refine undisturbed_tell_numbered ?_ (hasked₂.calls_eq.trans hasked.calls_eq) ha.released
      registry
    rw [hstore₂, hstore]
    exact Store.revised_changeSim hr' hfree
  · -- The SIM is stored with its number already.
    have hsame : r.change (.setMsisdn msisdn) = r := by
      show ({ r with msisdn := some msisdn } : Sim) = r
      rw [← not_not.1 hstored]
    refine undisturbed_tell_numbered ?_ hasked.calls_eq ha.released registry
    rw [hsame, hstore]
    exact .refl hr'

/-! ## The whole -/

theorem declined_of_obstacle {Q : Turn → Prop} {res : Except Error SimDetails} {h : Chronicle Unit}
    (he : Obstacle s bindings registry iccid given e)
    (hcomes : (activate bindings registry iccid given).run.ComesWith Q s res h) :
    Declined s e res h := by
  obtain ⟨-, hres, hcalls, hstore⟩ :=
    Flow.post_of_comesWith (undisturbed_obstacle (h := .start s) he) hcomes
  exact ⟨hres, hcalls, hstore⟩

/-- The registry answers as it does, and what it answers is recorded. -/
theorem tells_of_activatable {answer : Except Error Unit} {res : Except Error SimDetails}
    {h : Chronicle Unit} (ha : Activatable s bindings registry iccid given r msisdn)
    (hcomes : (activate bindings registry iccid given).run.ComesWith (Turn.ActivatesWith answer)
      s res h) :
    h.calls = [⟨.activate registry iccid msisdn, answer⟩] ∧
      match answer with
      | .error e => res = .error e ∧ s.Revised r { r with msisdn := some msisdn } h.store
      | .ok _ => ∃ active : Sim,
        active = { r with
          registryState := .activated
          suspendedAt := none
          msisdn := some msisdn } ∧
        res = .ok (.describe bindings active) ∧ s.Revised r active h.store := by
  obtain ⟨-, said, hcalls, htold⟩ :=
    Flow.post_of_comesWith (undisturbed_activatable (h := .start s) ha) hcomes
  have hcall : ⟨.activate registry r.iccid msisdn, said⟩ ∈ h.calls := by
    rw [hcalls]
    exact List.mem_singleton.2 rfl
  obtain rfl : said = answer := hcomes.of_mem_calls hcall
  rw [ha.iccid_eq] at hcalls
  refine ⟨hcalls, ?_⟩
  cases said with
  | error e => exact htold
  | ok a => exact htold

/-- A SIM that was activated can be activated again, with the same number. -/
theorem Activatable.again {active : Sim}
    (ha : Activatable s bindings registry iccid given r msisdn)
    (hactive : active = { r with
      registryState := .activated
      suspendedAt := none
      msisdn := some msisdn })
    {s' : Store} (hrevised : s.Revised r active s') :
    Activatable s' bindings registry iccid given active msisdn where
  mem := hrevised.mem_after
  iccid_eq := hactive ▸ ha.iccid_eq
  registry_eq := hactive ▸ ha.registry_eq
  released := hactive ▸ ha.released
  provisioned := hactive ▸ ha.provisioned
  number := by
    rw [hactive]
    cases ha.number with
    | given hgiven hblank => exact .given hgiven hblank
    | stored hgiven _ => exact .stored hgiven rfl
  bound := ha.bound

/-- An activation when nobody else is at work and the store does not fail, on any store. The
registry may answer its call with success or with any error. The activation succeeds exactly when
there is a SIM with the card number that it can be made for, and the registry accepts. If something
is in the way, the error is that of the first condition that does not hold, nobody is called and
nothing changes. Otherwise the registry is called once, with the number for the SIM. If it refuses,
this is the error, and the SIM has the number; if it accepts, the SIM is active as well, is
suspended no longer, and is the result. Nothing else has changed, and the same activation with the
same answer changes nothing any more. -/
theorem activation_ends (s : Store) (bindings : Bindings) (registry : RegistryId) (iccid : String)
    (given : Option String) (answer : Except Error Unit) :
    (∃ res h, (activate bindings registry iccid given).run.ComesWith (Turn.ActivatesWith answer)
      s res h) ∧
    ∀ res h, (activate bindings registry iccid given).run.ComesWith (Turn.ActivatesWith answer)
        s res h →
      ((∃ d, res = .ok d) ↔
        (∃ r msisdn, Activatable s bindings registry iccid given r msisdn) ∧ answer = .ok ()) ∧
      (∀ e, Obstacle s bindings registry iccid given e → Declined s e res h) ∧
      ((∃ e, Obstacle s bindings registry iccid given e) ∨
        ∃ r msisdn, Activatable s bindings registry iccid given r msisdn) ∧
      ∀ r msisdn, Activatable s bindings registry iccid given r msisdn →
        h.calls = [⟨.activate registry iccid msisdn, answer⟩] ∧
        match answer with
        | .error e => res = .error e ∧ s.Revised r { r with msisdn := some msisdn } h.store
        | .ok _ => ∃ active : Sim,
          active = { r with
            registryState := .activated
            suspendedAt := none
            msisdn := some msisdn } ∧
          res = .ok (.describe bindings active) ∧ s.Revised r active h.store ∧
          ∀ res' h', (activate bindings registry iccid given).run.ComesWith
              (Turn.ActivatesWith answer) h.store res' h' →
            res' = res ∧ h'.store = h.store := by
  refine ⟨Flow.exists_comesWith (exists_serve_activating answer) _ s, fun res h hcomes =>
    ⟨⟨?_, ?_⟩, fun e he => declined_of_obstacle he hcomes,
      obstacle_or_activatable s bindings registry iccid given, fun r msisdn ha => ?_⟩⟩
  · rintro ⟨d, rfl⟩
    rcases obstacle_or_activatable s bindings registry iccid given with ⟨e, he⟩ | ⟨r, msisdn, ha⟩
    · cases (declined_of_obstacle he hcomes).error
    · refine ⟨⟨r, msisdn, ha⟩, ?_⟩
      obtain ⟨-, htold⟩ := tells_of_activatable ha hcomes
      cases answer with
      | error e => cases htold.1
      | ok a => rfl
  · rintro ⟨⟨r, msisdn, ha⟩, rfl⟩
    obtain ⟨-, active, -, hres, -⟩ := tells_of_activatable ha hcomes
    exact ⟨_, hres⟩
  · obtain ⟨hcalls, htold⟩ := tells_of_activatable ha hcomes
    refine ⟨hcalls, ?_⟩
    cases answer with
    | error e => exact htold
    | ok a =>
      obtain ⟨active, hactive, hres, hrevised⟩ := htold
      refine ⟨active, hactive, hres, hrevised, fun res' h' hcomes' => ?_⟩
      obtain ⟨-, active', hactive', hres', hrevised'⟩ :=
        tells_of_activatable (ha.again hactive hrevised) hcomes'
      obtain rfl : active' = active := by rw [hactive', hactive]
      exact ⟨hres'.trans hres.symm, hrevised'.eq_of_self⟩

/-! ### A SIM that lapsed -/

/-- The SIM is claimed and has a number, and it was suspended. -/
def lapsedCard : Sim :=
  { readyCard with
    provisionState := .provisioned
    msisdn := some "4790"
    suspendedAt := some .epoch }

/-- The depot with this SIM only. -/
def oneLapsed : Store :=
  { oneReady with
    sims := ⟨[lapsedCard], 1, by simp, by simp, by simp [Row.id, lapsedCard, readyCard]⟩ }

/-- The SIM is activated with another number, and once more, which changes nothing. -/
theorem activation_ends_of_lapsed : ∃ res h,
    (activate firstServices 1 "8947" (some "4791")).run.ComesWith (Turn.ActivatesWith (.ok ()))
        oneLapsed res h ∧
      h.calls = [⟨.activate 1 "8947" "4791", .ok ()⟩] ∧
      oneLapsed.Revised lapsedCard
        { lapsedCard with
          registryState := .activated
          suspendedAt := none
          msisdn := some "4791" } h.store ∧
      ∃ h', (activate firstServices 1 "8947" (some "4791")).run.ComesWith
        (Turn.ActivatesWith (.ok ())) h.store res h' ∧ h'.store = h.store := by
  obtain ⟨⟨res, h, hcomes⟩, hall⟩ :=
    activation_ends oneLapsed firstServices 1 "8947" (some "4791") (.ok ())
  have hactivatable :
      Activatable oneLapsed firstServices 1 "8947" (some "4791") lapsedCard "4791" :=
    ⟨List.mem_singleton.2 rfl, rfl, rfl, rfl, rfl, .given rfl (by decide), _, rfl⟩
  obtain ⟨hcalls, active, rfl, -, hrevised, hagain⟩ :=
    (hall res h hcomes).2.2.2 lapsedCard "4791" hactivatable
  obtain ⟨⟨res', h', hcomes'⟩, -⟩ :=
    activation_ends h.store firstServices 1 "8947" (some "4791") (.ok ())
  obtain ⟨rfl, hstore⟩ := hagain res' h' hcomes'
  exact ⟨res', h, hcomes, hcalls, hrevised, h', hcomes', hstore⟩

end Handout

end SimDepot
