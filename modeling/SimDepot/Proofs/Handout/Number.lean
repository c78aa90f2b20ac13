import SimDepot.Proofs.Handout.Numbering
import SimDepot.Proofs.Lifecycle.Order
import SimDepot.Proofs.Stock.Undisturbed

/-!
# The number that a registry was told, and the number that is stored

An allocation and an activation store the subscriber number before they make the call, and the
number stays whatever the registry answers. So between operations a SIM has the number of the last
call about it. A SIM that is active may be activated again with another number. When the registry
refuses that, it goes on with the number of the last call that it carried out, and the SIM is stored
with the new one and still as active.
-/

namespace SimDepot

open SimDepot.Action

section Sessions

variable {ι : Type} {h : Chronicle ι} {i : ι} {bindings : Bindings}

/-- Only allocations and activations make such calls. -/
theorem Operation.cases_of_calls {o : Operation} {r : Request} (hcalls : o.calls r)
    (hr : r.isActivation) : (∃ pool msisdn, o = .allocate pool msisdn) ∨
      ∃ registry iccid msisdn, o = .activate registry iccid msisdn := by
  unfold calls at hcalls
  split at hcalls
  next pool msisdn _ _ _ => exact .inl ⟨pool, msisdn, rfl⟩
  next registry iccid msisdn _ _ _ => exact .inr ⟨registry, iccid, msisdn, rfl⟩
  all_goals first | cases hr | cases hcalls

/-- An operation that makes no such call and gives no number keeps every SIM as the last call left
it. -/
theorem Operation.undisturbed_quiet {o : Operation}
    (hquiet : ∀ change, o.changes change → change.renumbers = false)
    (hcalls : ∀ r, o.calls r → r.isActivation = false) (hh : h.Numbered none) :
    Action.Undisturbed i (fun _ _ h' => h'.Numbered none) (o.action bindings) .outside h := by
  have hserves : numbersKept.Serves i (fun h' => h.store.NumbersKept h'.store) :=
    ⟨fun _ => trivial, fun _ _ _ => .trans⟩
  have hissues : Issues (numbersKept.Keeps fun _ => True) false (o.action bindings) := by
    refine o.issues_action (fun c hfresh hc => ?_) fun id change hchange => ?_
    · intro s s' a _ _ hexec
      exact ⟨trivial, .exec hfresh (fun id change h => absurd h (hc id change)) hexec⟩
    · intro s s' a _ _ hexec
      refine ⟨trivial, .exec (Command.storesFresh_changeSim id change) (fun _ _ h => ?_) hexec⟩
      cases h
      exact hquiet change hchange
  have hasks : Asks (fun r => r.isActivation = false) (o.action bindings) :=
    o.asks_action (fun _ => Request.isActivation_of_not_isCall) hcalls
  have hkept : Action.Abides i (fun h' => h.store.NumbersKept h'.store) False
      (fun _ _ h' => h.store.NumbersKept h'.store) (fun _ _ h' => h.store.NumbersKept h'.store)
      (o.action bindings) .outside h := hserves.abides_of_issues hissues (.refl h.store)
  refine ((Flow.Abides.undisturbed hkept).asking hasks (.refl h)).mono fun res st h' hres => ?_
  have hstore : h.store.NumbersKept h'.store := by cases res <;> exact hres.1
  exact hh.kept hres.2.activationsOf_eq hstore

/-- An update of a SIM that is stored makes no call. -/
theorem undisturbed_update {r : Sim} (hr : r ∈ h.store.sims.rows) (change : SimChange) :
    Action.Undisturbed i (fun res st h' => st = .outside ∧ h'.activationsOf = h.activationsOf ∧
      Stock.Updated r change h.store res h'.store) (Stock.update r.id change) .outside h :=
  (Stock.undisturbed_update hr change).mono fun _ _ _ ⟨hst, hasked, hres⟩ =>
    ⟨hst, (hasked.mono fun _ => Request.isActivation_of_not_isCall).activationsOf_eq, hres⟩

/-- A claim keeps every SIM as the last call left it, and returns a SIM that is stored. -/
theorem undisturbed_claim (hh : h.Numbered none) (pool : Pool) :
    Action.Undisturbed i (fun res st h' => h'.Numbered none ∧
      ∀ sim, res = .ok sim → st = .outside ∧ sim ∈ h'.store.sims.rows)
      (Stock.claim pool) .outside h := by
  refine (Stock.undisturbed_claim pool).mono fun res st h' ⟨hst, hasked, hres⟩ => ?_
  have hcalls := (hasked.mono fun _ => Request.isActivation_of_not_isCall).activationsOf_eq
  rcases hres with ⟨c, hc, rfl, hstore⟩ | ⟨-, rfl, hstore⟩
  · refine ⟨hh.change hcalls hc.mem hstore (fun _ => rfl) (hh.carriedOut c hc.mem),
      fun sim hsim => ⟨hst, ?_⟩⟩
    cases hsim
    rw [hstore]
    exact Store.change_mem_changeSim hc.mem hc.ready
  · exact ⟨hh.kept hcalls (hstore ▸ .refl _), fun sim hsim => nomatch hsim⟩

/-- A SIM gets its number, and the call is still to be made. -/
theorem undisturbed_assign (hh : h.Numbered none) {r : Sim} (hr : r ∈ h.store.sims.rows)
    (msisdn : String) :
    Action.Undisturbed i (fun res st h' => st = .outside ∧
      res = .ok (r.change (.setMsisdn msisdn)) ∧ h'.Numbered (some r.iccid) ∧
        r.change (.setMsisdn msisdn) ∈ h'.store.sims.rows)
      (Stock.setMsisdn r.id msisdn) .outside h := by
  refine (undisturbed_update hr (.setMsisdn msisdn)).mono fun res st h' ⟨hst, hcalls, hres⟩ => ?_
  rcases hres with ⟨hadmits, rfl, hstore⟩ | ⟨hnot, -, -⟩
  · refine ⟨hst, rfl, hh.change hcalls hr hstore (absurd rfl) (hh.carriedOut r hr), ?_⟩
    rw [hstore]
    exact Store.change_mem_changeSim hr hadmits
  · cases hnot

/-- The call about a SIM that has its number, and the record of its success. -/
theorem undisturbed_confirmed {r : Sim} (hh : h.Numbered (some r.iccid))
    (hr : r ∈ h.store.sims.rows) {msisdn : String} (hmsisdn : r.msisdn = some msisdn)
    (registry : RegistryId) :
    Action.Undisturbed i (fun _ _ h' => h'.Numbered none) (do
      Action.activate registry r.iccid msisdn
      let activated ← Stock.setRegistryState r.id .activated
      return SimDetails.describe bindings activated) .outside h := by
  refine undisturbed_bind (undisturbed_activate fun res => ?_)
  have hcall : (h.note i ⟨.activate registry r.iccid msisdn, res⟩ h.store).Numbered none :=
    hh.call hr hmsisdn
  cases res with
  | error e => exact hcall
  | ok a =>
    have hr₁ : r ∈ (h.note i ⟨.activate registry r.iccid msisdn, .ok a⟩ h.store).store.sims.rows :=
      hr
    refine undisturbed_bind ((undisturbed_update hr₁ (.setRegistryState .activated)).mono
      fun res st h' ⟨_, hcalls, hres⟩ => ?_)
    have hdone : h'.Numbered none := by
      rcases hres with ⟨-, -, hstore⟩ | ⟨-, -, hstore⟩
      · refine hcall.change hcalls hr₁ hstore (fun _ => rfl) fun _ => ?_
        rw [Chronicle.activationsOf_activate]
        exact ⟨_, List.mem_append_right _ (List.mem_singleton.2 rfl), rfl⟩
      · exact hcall.kept hcalls (hstore ▸ .refl _)
    cases res with
    | ok activated => exact undisturbed_pure hdone
    | error e => exact hdone

/-- An allocation leaves every SIM with the number of the last call about it. -/
theorem undisturbed_allocate (hh : h.Numbered none) (pool : Pool) (msisdn : String) :
    Action.Undisturbed i (fun _ _ h' => h'.Numbered none)
      (Handout.allocate bindings pool msisdn) .outside h := by
  rcases Handout.allocate_cases bindings pool msisdn with ⟨e, he⟩ | hclaim
  · rw [he]
    exact undisturbed_throw hh
  · rw [hclaim]
    refine undisturbed_bind ((undisturbed_claim hh pool).mono fun res st h₁ ⟨hh₁, hsim⟩ => ?_)
    cases res with
    | error e => exact hh₁
    | ok claimed =>
      obtain ⟨rfl, hclaimed⟩ := hsim claimed rfl
      refine undisturbed_bind ((undisturbed_assign hh₁ hclaimed msisdn).mono ?_)
      rintro _ st h₂ ⟨rfl, rfl, hh₂, hmem⟩
      exact undisturbed_confirmed (r := claimed.change (.setMsisdn msisdn)) hh₂ hmem rfl
        pool.registry

/-- So does an activation, whatever number is given. -/
theorem undisturbed_activateFound (hh : h.Numbered none) {sim : Sim}
    (hsim : sim ∈ h.store.sims.rows) (registry : RegistryId) (iccid : String)
    (msisdn : Option String) :
    Action.Undisturbed i (fun _ _ h' => h'.Numbered none)
      (Handout.activateFound bindings registry iccid msisdn sim) .outside h := by
  refine undisturbed_ite (fun _ => undisturbed_throw hh) fun _ =>
    undisturbed_ite (fun _ => undisturbed_throw hh) fun _ =>
      undisturbed_ite (fun _ => undisturbed_throw hh) fun _ =>
        undisturbed_bind (undisturbed_expect (fun msisdn _ => ?_) fun _ => hh)
  refine undisturbed_bind (undisturbed_bind (undisturbed_expect (fun _ _ => ?_) fun _ => hh))
  refine undisturbed_ite (fun _ => ?_) fun hstored => ?_
  · refine undisturbed_bind ((undisturbed_assign hh hsim msisdn).mono ?_)
    rintro _ st h₁ ⟨rfl, rfl, hh₁, hmem⟩
    exact undisturbed_confirmed (r := sim.change (.setMsisdn msisdn)) hh₁ hmem rfl registry
  · exact undisturbed_confirmed hh.weaken hsim (Decidable.of_not_not hstored) registry

/-- The SIM is looked up first. -/
theorem undisturbed_reactivate (hh : h.Numbered none) (registry : RegistryId) (iccid : String)
    (msisdn : Option String) :
    Action.Undisturbed i (fun _ _ h' => h'.Numbered none)
      (Handout.activate bindings registry iccid msisdn) .outside h := by
  refine undisturbed_bind (Flow.Undisturbed.mono (Stock.undisturbed_withIccid iccid) ?_)
  rintro _ _ h₁ ⟨rfl, hasked, hstore, hres⟩
  have hsilent := Chronicle.OnlyAsked.mono hasked fun _ => Request.isActivation_of_not_isCall
  have hh₁ : h₁.Numbered none := hh.kept hsilent.activationsOf_eq (hstore ▸ .refl _)
  rcases hres with ⟨r, hr, -, rfl⟩ | ⟨-, rfl⟩
  · exact undisturbed_activateFound hh₁ (hstore ▸ hr) registry iccid msisdn
  · exact hh₁

/-- Every operation of the facade leaves every SIM with the number of the last call about it. -/
theorem undisturbed_facade {o : Operation} (hfacade : o.isFacade) (hh : h.Numbered none) :
    Action.Undisturbed i (fun _ _ h' => h'.Numbered none) (o.action bindings) .outside h := by
  cases o with
  | allocate pool msisdn => exact undisturbed_allocate hh pool msisdn
  | activate registry iccid msisdn => exact undisturbed_reactivate hh registry iccid msisdn
  | addEntry _ _ | ensureEntry _ _ | permit _ _ | importFeed _ _ _ _ | reconcile _ | suspend _
  | inquire _ =>
    refine Operation.undisturbed_quiet (fun change hchange => ?_) (fun r hr => ?_) hh
    · cases change <;> first | rfl | cases hchange
    · cases hact : r.isActivation with
      | false => rfl
      | true => rcases Operation.cases_of_calls hr hact with ⟨_, _, h⟩ | ⟨_, _, _, h⟩ <;> cases h
  | _ => cases hfacade

end Sessions

/-- From empty tables on, operations of the facade one after the other, whatever services answer,
when the store does not fail. A SIM has the subscriber number of the last call about it, be it that
its registry carried the call out or not. For a SIM that is active there was a call that its
registry carried out; the number of the last such call is the one that is stored exactly when the
very last call had the same number. -/
theorem number_of_runInTurn {ι : Type} [DecidableEq ι] (ops : ι → Operation)
    (hfacade : ∀ i, (ops i).isFacade) (bindings : ι → Bindings) {visits : List (Visit ι)}
    (hsmooth : ∀ v ∈ visits, v.isSmooth) {w : World fun i => Except Error (ops i).Value}
    (hrun : (World.start .empty fun i => ((ops i).action (bindings i)).run).runInTurn visits =
      some w)
    {r : Sim} (hr : r ∈ w.store.sims.rows) :
    (∀ last, (w.activationsOf r.iccid).getLast? = some last → r.msisdn = some last.msisdn) ∧
      (r.registryState = .activated →
        ∃ last good, (w.activationsOf r.iccid).getLast? = some last ∧
          ((w.activationsOf r.iccid).filter (·.succeeded)).getLast? = some good ∧
            (r.msisdn = some good.msisdn ↔ last.msisdn = good.msisdn)) := by
  have hnumbered : w.Numbered none :=
    World.runInTurn_induction (fun i h hh => undisturbed_facade (hfacade i) hh)
      Chronicle.Numbered.start hsmooth hrun
  refine ⟨hnumbered.number r hr nofun, fun hactive => ?_⟩
  obtain ⟨a, ha, hsucceeded⟩ := hnumbered.carriedOut r hr hactive
  obtain ⟨last, hlast⟩ : ∃ last, (w.activationsOf r.iccid).getLast? = some last :=
    Option.isSome_iff_exists.1 (List.getLast?_isSome.2 (List.ne_nil_of_mem ha))
  obtain ⟨good, hgood⟩ :
      ∃ good, ((w.activationsOf r.iccid).filter (·.succeeded)).getLast? = some good :=
    Option.isSome_iff_exists.1 (List.getLast?_isSome.2
      (List.ne_nil_of_mem (List.mem_filter.2 ⟨ha, hsucceeded⟩)))
  refine ⟨last, good, hlast, hgood, ?_⟩
  rw [hnumbered.number r hr nofun last hlast, Option.some.injEq]

/-! ### A change of number -/

/-- The first day again, without the suspension; when the SIM is active, somebody wants another
number for it. -/
def renumbering : Nat → Operation
  | 7 => .activate 1 "8947" (some "4791")
  | i => firstDay i

/-- The SIM is imported, released and allocated with success. The registry refuses its new
number. -/
def renumberingVisits : List (Visit Nat) :=
  [⟨0, [.plain, .plain]⟩, ⟨1, [.plain, .plain]⟩, ⟨2, [.plain, .plain, .plain, .plain]⟩,
    ⟨3, [.plain, .plain, .plain, .time .epoch, .plain, .plain, .plain, .plain, .plain, .time .epoch,
      .plain, .plain]⟩,
    ⟨5, [.plain, .plain, .plain, .plain, .release (.ok ⟨"M", none⟩), .plain, .plain]⟩,
    ⟨6, [.plain, .plain, .plain, .plain, .plain, .plain, .plain, .call (.ok ()), .plain, .plain]⟩,
    ⟨7, [.plain, .plain, .plain, .call (.error (.service "Registry" (.stated "down")))]⟩]

/-- The depot when the registry has refused the new number. -/
def renumbered : World fun i => Except Error (renumbering i).Value :=
  ((World.start .empty fun i => ((renumbering i).action firstServices).run).runInTurn
    renumberingVisits).get (by decide +kernel)

/-- The SIM is active, and the number that is stored is not the one its registry serves it under. -/
theorem number_of_refusedChange :
    (World.start .empty fun i => ((renumbering i).action firstServices).run).runInTurn
        renumberingVisits = some renumbered ∧
      ∃ r ∈ renumbered.store.sims.rows, r.registryState = .activated ∧ ∃ good,
        ((renumbered.activationsOf r.iccid).filter (·.succeeded)).getLast? = some good ∧
          r.msisdn ≠ some good.msisdn := by
  have hfacade : ∀ i, (renumbering i).isFacade
    | 0 | 1 | 2 | 3 | 4 | 5 | 6 | 7 | _ + 8 => rfl
  have hrun : (World.start .empty fun i => ((renumbering i).action firstServices).run).runInTurn
      renumberingVisits = some renumbered := (Option.some_get _).symm
  have hrow : ∃ r ∈ renumbered.store.sims.rows, r.registryState = .activated ∧
      renumbered.activationsOf r.iccid = [⟨"8947", "4790", true⟩, ⟨"8947", "4791", false⟩] := by
    decide +kernel
  obtain ⟨r, hr, hactive, hcalls⟩ := hrow
  obtain ⟨-, hnumber⟩ := number_of_runInTurn renumbering hfacade (fun _ => firstServices)
    (by decide) hrun hr
  obtain ⟨last, good, hlast, hgood, hiff⟩ := hnumber hactive
  refine ⟨hrun, r, hr, hactive, good, hgood, fun h => ?_⟩
  have hsame := hiff.1 h
  rw [hcalls] at hlast hgood
  obtain rfl := Option.some.inj hlast
  obtain rfl := Option.some.inj hgood
  exact absurd hsame (by decide)

end SimDepot
