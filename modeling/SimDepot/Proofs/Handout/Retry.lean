import SimDepot.Proofs.Handout.Number
import SimDepot.Proofs.Lifecycle.Eligibility
import SimDepot.Proofs.Queue.Service
import SimDepot.Proofs.Session.Answered

/-!
# Trying again

A SIM whose activation failed is pending, and an operator who activates it again need not say with
which number. That this works rests on what the failed operation left behind: its SIM is released
and stays claimed, and it has a number. A claim and the number are two commands, so the last part
holds between operations only, which is why it is said of operations one after the other.
-/

namespace SimDepot

open SimDepot.Action

/-! ## Numbers of claimed SIMs -/

/-- A SIM that is claimed has a subscriber number. -/
def SimData.Assigned (s : SimData) : Prop := s.provisionState = .provisioned → s.msisdn.isSome

/-- Every SIM that is claimed has a subscriber number. -/
def assigned : Discipline where
  inv s := ∀ r ∈ s.sims.rows, r.Assigned
  rel _ _ := True
  refl _ := trivial
  trans _ _ := trivial

/-- A change that takes nothing back and claims nothing takes no number. -/
theorem SimData.Assigned.apply {s : SimData} (hs : s.Assigned) {change : SimChange}
    (hforward : change.isForward) (hclaim : change.reaches .claimed = false) :
    (change.apply s).Assigned := by
  cases change with
  | setMsisdn msisdn => exact fun _ => rfl
  | setRegistryState state =>
    cases state with
    | activated => exact hs
    | notActivated => cases hforward
  | setEid _ | suspend _ | release _ => exact hs
  | claim => cases hclaim
  | setVendorState _ | setProvisionState _ => cases hforward

theorem keeps_assigned {c : Command} (hfresh : c.StoresFresh)
    (hchange : ∀ id change, c = .changeSim id change →
      change.isForward ∧ change.reaches .claimed = false) :
    assigned.Keeps (fun _ => True) c := by
  refine fun s s' a hs _ hexec => ⟨fun r hr => ?_, trivial⟩
  rcases Command.row_after hexec hr with
    hr | ⟨r₀, hr₀, change, hc, -, rfl⟩ | ⟨drafts, hc, d, hd, hrd⟩
  · exact hs r hr
  · obtain ⟨hforward, hclaim⟩ := hchange r₀.id change hc
    exact (hs r₀ hr₀).apply hforward hclaim
  · rw [hrd]
    exact fun h => absurd ((hfresh drafts hc d hd).provisionState.symm.trans h) nofun

theorem keeps_assigned_changeSim {id : SimId} {change : SimChange} (hforward : change.isForward)
    (hclaim : change.reaches .claimed = false) :
    assigned.Keeps (fun _ => True) (.changeSim id change) := by
  refine keeps_assigned (Command.storesFresh_changeSim id change) fun id' change' h => ?_
  cases h
  exact ⟨hforward, hclaim⟩

section Sessions

variable {ι : Type} {i : ι} {h : Chronicle ι} {bindings : Bindings}

/-- What gives commands of this kind only leaves every claimed SIM with a number. -/
theorem undisturbed_assigned {α : Type} {x : Action α}
    (hx : x.Issues (assigned.Keeps fun _ => True) false) (hh : assigned.inv h.store) :
    Action.Undisturbed i (fun _ _ h' => assigned.inv h'.store) x .outside h := by
  have hholds : assigned.Holds (fun _ => True) .outside h :=
    ⟨Discipline.sound_outside _, ⟨hh, fun _ _ => trivial⟩, trivial⟩
  have houtside : x.run.Issues (assigned.Keeps fun _ => True) Standing.outside.isOpen := hx
  have habides : Flow.Abides i assigned.law False _ x.run .outside h :=
    Discipline.abides_of_issues (fun _ _ _ h => h) houtside hholds
  exact habides.undisturbed.mono fun _ _ _ hend => hend.2.lawful.1

/-- The number comes right after the claim. -/
theorem undisturbed_allocate_assigned (hh : assigned.inv h.store) (pool : Pool) (msisdn : String) :
    Action.Undisturbed i (fun _ _ h' => assigned.inv h'.store)
      (Handout.allocate bindings pool msisdn) .outside h := by
  rcases Handout.allocate_cases bindings pool msisdn with ⟨e, he⟩ | hclaim
  · rw [he]
    exact undisturbed_throw hh
  rw [hclaim]
  refine undisturbed_bind ((Stock.undisturbed_claim pool).mono ?_)
  rintro res st h₁ ⟨rfl, -, ⟨c, hc, rfl, hstore⟩ | ⟨-, rfl, hstore⟩⟩
  · -- Only the SIM that was claimed may lack a number, and it gets one.
    have hclaimed : c.change .claim ∈ h₁.store.sims.rows := by
      rw [hstore]
      exact Store.change_mem_changeSim hc.mem hc.ready
    have hfree : (SimChange.setMsisdn msisdn).admits (c.change .claim).toSimData := rfl
    refine undisturbed_bind ((Stock.undisturbed_admitted hclaimed hfree).mono ?_)
    rintro _ _ h₂ ⟨rfl, -, rfl, hstore₂⟩
    have hassigned : assigned.inv h₂.store := by
      intro r hr
      rw [hstore₂] at hr
      rcases Store.mem_rows_changeSim hclaimed rfl hr with rfl | ⟨hr, hother⟩
      · exact fun _ => rfl
      · rw [hstore] at hr
        rcases Store.mem_rows_changeSim hc.mem rfl hr with rfl | ⟨hr, -⟩
        · split at hother <;> exact absurd rfl hother
        · exact hh r hr
    exact undisturbed_assigned (issues_bind issues_activate fun _ =>
      issues_bind (Stock.issues_update (keeps_assigned_changeSim rfl rfl)) fun _ => issues_pure)
      hassigned
  · exact hstore ▸ hh

/-- Every operation of the facade leaves every claimed SIM with a number. -/
theorem undisturbed_facade_assigned {o : Operation} (hfacade : o.isFacade)
    (hh : assigned.inv h.store) :
    Action.Undisturbed i (fun _ _ h' => assigned.inv h'.store) (o.action bindings) .outside h := by
  by_cases hallocate : ∃ pool msisdn, o = .allocate pool msisdn
  · obtain ⟨pool, msisdn, rfl⟩ := hallocate
    exact undisturbed_allocate_assigned hh pool msisdn
  · exact undisturbed_assigned (issues_facade_other hfacade hallocate bindings
      (fun c hfresh hc => keeps_assigned hfresh fun id change h => absurd h (hc id change))
      fun _ _ => keeps_assigned_changeSim) hh

end Sessions

/-! ## Pending SIMs -/

theorem SimData.provisioned_of_isPending {s : SimData} (h : s.isPending) :
    s.provisionState = .provisioned := by
  simp only [isPending, Bool.and_eq_true, beq_iff_eq] at h
  exact h.1.1

namespace Store

variable {s : Store} {registry : RegistryId}

/-- The SIMs of a registry that are pending, in the order of identities. -/
def pendingOf (s : Store) (registry : RegistryId) : List Sim := Query.eval s (.pendingSims registry)

theorem mem_pendingOf {r : Sim} :
    r ∈ s.pendingOf registry ↔ r ∈ s.sims.rows ∧ r.registryId = registry ∧ r.isPending := by
  simp [pendingOf, Query.eval_pendingSims, Table.select]

theorem pairwise_pendingOf (s : Store) (registry : RegistryId) :
    (s.pendingOf registry).Pairwise fun a b => a.id < b.id := s.sims.sorted.filter _

/-- A SIM that is activated is not pending any more, and all others are as they were. -/
theorem pendingOf_activated {r : Sim} (hr : r ∈ s.sims.rows)
    (hreleased : r.vendorState = .released) :
    (s.changeSim r.id (.setRegistryState .activated)).1.pendingOf registry =
      (s.pendingOf registry).filter (· ≠ r) := by
  have hadmits : (SimChange.setRegistryState .activated).admits r.toSimData := by
    simp [SimChange.admits, hreleased]
  have hdone : (SimChange.apply r.toSimData (.setRegistryState .activated)).isPending = false := by
    simp [SimData.isPending, SimChange.apply]
  rw [pendingOf, pendingOf, Query.eval_pendingSims, Query.eval_pendingSims, Table.select,
    Table.select, rows_changeSim, List.filter_map, List.filter_filter]
  have hkeep : ∀ a ∈ s.sims.rows, a ≠ r → a.id ≠ r.id :=
    fun a ha hne hid => hne (Table.id_inj ha hr hid)
  rw [List.filter_congr (q := fun a => decide (a ≠ r) && (a.registryId == registry && a.isPending))
    fun a ha => ?_]
  · refine (List.map_congr_left fun a ha => ?_).trans (List.map_id' _)
    obtain ⟨ha, hne⟩ := List.mem_filter.1 ha
    simp only [Bool.and_eq_true, decide_eq_true_eq] at hne
    exact if_neg fun h => hkeep a ha hne.1 h.1
  · by_cases hne : a = r
    · subst hne
      simp [hadmits, hdone]
    · simp [hne, hkeep a ha hne]

end Store

/-- Asked for the pending SIMs of a registry, the depot lists these, and nothing changes. -/
def SimDetails.ListsPending (bindings : Bindings) (registry : RegistryId) (s : Store)
    (sims : List Sim) : Prop :=
  (∃ res s', (pending bindings registry).run.ComesTo s res s') ∧
    ∀ res s', (pending bindings registry).run.ComesTo s res s' →
      res = .ok (sims.map (describe bindings)) ∧ s' = s

theorem SimDetails.listsPending (bindings : Bindings) (registry : RegistryId) (s : Store) :
    ListsPending bindings registry s (s.pendingOf registry) := by
  have halone : Action.Alone (fun res _ s' =>
      res = .ok ((s.pendingOf registry).map (describe bindings)) ∧ s' = s)
      (pending bindings registry) .outside s :=
    alone_bind (alone_read ⟨rfl, rfl⟩)
  refine ⟨Flow.exists_comesTo _ _, fun res s' hcomes => ?_⟩
  obtain ⟨-, hpost⟩ := Flow.post_of_comesTo halone hcomes
  exact hpost

/-! ## The retry -/

/-- The request was answered, and if it asked a registry to serve a card, the registry does. -/
def Turn.isAccepted : Turn → Bool
  | ⟨.activate .., .error _⟩ => false
  | _ => true

/-- There is always an answer with which a registry accepts. -/
theorem exists_serve_accepted (r : Request) (st : Standing) (s : Store) :
    ∃ cue a st' s', cue.isFault = false ∧ serve r cue st s = some (a, st', s') ∧
      Turn.isAccepted ⟨r, a⟩ := by
  cases r with
  | activate registry iccid msisdn => exact ⟨.call (.ok ()), .ok (), st, s, rfl, rfl, rfl⟩
  | _ =>
    obtain ⟨cue, a, st', s', hcue, hserve⟩ := exists_serve _ st s
    exact ⟨cue, a, st', s', hcue, hserve, rfl⟩

/-- What services were asked, with their answers. -/
def Chronicle.calls {ι : Type} (h : Chronicle ι) : List Turn :=
  h.past.filterMap fun d => if d.turn.request.isCall then some d.turn else none

theorem Chronicle.calls_note {ι : Type} {i : ι} {h : Chronicle ι} {turn : Turn} (s : Store)
    (hcall : turn.request.isCall) : (h.note i turn s).calls = h.calls ++ [turn] := by
  simp [calls, hcall]

theorem Chronicle.OnlyAsked.calls_eq {ι : Type} {i : ι} {h h' : Chronicle ι}
    (hasked : OnlyAsked i (fun r => r.isCall = false) h h') : h'.calls = h.calls :=
  hasked.filterMap_eq fun d hd => by rw [hd]; rfl

namespace Handout

variable {s : Store} {bindings : Bindings}

/-- What comes of activating a pending SIM that has a number, without saying which. -/
theorem undisturbed_retry {r : Sim} (hr : r ∈ s.sims.rows) (hpending : r.isPending)
    (hreleased : r.vendorState = .released) {msisdn : String} (hmsisdn : r.msisdn = some msisdn)
    (hbound : (bindings.registries.get? r.registryId).isSome) :
    Action.Undisturbed () (fun res _ h => (∀ d ∈ h.past, d.turn.isAccepted) →
        res = .ok (.describe bindings (r.change (.setRegistryState .activated))) ∧
          h.calls = [⟨.activate r.registryId r.iccid msisdn, .ok ()⟩] ∧
          h.store = (s.changeSim r.id (.setRegistryState .activated)).1)
      (activate bindings r.registryId r.iccid none) .outside (.start s) := by
  have hprov := SimData.provisioned_of_isPending hpending
  refine undisturbed_bind (Flow.Undisturbed.mono (Stock.undisturbed_withIccid r.iccid) ?_)
  rintro _ _ h₁ ⟨rfl, hasked₁, hstore₁, ⟨r', hr', hiccid, rfl⟩ | ⟨hnone, -⟩⟩
  swap
  · exact absurd rfl (hnone r hr)
  obtain rfl : r = r' := Store.eq_of_iccid hr hr' hiccid.symm
  refine undisturbed_ite (fun h => absurd rfl h) fun _ =>
    undisturbed_ite (fun h => absurd hreleased h) fun _ =>
      undisturbed_ite (fun h => absurd hprov h) fun _ => ?_
  have hnumber : effectiveMsisdn? none r.msisdn = some msisdn := by simp [effectiveMsisdn?, hmsisdn]
  rw [hnumber]
  refine undisturbed_bind (undisturbed_pure (undisturbed_bind (undisturbed_bind
    (undisturbed_expect (fun _ _ => undisturbed_pure ?_) fun hnone => ?_))))
  · refine undisturbed_ite (fun h => absurd hmsisdn h) fun _ => undisturbed_bind
      (undisturbed_activate fun res => ?_)
    cases res with
    | error e =>
      intro haccepted
      have hrefused := haccepted _ (List.mem_append_right _ (List.mem_singleton.2 rfl))
      cases hrefused
    | ok a =>
      have hadmits : (SimChange.setRegistryState .activated).admits r.toSimData := by
        simp [SimChange.admits, hreleased]
      refine undisturbed_bind (Flow.Undisturbed.mono
        (Stock.undisturbed_admitted (hstore₁ ▸ hr') hadmits) ?_)
      rintro _ _ h ⟨rfl, hasked, rfl, hstore⟩
      refine undisturbed_pure fun _ => ⟨rfl, ?_, hstore.trans (hstore₁ ▸ rfl)⟩
      rw [hasked.calls_eq, h₁.calls_note h₁.store rfl, hasked₁.calls_eq]
      rfl
  · rw [hnone] at hbound
    cases hbound

end Handout

/-- From empty tables on, operations of the facade one after the other, whatever services answer,
when the store does not fail. Whoever asks for the pending SIMs of a registry gets exactly these, in
the order of identities. Each of them has a matching id and a number that is not blank. To activate
it without a number, when its registry is bound, can come to an end at which the registry accepts,
and whenever it does: it succeeds, the registry was the only service asked, once and with the number
that is stored; the SIM is active, with its number; and all others that were pending still are. -/
theorem pending_cleared_of_runInTurn {ι : Type} [DecidableEq ι] (ops : ι → Operation)
    (hfacade : ∀ i, (ops i).isFacade) (bindings : ι → Bindings) {visits : List (Visit ι)}
    (hsmooth : ∀ v ∈ visits, v.isSmooth) {w : World fun i => Except Error (ops i).Value}
    (hrun : (World.start .empty fun i => ((ops i).action (bindings i)).run).runInTurn visits =
      some w)
    (own : Bindings) {registry : RegistryId} (hbound : (own.registries.get? registry).isSome) :
    ∃ sims : List Sim,
      (∀ r, r ∈ sims ↔ r ∈ w.store.sims.rows ∧ r.registryId = registry ∧ r.isPending) ∧
      sims.Pairwise (fun a b => a.id < b.id) ∧
      SimDetails.ListsPending own registry w.store sims ∧
      ∀ r ∈ sims, r.matchingId.isSome ∧ ∃ msisdn, r.msisdn = some msisdn ∧
        Text.isBlank msisdn = false ∧
        (∃ res h, (Handout.activate own registry r.iccid none).run.ComesWith (·.isAccepted)
          w.store res h) ∧
        ∀ res h, (Handout.activate own registry r.iccid none).run.ComesWith (·.isAccepted)
            w.store res h →
          h.calls = [⟨.activate registry r.iccid msisdn, .ok ()⟩] ∧
          (∃ active ∈ h.store.sims.rows, res = .ok (.describe own active) ∧ active.id = r.id ∧
            active.registryState = .activated ∧ active.msisdn = r.msisdn) ∧
          SimDetails.ListsPending own registry h.store (sims.filter (· ≠ r)) := by
  have hassigned : assigned.inv w.store :=
    World.runInTurn_induction (J := fun h => assigned.inv h.store)
      (fun i h hh => undisturbed_facade_assigned (hfacade i) hh)
      (by simp [assigned, Store.empty, Table.empty]) hsmooth hrun
  obtain ⟨moves, hmoves⟩ := World.exists_run_of_runInTurn hrun
  obtain ⟨⟨hsettled, hnumbered⟩, -⟩ :=
    ((orderly_eligibly bindings hfacade).run (fun _ _ _ => trivial) hmoves).lawful.1.1
  refine ⟨w.store.pendingOf registry, fun r => Store.mem_pendingOf,
    Store.pairwise_pendingOf _ _, SimDetails.listsPending _ _ _, fun r hlisted => ?_⟩
  obtain ⟨hr, rfl, hpending⟩ := Store.mem_pendingOf.1 hlisted
  have hprov := SimData.provisioned_of_isPending hpending
  have hordered : r.Ordered := (hsettled r hr).ordered
  have hreleased := hordered.released_of_provisioned hprov
  obtain ⟨msisdn, hmsisdn⟩ := Option.isSome_iff_exists.1 (hassigned r hr hprov)
  refine ⟨hordered.matchingId_iff.2 hreleased, msisdn, hmsisdn, hnumbered r hr msisdn hmsisdn,
    Flow.exists_comesWith exists_serve_accepted _ _, fun res h hcomes => ?_⟩
  obtain ⟨-, hpost⟩ := Flow.post_of_comesWith
    (Handout.undisturbed_retry hr hpending hreleased hmsisdn hbound) hcomes
  obtain ⟨_, _, _, _, _, rfl, haccepted⟩ := hcomes
  obtain ⟨hres, hcalls, hstore⟩ := hpost haccepted
  rw [← Store.pendingOf_activated hr hreleased, hstore]
  refine ⟨hcalls, ⟨_, Store.change_mem_changeSim hr ?_, hres, rfl, rfl, rfl⟩,
    SimDetails.listsPending _ _ _⟩
  simp [SimChange.admits, hreleased]

/-- The first SIM is imported, released and claimed, and its registry refuses to serve it. -/
def refusedVisits : List (Visit Nat) :=
  renumberingVisits.take 5 ++
    [⟨6, [.plain, .plain, .plain, .plain, .plain, .plain, .plain,
      .call (.error (.service "Registry" (.stated "down")))]⟩]

/-- The depot when the registry has refused. -/
def refused : World fun i => Except Error (renumbering i).Value :=
  ((World.start .empty fun i => ((renumbering i).action firstServices).run).runInTurn
    refusedVisits).get (by decide +kernel)

/-- The SIM is pending then, and a retry clears it. -/
theorem pending_cleared_after_refusal :
    (World.start .empty fun i => ((renumbering i).action firstServices).run).runInTurn
        refusedVisits = some refused ∧
      ∃ r ∈ refused.store.sims.rows, r.isPending ∧ r.msisdn = some "4790" ∧
        ∃ res h, (Handout.activate firstServices 1 r.iccid none).run.ComesWith (·.isAccepted)
          refused.store res h ∧ h.calls = [⟨.activate 1 r.iccid "4790", .ok ()⟩] ∧
            ∃ active ∈ h.store.sims.rows, active.id = r.id ∧ active.registryState = .activated := by
  have hfacade : ∀ i, (renumbering i).isFacade
    | 0 | 1 | 2 | 3 | 4 | 5 | 6 | 7 | _ + 8 => rfl
  have hrun : (World.start .empty fun i => ((renumbering i).action firstServices).run).runInTurn
      refusedVisits = some refused := (Option.some_get _).symm
  have hrow : ∃ r ∈ refused.store.sims.rows, r.registryId = 1 ∧ r.isPending ∧
      r.msisdn = some "4790" := by decide +kernel
  obtain ⟨r, hr, hregistry, hpending, hmsisdn⟩ := hrow
  obtain ⟨sims, hmem, -, -, hretry⟩ := pending_cleared_of_runInTurn renumbering hfacade
    (fun _ => firstServices) (by decide) hrun firstServices
    (show (firstServices.registries.get? 1).isSome by decide)
  obtain ⟨-, msisdn, hstored, -, ⟨res, h, hcomes⟩, hall⟩ :=
    hretry r ((hmem r).2 ⟨hr, hregistry, hpending⟩)
  obtain rfl := Option.some.inj (hmsisdn.symm.trans hstored)
  obtain ⟨hcalls, ⟨active, hactive, -, hid, hstate, -⟩, -⟩ := hall res h hcomes
  exact ⟨hrun, r, hr, hpending, hmsisdn, res, h, hcomes, hcalls, active, hactive, hid, hstate⟩

end SimDepot
