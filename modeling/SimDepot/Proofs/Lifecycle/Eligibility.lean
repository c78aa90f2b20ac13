import SimDepot.Proofs.Directory.Licence
import SimDepot.Proofs.Lifecycle.Calls
import SimDepot.Proofs.Lifecycle.OneWay
import SimDepot.Proofs.Reconcile.Topping
import SimDepot.Proofs.Session.Vetting

/-!
# Only what is eligible

A service is asked about a SIM only while it may be asked: `Request.IsEligible` says what the store
has to say of the SIM at that time. Every operation looks at the SIM before it calls, and others may
change it in between; what makes up for that is that SIMs go onward only. The number that a registry
is told may be one that was stored long ago, so that no blank number may ever be stored, neither
with an activation nor from a feed; and that the vendor of a SIM is permitted was last looked at
when the SIM was imported.
-/

namespace SimDepot

open SimDepot.Action

/-- What a service is asked concerns a SIM of which it may be asked so, as the store stands. -/
def Request.IsEligible (bindings : Bindings) (s : Store) : Request → Prop
  | activate registry iccid msisdn =>
    Text.isBlank msisdn = false ∧ (bindings.registries.get? registry).isSome ∧
      ∃ r ∈ s.sims.rows, r.iccid = iccid ∧ r.registryId = registry ∧
        r.provisionState = .provisioned ∧ r.vendorState = .released
  | suspend registry iccid =>
    (bindings.registries.get? registry).isSome ∧
      ∃ r ∈ s.sims.rows, r.iccid = iccid ∧ r.registryId = registry
  | release vendor sim =>
    (bindings.vendors.get? vendor).isSome ∧
      ∃ r ∈ s.sims.rows, sim.Onward r ∧ r.vendorId = vendor ∧ r.licence ∈ s.permissions
  | _ => True

/-- What is no call is never objected to. -/
theorem Request.isEligible_of_not_isCall {r : Request} (hr : r.isCall = false) (bindings : Bindings)
    (s : Store) : r.IsEligible bindings s := by
  cases r with
  | activate _ _ _ | suspend _ _ | release _ _ | probe _ => cases hr
  | _ => trivial

/-! ## What makes SIMs eligible for good -/

/-- No SIM has a blank number. -/
def numbered : Discipline :=
  .ofRows (fun r => ∀ m, r.msisdn = some m → Text.isBlank m = false) (fun _ _ => True)
    (fun _ => trivial) (fun _ _ => trivial)

theorem keeps_numbered {F : Store → Prop} {c : Command}
    (hchange : ∀ id change, c = .changeSim id change → change.assignsBlank = false)
    (hadd : ∀ drafts, c = .addSims drafts → ∀ d ∈ drafts, ∀ m, d.msisdn = some m →
      Text.isBlank m = false) : numbered.Keeps F c := by
  refine Discipline.keeps_ofRows (fun s r change _ hc _ hr _ => ⟨?_, trivial⟩)
    fun drafts hdrafts d hd r hrd => ?_
  · have hblank := hchange r.id change hc
    cases change with
    | setMsisdn msisdn =>
      intro m hm
      cases hm
      exact hblank
    | setRegistryState state => cases state <;> exact hr
    | setVendorState state => cases state <;> exact hr
    | _ => exact hr
  · rw [hrd]
    exact hadd drafts hdrafts d hd

/-- No operation of the facade gives a SIM a blank number. -/
theorem Operation.Gives.keeps_numbered {F : Store → Prop} {o : Operation} {c : Command}
    (h : o.Gives c) (hfacade : o.isFacade) : numbered.Keeps F c := by
  refine SimDepot.keeps_numbered ?_ ?_
  · rintro id change rfl
    cases h with
    | change _ hnumber => exact hnumber hfacade
  · rintro drafts rfl d hd m hm
    cases h with
    | intake hchunk =>
      obtain ⟨r, -, rfl⟩ := List.mem_map.1 (hchunk hd)
      simpa using (Option.filter_eq_some_iff.1 hm).2

/-- SIMs go onward, have no blank numbers, and are licensed. -/
def handling : Discipline := (oneWay.and numbered).and licensed

theorem inv_handling_empty : handling.inv .empty :=
  ⟨⟨Discipline.inv_ofRows_empty, Discipline.inv_ofRows_empty⟩, by simp [licensed, Store.empty,
    Table.empty]⟩

theorem keeps_handling_change {F : Store → Prop} {id : SimId} {change : SimChange}
    (hone : oneWay.Keeps F (.changeSim id change)) (hblank : change.assignsBlank = false) :
    handling.Keeps F (.changeSim id change) := by
  refine (hone.and (keeps_numbered ?_ nofun)).and (keeps_licensed nofun)
  intro id' change' h
  cases h
  exact hblank

/-- The SIM goes on as one that is stored. -/
def Store.Carries (s : Store) (sim : Sim) : Prop := ∃ r ∈ s.sims.rows, sim.Onward r

theorem lasting_carries (sim : Sim) : handling.Lasting (·.Carries sim) := by
  refine Discipline.Lasting.and_left (Discipline.Lasting.and_left ?_)
  rintro s s' hrel ⟨r, hr, honward⟩
  obtain ⟨r', hr', honward'⟩ := hrel r hr
  exact ⟨r', hr', honward.trans honward'⟩

theorem Store.carries_of_mem {s : Store} {sim : Sim} (h : sim ∈ s.sims.rows) : s.Carries sim :=
  ⟨sim, h, .refl sim⟩

section Sessions

variable {ι : Type} {i : ι} {h : Chronicle ι} {bindings : ι → Bindings} {F : Store → Prop}

/-- Under the law, services are asked about eligible SIMs only. -/
def eligibly (bindings : ι → Bindings) (i : ι) (s : Store) (r : Request) : Prop :=
  r.IsEligible (bindings i) s

theorem eligibly_of_not_isCall {r : Request} (hr : r.isCall = false) :
    ∀ s, eligibly bindings i s r :=
  fun s => Request.isEligible_of_not_isCall hr (bindings i) s

/-- Nothing is known but the law. -/
abbrev Lawful (bindings : ι → Bindings) (h : Chronicle ι) : Prop :=
  handling.Poised (eligibly bindings) (fun _ => True) h

variable {ok : Unit → Standing → Chronicle ι → Prop} {err : Error → Standing → Chronicle ι → Prop}

theorem abides_requireRegistry {law : Chronicle ι → Prop} {faulty : Prop} {st : Standing}
    {registry : RegistryId} {b : Bindings}
    (hok : (b.registries.get? registry).isSome → ok () st h) (herr : ∀ e, err e st h) :
    Action.Abides i law faulty ok err (Handout.requireRegistry b registry) st h :=
  abides_bind (abides_expect (fun _ hget => abides_pure (hok (by rw [hget]; rfl))) fun _ => herr _)

/-- What was found of a SIM lasts as far as SIMs go onward. -/
theorem abides_find_carried (hh : Lawful bindings h) {q : SimQuery} {missing : Missing}
    {ok : Sim → Standing → Chronicle ι → Prop}
    (hok : ∀ sim h, sim ∈ h.store.sims.rows →
      handling.Poised (eligibly bindings) (·.Carries sim) h → ok sim .outside h)
    (herr : ∀ e h, Lawful bindings h → err e .outside h) :
    Action.Abides i (handling.vetting (eligibly bindings)) True ok err (Stock.find q missing)
      .outside h :=
  hh.abides_find (fun _ _ _ h => h) (eligibly_of_not_isCall rfl)
    (fun sim h hsim _ hh => hok sim h hsim ⟨hh.lawful, Store.carries_of_mem hsim⟩) herr

/-- A SIM that was seen claimed may be activated with its registry. -/
theorem abides_tell {sim : Sim} {registry : RegistryId} {msisdn : String}
    (hh : handling.Poised (eligibly bindings) (·.Carries sim) h)
    (hprov : sim.provisionState = .provisioned) (hregistry : sim.registryId = registry)
    (hblank : Text.isBlank msisdn = false)
    (hbound : ((bindings i).registries.get? registry).isSome) :
    Action.Abides i (handling.vetting (eligibly bindings)) True (fun _ _ _ => True)
      (fun _ _ _ => True) (do
        Action.activate registry sim.iccid msisdn
        let activated ← Stock.setRegistryState sim.id .activated
        return SimDetails.describe (bindings i) activated) .outside h := by
  have hlasting := lasting_carries sim
  refine abides_bind (Flow.Abides.mono (hh.abides_request hlasting
    (r := .activate registry sim.iccid msisdn) rfl ?_) ?_)
  · rintro s hinv ⟨r, hr, honward⟩
    have hclaimed := honward.provisioned hprov
    exact ⟨hblank, hbound, r, hr, honward.iccid, honward.registryId.trans hregistry, hclaimed,
      (hinv.1.1 r hr).ordered.released_of_provisioned hclaimed⟩
  · rintro (e | _) st h ⟨rfl, hh⟩
    · trivial
    · have hkeeps : oneWay.Keeps (·.Carries sim)
          (.changeSim sim.id (.setRegistryState .activated)) := by
        rintro s s' a hinv ⟨r, hr, honward⟩
        exact keeps_oneWay_activate s s' a hinv ⟨r, hr, honward.id, honward.provisioned hprov⟩
      exact abides_bind (hh.abides_update hlasting (keeps_handling_change hkeeps rfl)
        (Stock.asks_update fun _ => eligibly_of_not_isCall)
        (fun _ _ _ _ _ => trivial) fun _ _ _ => trivial)

/-- A SIM that was found is activated only when it is eligible. -/
theorem abides_activate_eligibly (hh : Lawful bindings h) (registry : RegistryId) (iccid : String)
    (msisdn : Option String) :
    Action.Abides i (handling.vetting (eligibly bindings)) True (fun _ _ _ => True)
      (fun _ _ _ => True) (Handout.activate (bindings i) registry iccid msisdn) .outside h := by
  refine abides_bind (abides_find_carried hh (fun sim h₁ hsim hh₁ => ?_) fun _ _ _ => trivial)
  have hlasting := lasting_carries sim
  refine abides_ite (fun _ => trivial) fun hregistry => abides_ite (fun _ => trivial) fun _ =>
    abides_ite (fun _ => trivial) fun hprov => ?_
  refine abides_bind (abides_expect (fun number hnumber => ?_) fun _ => trivial)
  have hblank : Text.isBlank number = false := by
    rcases Handout.stored_or_not_isBlank hnumber with hstored | hgiven
    · exact hh₁.inv.1.2 sim hsim number hstored
    · exact hgiven
  refine abides_bind (abides_requireRegistry (fun hbound => ?_) fun _ => trivial)
  have htell {h : Chronicle ι} (hh : handling.Poised (eligibly bindings) (·.Carries sim) h) :=
    abides_tell (i := i) hh (Decidable.of_not_not hprov) (Decidable.of_not_not hregistry) hblank
      hbound
  have hkeeps : handling.Keeps (·.Carries sim) (.changeSim sim.id (.setMsisdn number)) :=
    keeps_handling_change (keeps_oneWay_changeSim rfl nofun) hblank
  refine abides_ite (fun _ => ?_) fun _ => htell hh₁
  exact abides_bind (hh₁.abides_update hlasting hkeeps
    (Stock.asks_update fun _ => eligibly_of_not_isCall) (fun _ _ _ _ hh₂ => htell hh₂)
    fun _ _ _ => trivial)

/-- So is a SIM that was claimed. -/
theorem abides_allocate_eligibly (hh : Lawful bindings h) (pool : Pool) (msisdn : String) :
    Action.Abides i (handling.vetting (eligibly bindings)) True (fun _ _ _ => True)
      (fun _ _ _ => True) (Handout.allocate (bindings i) pool msisdn) .outside h := by
  refine abides_bind (abides_requireRegistry (fun hbound => ?_) fun _ => trivial)
  refine abides_ite (fun _ => trivial) fun hblank => ?_
  have hblank : Text.isBlank msisdn = false := eq_false_of_ne_true hblank
  have hclaim : Action.Abides i handling.law True
      (fun sim st h => st = .outside ∧ handling.law h ∧ Stock.Gained pool i handling.law h sim)
      (fun _ _ _ => True) (Stock.claim pool) .outside h :=
    Stock.abides_claim (fun _ => keeps_handling_change keeps_oneWay_claim rfl) hh.lawful.1
  refine abides_bind (Flow.Abides.mono (Discipline.abides_vetting hclaim
    (Stock.asks_claim fun _ hr _ => eligibly_of_not_isCall hr) hh.lawful) ?_)
  rintro (e | sim) st h₁ ⟨hres, hlaw₁⟩
  · trivial
  obtain ⟨rfl, -, hgained⟩ := hres
  -- The SIM as it is now was of the pool when it was chosen, and is claimed.
  obtain ⟨r, hr, hid, hprov⟩ := hgained.claimed
  obtain ⟨h₀, c, -, he, hc, hpool, hcid⟩ := hgained.chosen
  obtain ⟨r', hr', honward⟩ := (Discipline.rel_of_extends he hlaw₁.1).1.1 c hc
  obtain rfl := Table.id_inj hr hr' (hid.trans (hcid.symm.trans honward.id.symm))
  have hregistry : r.registryId = pool.registry :=
    honward.registryId.trans (congrArg Pool.registry hpool)
  have hh₁ : handling.Poised (eligibly bindings) (·.Carries r) h₁ :=
    ⟨hlaw₁, Store.carries_of_mem hr⟩
  have hkeeps : handling.Keeps (·.Carries r) (.changeSim sim.id (.setMsisdn msisdn)) :=
    keeps_handling_change (keeps_oneWay_changeSim rfl nofun) hblank
  refine abides_bind (hh₁.abides_update (lasting_carries r) hkeeps
    (Stock.asks_update fun _ => eligibly_of_not_isCall) (fun sim' h₂ hid' hsim' hh₂ => ?_)
    fun _ _ _ => trivial)
  obtain ⟨r₂, hr₂, honward₂⟩ := hh₂.cond
  obtain rfl := Table.id_inj hsim' hr₂ (hid'.trans (hid.symm.trans honward₂.id.symm))
  exact abides_tell ⟨hh₂.lawful, Store.carries_of_mem hsim'⟩ (honward₂.provisioned hprov)
    (honward₂.registryId.trans hregistry) hblank hbound

theorem abides_suspend_eligibly (hh : Lawful bindings h) (iccid : String) :
    Action.Abides i (handling.vetting (eligibly bindings)) True (fun _ _ _ => True)
      (fun _ _ _ => True) (Handout.suspend (bindings i) iccid) .outside h := by
  refine abides_bind (abides_find_carried hh (fun sim h₁ hsim hh₁ => ?_) fun _ _ _ => trivial)
  have hlasting := lasting_carries sim
  refine abides_bind (abides_requireRegistry (fun hbound => ?_) fun _ => trivial)
  refine abides_bind (Flow.Abides.mono (hh₁.abides_request hlasting
    (r := .suspend sim.registryId sim.iccid) rfl ?_) ?_)
  · rintro s - ⟨r, hr, honward⟩
    exact ⟨hbound, r, hr, honward.iccid, honward.registryId⟩
  · rintro (e | _) st h₂ ⟨rfl, hh₂⟩
    · trivial
    · exact abides_bind (hh₂.abides_free hlasting
        (Stock.issues_markSuspended fun _ =>
          keeps_handling_change (keeps_oneWay_changeSim rfl nofun) rfl)
        (Stock.asks_markSuspended fun _ => eligibly_of_not_isCall)
        (fun _ _ _ => trivial) fun _ _ _ => trivial)

/-- A pass asks vendors for what they are permitted to supply. -/
theorem topping_eligibly (i : ι) : Reconcile.Topping (bindings i) i
    (handling.vetting (eligibly bindings)) True (fun _ h => Lawful bindings h)
    (fun _ _ => True) where
  read q hh := hh.abides_read (fun _ _ _ h => h) (eligibly_of_not_isCall rfl)
    (fun _ hh => ⟨rfl, hh⟩) fun _ _ hh => ⟨rfl, hh, trivial⟩
  next := by
    intro _ h pool hh
    have hanything : handling.Lasting fun _ => True := fun _ _ _ h => h
    refine abides_bind (abides_attempt (abides_find_carried hh (fun sim h₁ _ hh₁ => ?_)
      fun e h₁ hh₁ => ?_))
    · have hlasting := lasting_carries sim
      refine abides_bind (abides_expect (fun _ hget => ?_)
        fun _ => ⟨rfl, ⟨hh₁.lawful, trivial⟩, trivial⟩)
      have hbound : ((bindings i).vendors.get? sim.vendorId).isSome := by rw [hget]; rfl
      refine abides_bind (Flow.Abides.mono (hh₁.abides_request hlasting
        (r := .release sim.vendorId sim) rfl ?_) ?_)
      · rintro s hinv ⟨r, hr, honward⟩
        exact ⟨hbound, r, hr, honward, honward.vendorId, hinv.2 r hr⟩
      · rintro (e | release) st h₂ ⟨rfl, hh₂⟩
        · exact ⟨rfl, ⟨hh₂.lawful, trivial⟩, trivial⟩
        · have hh₂ : Lawful bindings h₂ := ⟨hh₂.lawful, trivial⟩
          exact hh₂.abides_free hanything
            (Reconcile.issues_record
              (fun _ => keeps_handling_change (keeps_oneWay_changeSim rfl nofun) rfl)
              fun _ => keeps_handling_change (keeps_oneWay_changeSim rfl nofun) rfl)
            (Reconcile.asks_record fun _ => eligibly_of_not_isCall)
            (fun _ _ hh => ⟨rfl, hh⟩) fun _ _ hh => ⟨rfl, hh, trivial⟩
    · cases e with
      | notFound _ => exact abides_pure ⟨rfl, hh₁⟩
      | _ => exact abides_throw ⟨rfl, hh₁, trivial⟩
  fault _ _ _ := trivial
  later _ _ := trivial

/-- An import stores licensed SIMs. -/
theorem abides_import_eligibly (hh : Lawful bindings h) (records : List FeedRecord)
    (registry : RegistryId) (vendor : VendorId) (importer : String) :
    Action.Abides i (handling.vetting (eligibly bindings)) True (fun _ _ _ => True)
      (fun _ _ _ => True) (Feed.importAll records registry vendor importer) .outside h := by
  have himport : Action.Abides i handling.law True (fun _ _ _ => True) (fun _ _ _ => True)
      (Feed.importAll records registry vendor importer) .outside h := by
    refine Feed.abides_importAll (Discipline.Lasting.and_right (lasting_permitted _))
      (fun c hgives => ?_) hh.lawful.1
    refine ((keeps_oneWay ?_ ?_).and (hgives.keeps_numbered rfl)).and (keeps_licensed ?_)
    · rcases hgives.cases with ⟨_, _, hchange, -⟩ | ⟨-, hfresh, -⟩
      · cases hchange
      · exact hfresh
    · rintro id change rfl
      cases hgives with
      | change hchange => cases hchange
    · rintro drafts rfl d hd s hpermitted
      cases hgives with
      | intake hchunk =>
        obtain ⟨r, -, rfl⟩ := List.mem_map.1 (hchunk hd)
        exact hpermitted
  exact Flow.Abides.mono (Discipline.abides_vetting himport
    (Feed.asks_importAll fun _ => eligibly_of_not_isCall) hh.lawful)
    fun res _ _ _ => by cases res <;> trivial

/-- Every operation of the facade asks services about eligible SIMs only. -/
theorem abides_facade_eligibly (hh : Lawful bindings h) {o : Operation} (hfacade : o.isFacade) :
    Action.Abides i (handling.vetting (eligibly bindings)) True (fun _ _ _ => True)
      (fun _ _ _ => True) (o.action (bindings i)) .outside h := by
  -- What neither changes nor stores SIMs is not in the way.
  have hplain (hcalls : ∀ r, o.calls r → ∀ s, eligibly bindings i s r)
      (hchange : ∀ change, o.changes change = false)
      (hadd : ∀ drafts, ¬ o.Gives (.addSims drafts)) :
      Action.Abides i (handling.vetting (eligibly bindings)) True (fun _ _ _ => True)
        (fun _ _ _ => True) (o.action (bindings i)) .outside h := by
    refine hh.abides_free (fun _ _ _ h => h) (Flow.Obeys.widen o.issues_gives fun c hc => ?_)
      (o.asks_action (fun _ => eligibly_of_not_isCall) hcalls)
      (fun _ _ _ => trivial) fun _ _ _ => trivial
    have hother : ∀ id change, c ≠ .changeSim id change := by
      rintro id change rfl
      cases hc with
      | change h =>
        rw [hchange] at h
        cases h
    have hstores : ∀ drafts, c ≠ .addSims drafts := by
      rintro drafts rfl
      exact hadd drafts hc
    exact ((keeps_oneWay (Command.storesFresh_of_ne hstores) fun id change h =>
      absurd h (hother id change)).and (hc.keeps_numbered hfacade)).and
        (keeps_licensed fun drafts h => absurd h (hstores drafts))
  cases o with
  | importFeed records registry vendor importer =>
    exact abides_import_eligibly hh records registry vendor importer
  | reconcile tuning =>
    exact ((topping_eligibly i).abides_pass (n := 0) hh).forget
  | allocate pool msisdn => exact abides_allocate_eligibly hh pool msisdn
  | activate registry iccid msisdn => exact abides_activate_eligibly hh registry iccid msisdn
  | suspend iccid => exact abides_suspend_eligibly hh iccid
  | addEntry _ _ | ensureEntry _ _ | permit _ _ =>
    refine hplain (fun r hr => ?_) (fun _ => rfl) fun drafts hgives => ?_
    · cases hr
    · cases hgives
  | inquire q =>
    refine hplain (fun r hr => ?_) (fun _ => rfl) fun drafts hgives => by cases hgives
    cases r with
    | probe registry => exact fun _ => trivial
    | _ => cases q <;> cases hr
  | _ => cases hfacade

/-- Whatever the facade is asked, its sessions ask services about eligible SIMs only. -/
theorem orderly_eligibly (bindings : ι → Bindings) {ops : ι → Operation}
    (hfacade : ∀ i, (ops i).isFacade) :
    (World.start .empty fun i => ((ops i).action (bindings i)).run).Orderly
      (handling.vetting (eligibly bindings)) True fun _ _ _ _ => True := by
  have hstart : handling.vetting (eligibly bindings) (.start .empty) :=
    Discipline.vetting_start inv_handling_empty
  exact World.Orderly.start hstart fun i =>
    Flow.Abides.mono (abides_facade_eligibly ⟨hstart, trivial⟩ (hfacade i)) fun _ _ _ _ => trivial

end Sessions

/-- From empty tables on, operations of the facade in whatever order their requests are answered,
whatever services answer, whatever fails and whichever processes die. Whatever a service was asked
was eligible at the time, and so is whatever a session is about to ask one. -/
theorem eligible_of_run {ι : Type} [DecidableEq ι] (ops : ι → Operation)
    (hfacade : ∀ i, (ops i).isFacade) (bindings : ι → Bindings) {moves : List (Move ι)}
    {w : World fun i => Except Error (ops i).Value}
    (hrun : (World.start .empty fun i => ((ops i).action (bindings i)).run).run moves = some w) :
    (∀ d ∈ w.past, d.turn.request.IsEligible (bindings d.session) d.before) ∧
      ∀ i, (w.standing i).isGone = false → ∀ r k, w.rest i = .ask r k →
        r.IsEligible (bindings i) w.store := by
  have horderly := (orderly_eligibly bindings hfacade).run (fun _ _ _ => trivial) hrun
  exact ⟨horderly.lawful.2, fun i halive r k hrest => Discipline.may_request horderly halive hrest⟩

/-- In the rush of the first day the registry is told of a SIM that is claimed and released. -/
theorem eligible_in_rush : firstWorld.run (firstMoves ++ rushMoves) = some rushed ∧
    ∃ d ∈ rushed.past, d.turn.request = .activate 1 "8947" "4790" ∧
      ∃ r ∈ d.before.sims.rows, r.iccid = "8947" ∧ r.registryId = 1 ∧
        r.provisionState = .provisioned ∧ r.vendorState = .released := by
  have hfacade : ∀ i, (firstDay i).isFacade
    | 0 | 1 | 2 | 3 | 4 | 5 | _ + 6 => rfl
  have hrush : firstReleased.run rushMoves = some rushed := (Option.some_get _).symm
  have hrun := World.run_append run_firstMoves hrush
  have hcalled : ∃ d ∈ rushed.past, d.turn.request = .activate 1 "8947" "4790" := by decide +kernel
  obtain ⟨d, hd, hrequest⟩ := hcalled
  have heligible := (eligible_of_run firstDay hfacade (fun _ => firstServices) hrun).1 d hd
  rw [hrequest] at heligible
  exact ⟨hrun, d, hd, hrequest, heligible.2.2⟩

end SimDepot
