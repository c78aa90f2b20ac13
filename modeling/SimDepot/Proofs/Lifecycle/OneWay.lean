import SimDepot.Proofs.Claim.Outcome
import SimDepot.Proofs.Lifecycle.Order
import SimDepot.Proofs.Session.Return

/-!
# One way only

The operations of the facade never take anything back. Of each SIM only the registry's knowledge of
it goes to and fro; it is released once, claimed once, and what it is stays. That a SIM which is
active is claimed is nothing any guard looks at: it holds because whoever records an activation has
seen the SIM claimed before, and nobody gives up a claim.
-/

namespace SimDepot

/-- What may become of a SIM. -/
structure Sim.Onward (r r' : Sim) : Prop where
  /-- Its identity stays. -/
  id : r'.id = r.id
  /-- Its card number stays. -/
  iccid : r'.iccid = r.iccid
  /-- Its subscriber identity stays. -/
  imsi : r'.imsi = r.imsi
  /-- Its profile type stays. -/
  profileType : r'.profileType = r.profileType
  /-- Its registry stays. -/
  registryId : r'.registryId = r.registryId
  /-- Its vendor stays. -/
  vendorId : r'.vendorId = r.vendorId
  /-- Its import stays. -/
  batchId : r'.batchId = r.batchId
  /-- Once released, it stays released. -/
  released : r.vendorState = .released → r'.vendorState = .released
  /-- Once claimed, it stays claimed. -/
  provisioned : r.provisionState = .provisioned → r'.provisionState = .provisioned
  /-- Its matching id stays once it is known. -/
  matchingId : ∀ m, r.matchingId = some m → r'.matchingId = some m
  /-- Its chip stays once it is known. -/
  eid : ∀ e, r.eid = some e → r'.eid = some e

namespace Sim.Onward

theorem refl (r : Sim) : r.Onward r :=
  ⟨rfl, rfl, rfl, rfl, rfl, rfl, rfl, fun h => h, fun h => h, fun _ h => h, fun _ h => h⟩

theorem trans {a b c : Sim} (h : a.Onward b) (h' : b.Onward c) : a.Onward c where
  id := h'.id.trans h.id
  iccid := h'.iccid.trans h.iccid
  imsi := h'.imsi.trans h.imsi
  profileType := h'.profileType.trans h.profileType
  registryId := h'.registryId.trans h.registryId
  vendorId := h'.vendorId.trans h.vendorId
  batchId := h'.batchId.trans h.batchId
  released hr := h'.released (h.released hr)
  provisioned hp := h'.provisioned (h.provisioned hp)
  matchingId m hm := h'.matchingId m (h.matchingId m hm)
  eid e he := h'.eid e (h.eid e he)

end Sim.Onward

/-- The change takes nothing back. -/
def SimChange.isForward : SimChange → Bool
  | setEid _ | setMsisdn _ | setRegistryState .activated | suspend _ | release _ | claim => true
  | _ => false

/-- A SIM whose states agree, and which is active only when it is claimed. -/
structure SimData.Settled (s : SimData) : Prop where
  /-- The states agree. -/
  ordered : s.Ordered
  /-- What is active is claimed. -/
  provisioned_of_activated : s.registryState = .activated → s.provisionState = .provisioned

/-- A change that takes nothing back and is admitted leads onward. -/
theorem Sim.onward_change {r : Sim} (hr : r.Ordered) {change : SimChange}
    (hforward : change.isForward) (hadmits : change.admits r.toSimData) :
    r.Onward (r.change change) := by
  cases change with
  | setEid eid =>
    have heid : r.eid = none ∨ r.eid = some eid := by simpa [SimChange.admits] using hadmits
    refine { Onward.refl r with eid := fun e he => ?_ }
    rcases heid with h | h
    · rw [h] at he
      cases he
    · rw [h] at he
      exact he
  | setRegistryState state =>
    cases state with
    | activated => exact { Onward.refl r with }
    | notActivated => cases hforward
  | release matchingId =>
    have hraw : r.vendorState = .available := by simpa [SimChange.admits] using hadmits
    refine { Onward.refl r with released := fun _ => rfl, matchingId := fun m hm => ?_ }
    -- Raw stock has no matching id yet.
    have hreleased := hr.matchingId_iff.1 (by rw [hm]; rfl)
    rw [hraw] at hreleased
    cases hreleased
  | claim => exact { Onward.refl r with provisioned := fun _ => rfl }
  | setMsisdn _ | suspend _ => exact { Onward.refl r with }
  | setVendorState _ | setProvisionState _ => cases hforward

/-- A change that takes nothing back keeps a SIM settled, if it activates only what is claimed. -/
theorem SimData.Settled.apply {s : SimData} (hs : s.Settled) {change : SimChange}
    (hforward : change.isForward) (hadmits : change.admits s)
    (hactivate : change = .setRegistryState .activated → s.provisionState = .provisioned) :
    (change.apply s).Settled := by
  refine ⟨hs.ordered.apply hadmits, fun hact => ?_⟩
  cases change with
  | setRegistryState state =>
    cases state with
    | activated => exact hactivate rfl
    | notActivated => cases hforward
  | suspend time => cases hact
  | claim => rfl
  | setEid _ | setMsisdn _ | release _ => exact hs.provisioned_of_activated hact
  | setVendorState _ | setProvisionState _ => cases hforward

/-! ## The discipline of the facade -/

/-- Every SIM is settled, and goes onward. -/
def oneWay : Discipline := .ofRows (fun r => r.Settled) Sim.Onward Sim.Onward.refl Sim.Onward.trans

/-- A command keeps the discipline when what it changes goes forward and what it stores is raw
stock; it may activate a SIM only where this SIM is claimed. -/
theorem keeps_oneWay {F : Store → Prop} {c : Command} (hfresh : c.StoresFresh)
    (hchange : ∀ id change, c = .changeSim id change → change.isForward ∧
      (change = .setRegistryState .activated → ∀ s, F s → s.HasClaimed id)) :
    oneWay.Keeps F c := by
  refine Discipline.keeps_ofRows (fun s r change hF hc hr hsettled hadmits => ?_)
    fun drafts hdrafts d hd r hrd => ?_
  · obtain ⟨hforward, hactivate⟩ := hchange r.id change hc
    refine ⟨hsettled.apply hforward hadmits fun h => ?_,
      Sim.onward_change hsettled.ordered hforward hadmits⟩
    exact (Store.hasClaimed_iff hr).1 (hactivate h s hF)
  · rw [hrd]
    have hd := hfresh drafts hdrafts d hd
    exact ⟨hd.ordered, fun h => absurd (hd.registryState.symm.trans h) nofun⟩

theorem keeps_oneWay_changeSim {F : Store → Prop} {id : SimId} {change : SimChange}
    (hforward : change.isForward) (hother : change ≠ .setRegistryState .activated) :
    oneWay.Keeps F (.changeSim id change) := by
  refine keeps_oneWay (Command.storesFresh_changeSim _ _) fun id' change' h => ?_
  cases h
  exact ⟨hforward, fun h => absurd h hother⟩

theorem keeps_oneWay_claim {F : Store → Prop} {id : SimId} :
    oneWay.Keeps F (.changeSim id .claim) :=
  keeps_oneWay_changeSim rfl nofun

theorem keeps_oneWay_activate {id : SimId} :
    oneWay.Keeps (·.HasClaimed id) (.changeSim id (.setRegistryState .activated)) := by
  refine keeps_oneWay (Command.storesFresh_changeSim _ _) fun id' change' h => ?_
  cases h
  exact ⟨rfl, fun _ _ h => h⟩

/-- A SIM that is claimed stays claimed. -/
theorem lasting_hasClaimed (id : SimId) : oneWay.Lasting (·.HasClaimed id) :=
  Discipline.lasting_hasClaimed_ofRows (fun _ _ h => ⟨h.id, h.provisioned⟩) id

/-! ## The operations that activate -/

section Sessions

open SimDepot.Action

variable {ι : Type} {i : ι} {h : Chronicle ι} {bindings : Bindings}

/-- Once a SIM is claimed, activating it abides by the discipline. -/
theorem abides_confirm {pool : Pool} {msisdn : String} {sim : Sim} (hlaw : oneWay.law h)
    (hclaimed : h.store.HasClaimed sim.id) :
    Action.Abides i oneWay.law True (fun _ _ _ => True) (fun _ _ _ => True)
      (Handout.confirm bindings pool msisdn sim) .outside h := by
  have hlasting := lasting_hasClaimed sim.id
  refine abides_bind (Discipline.abides_update hlasting (keeps_oneWay_changeSim rfl nofun)
    ⟨Discipline.sound_outside _, hlaw, hclaimed⟩ (fun sim' h₁ hid _ hh => ?_)
    fun _ _ _ => trivial)
  have hrest : Issues (oneWay.Keeps (·.HasClaimed sim.id)) false (do
      Action.activate pool.registry sim'.iccid msisdn
      let activated ← Stock.setRegistryState sim'.id .activated
      return SimDetails.describe bindings activated) := by
    refine issues_bind issues_activate fun _ => issues_bind (Stock.issues_update ?_) fun _ =>
      issues_pure
    rw [hid]
    exact keeps_oneWay_activate
  exact Discipline.abides_any hlasting hrest hh (fun _ _ _ _ => trivial) fun _ _ _ _ => trivial

/-- A SIM that is found claimed stays claimed until it is active. -/
theorem abides_activate {registry : RegistryId} {iccid : String} {msisdn : Option String}
    (hlaw : oneWay.law h) :
    Action.Abides i oneWay.law True (fun _ _ _ => True) (fun _ _ _ => True)
      (Handout.activate bindings registry iccid msisdn) .outside h := by
  refine abides_bind (abides_bind (abides_read (Discipline.quiet_law i) hlaw (fun h₁ hm => ?_)
    fun _ _ _ _ => trivial))
  cases hfind : Query.eval h₁.store (.sim (.withIccid iccid)) with
  | none =>
    rw [Standing.view_outside, hfind]
    trivial
  | some sim =>
    rw [Standing.view_outside, hfind]
    refine abides_pure ?_
    have hsim : sim ∈ h₁.store.sims.rows := List.mem_of_find?_eq_some hfind
    by_cases hprov : sim.provisionState = .provisioned
    · refine Discipline.abides_any (lasting_hasClaimed sim.id)
        (Handout.issues_activateFound (fun _ _ => keeps_oneWay_changeSim rfl nofun)
          fun _ => keeps_oneWay_activate)
        ⟨Discipline.sound_outside _, hm.lawful hlaw, (Store.hasClaimed_iff hsim).2 hprov⟩
        (fun _ _ _ _ => trivial) fun _ _ _ _ => trivial
    · refine Discipline.abides_any (F := fun _ => True) (fun _ _ _ h => h)
        (Handout.issues_activateFound (fun _ _ => keeps_oneWay_changeSim rfl nofun)
          fun h => absurd h hprov)
        ⟨Discipline.sound_outside _, hm.lawful hlaw, trivial⟩
        (fun _ _ _ _ => trivial) fun _ _ _ _ => trivial

theorem abides_allocate {pool : Pool} {msisdn : String} (hlaw : oneWay.law h) :
    Action.Abides i oneWay.law True (fun _ _ _ => True) (fun _ _ _ => True)
      (Handout.allocate bindings pool msisdn) .outside h := by
  rcases Handout.allocate_cases bindings pool msisdn with ⟨e, he⟩ | hclaim
  · rw [he]
    trivial
  · rw [hclaim]
    refine abides_bind
      ((Stock.abides_claim (fun _ => keeps_oneWay_claim) hlaw).mono ?_ fun _ _ _ h => h)
    rintro sim st h ⟨rfl, hlaw, hgained⟩
    exact abides_confirm hlaw hgained.claimed

/-- What the other operations of the facade change goes forward. -/
theorem isForward_of_changes {o : Operation} (hfacade : o.isFacade)
    (hallocate : ∀ pool msisdn, o ≠ .allocate pool msisdn)
    (hactivate : ∀ registry iccid msisdn, o ≠ .activate registry iccid msisdn)
    {change : SimChange} (hchange : o.changes change) :
    change.isForward ∧ change ≠ .setRegistryState .activated := by
  cases o with
  | allocate pool msisdn => exact absurd rfl (hallocate pool msisdn)
  | activate registry iccid msisdn => exact absurd rfl (hactivate registry iccid msisdn)
  | reconcile tuning => cases change <;> first | exact ⟨rfl, nofun⟩ | cases hchange
  | suspend iccid => cases change <;> first | exact ⟨rfl, nofun⟩ | cases hchange
  | addEntry _ _ | ensureEntry _ _ | permit _ _ | importFeed _ _ _ _ | inquire _ =>
    cases change <;> cases hchange
  | _ => cases hfacade

/-- Every operation of the facade abides by the discipline. -/
theorem abides_facade (bindings : Bindings) {o : Operation} (hfacade : o.isFacade)
    (hlaw : oneWay.law h) :
    Action.Abides i oneWay.law True (fun _ _ _ => True) (fun _ _ _ => True) (o.action bindings)
      .outside h := by
  by_cases hallocate : ∃ pool msisdn, o = .allocate pool msisdn
  · obtain ⟨pool, msisdn, rfl⟩ := hallocate
    exact abides_allocate hlaw
  by_cases hactivate : ∃ registry iccid msisdn, o = .activate registry iccid msisdn
  · obtain ⟨registry, iccid, msisdn, rfl⟩ := hactivate
    exact abides_activate hlaw
  refine Discipline.abides_any (F := fun _ => True) (fun _ _ _ h => h) ?_
    ⟨Discipline.sound_outside _, hlaw, trivial⟩ (fun _ _ _ _ => trivial) fun _ _ _ _ => trivial
  refine o.issues_action (fun c hfresh hc => ?_) fun id change hchange => ?_
  · exact keeps_oneWay hfresh fun id change h => absurd h (hc id change)
  · obtain ⟨hforward, hother⟩ := isForward_of_changes hfacade
      (fun pool msisdn h => hallocate ⟨pool, msisdn, h⟩)
      (fun registry iccid msisdn h => hactivate ⟨registry, iccid, msisdn, h⟩) hchange
    exact keeps_oneWay_changeSim hforward hother

end Sessions

/-! ## Whatever the facade is asked -/

/-- The claim of session `i`, which allocates, has returned. -/
def World.Claims {ι : Type} [DecidableEq ι] {α : ι → Type} (w : World α) (ops : ι → Operation)
    (i : ι) (sim : Sim) : Prop :=
  ∃ pool msisdn, ops i = .allocate pool msisdn ∧
    (Stock.claim pool).run.Returned (w.turnsOf i) (.ok sim)

section Runs

variable {ι : Type} [DecidableEq ι] {ops : ι → Operation} {bindings : ι → Bindings}

omit [DecidableEq ι] in
theorem orderly_facade (bindings : ι → Bindings) (hfacade : ∀ i, (ops i).isFacade) :
    (World.start .empty fun i => ((ops i).action (bindings i)).run).Orderly oneWay.law True
      fun _ _ _ _ => True := by
  have hlaw : oneWay.law (.start .empty : Chronicle ι) :=
    Discipline.law_start Discipline.inv_ofRows_empty
  exact World.Orderly.start hlaw fun i =>
    Flow.Abides.mono (abides_facade (bindings i) (hfacade i) hlaw) fun _ _ _ _ => trivial

/-- What the claim of an allocation returned it gained at some time. -/
theorem gained_of_allocate (hfacade : ∀ i, (ops i).isFacade) {moves : List (Move ι)}
    {w : World fun i => Except Error (ops i).Value}
    (hrun : (World.start .empty fun i => ((ops i).action (bindings i)).run).run moves = some w)
    {i : ι} {pool : Pool} {msisdn : String} (hop : ops i = .allocate pool msisdn) {sim : Sim}
    (hreturned : (Stock.claim pool).run.Returned (w.turnsOf i) (.ok sim)) :
    ∃ h, h.Extends w.toChronicle ∧ Stock.Gained pool i oneWay.law h sim := by
  have hcases : ∀ o : Operation, o = .allocate pool msisdn →
      (∃ res, (o.action (bindings i)).run = .done res) ∨
        ∃ f, (o.action (bindings i)).run = (Stock.claim pool).run >>= f := by
    rintro o rfl
    exact Handout.run_allocate (bindings i) pool msisdn
  exact Stock.gained_of_returned (orderly_facade bindings hfacade)
    (fun _ => keeps_oneWay_claim) (hcases (ops i) hop) (fun _ _ _ => trivial) hrun hreturned

/-- What an allocation claimed it gained at some time. -/
theorem gained_of_claims (hfacade : ∀ i, (ops i).isFacade) {moves : List (Move ι)}
    {w : World fun i => Except Error (ops i).Value}
    (hrun : (World.start .empty fun i => ((ops i).action (bindings i)).run).run moves = some w)
    {i : ι} {sim : Sim} (hclaims : w.Claims ops i sim) :
    ∃ pool h, h.Extends w.toChronicle ∧ Stock.Gained pool i oneWay.law h sim := by
  obtain ⟨pool, msisdn, hop, hreturned⟩ := hclaims
  exact ⟨pool, gained_of_allocate hfacade hrun hop hreturned⟩

/-- From empty tables on, operations of the facade in whatever order their requests are answered,
whatever services answer, whatever fails and whichever processes die. Every SIM goes onward from any
time to any later one; what is active is claimed; no allocation claims a SIM that is active, and no
two claim the same one. -/
theorem oneWay_of_run (ops : ι → Operation) (hfacade : ∀ i, (ops i).isFacade)
    (bindings : ι → Bindings) {early late : List (Move ι)}
    {w₁ w₂ : World fun i => Except Error (ops i).Value}
    (hearly : (World.start .empty fun i => ((ops i).action (bindings i)).run).run early = some w₁)
    (hlate : w₁.run late = some w₂) :
    (∀ r ∈ w₁.store.sims.rows, ∃ r' ∈ w₂.store.sims.rows, r.Onward r') ∧
      (∀ r ∈ w₂.store.sims.rows, r.registryState = .activated → r.provisionState = .provisioned) ∧
      (∀ i sim, w₂.Claims ops i sim → sim.registryState = .notActivated) ∧
      ∀ i j sim sim', w₂.Claims ops i sim → w₂.Claims ops j sim' → sim.id = sim'.id → i = j := by
  have horderly := (orderly_facade bindings hfacade).run (fun _ _ _ => trivial) hearly
  have hlaw := (horderly.run (fun _ _ _ => trivial) hlate).lawful
  have hrun := World.run_append hearly hlate
  refine ⟨Discipline.rel_of_extends (World.extends_of_run hlate) hlaw,
    fun r hr => (hlaw.1 r hr).provisioned_of_activated, fun i sim hi => ?_,
    fun i j sim sim' hi hj hid => ?_⟩
  · obtain ⟨pool, h, -, hgained⟩ := gained_of_claims hfacade hrun hi
    obtain ⟨h₂, r, hlaw₂, hr, hready, rfl⟩ := hgained.ready
    cases hstate : r.registryState with
    | notActivated => exact hstate
    | activated =>
      have hprov := (hlaw₂.1 r hr).provisioned_of_activated hstate
      simp [SimData.isReady, hprov] at hready
  · obtain ⟨_, h, he, hgained⟩ := gained_of_claims hfacade hrun hi
    obtain ⟨_, h', he', hgained'⟩ := gained_of_claims hfacade hrun hj
    have hkeep : ∀ d ∈ w₂.past, ∀ id, d.before.HasClaimed id → d.after.HasClaimed id :=
      fun d hd id => lasting_hasClaimed id _ _ (hlaw.2 d hd)
    have htaken' := hgained'.taken.extends he'
    rw [← hid] at htaken'
    exact (hgained.taken.extends he).unique (World.extends_of_run hrun) hkeep htaken'

end Runs

/-- Two callers rush for the only SIM of the first day. -/
def rushMoves : List (Move Nat) :=
  [.turn 6 .plain, .turn 7 .plain, .turn 7 .plain, .turn 6 .plain, .turn 6 .plain, .turn 6 .plain,
    .turn 6 .plain, .turn 7 .plain, .turn 7 .plain, .turn 6 .plain, .turn 6 .plain,
    .turn 6 (.call (.ok ())), .turn 7 .plain, .turn 7 .plain, .turn 6 .plain, .turn 7 .plain,
    .turn 6 .plain]

/-- The depot when the rush is over. -/
def rushed : World fun i => Except Error (firstDay i).Value :=
  (firstReleased.run rushMoves).get (by decide +kernel)

theorem oneWay_of_rush : firstWorld.run firstMoves = some firstReleased ∧
    firstReleased.run rushMoves = some rushed ∧
    (∃ r ∈ rushed.store.sims.rows, r.registryState = .activated) ∧
    (∃ sim, rushed.Claims firstDay 6 sim ∧ sim.registryState = .notActivated) ∧
    ∀ r ∈ firstReleased.store.sims.rows, ∃ r' ∈ rushed.store.sims.rows, r.Onward r' := by
  have hfacade : ∀ i, (firstDay i).isFacade
    | 0 | 1 | 2 | 3 | 4 | 5 | _ + 6 => rfl
  have hlate : firstReleased.run rushMoves = some rushed := (Option.some_get _).symm
  obtain ⟨honward, hclaimed, hfresh, hexclusive⟩ :=
    oneWay_of_run firstDay hfacade (fun _ => firstServices) run_firstMoves hlate
  obtain ⟨sim, hsim⟩ : ∃ sim, (Stock.claim ⟨1, "P"⟩).run.Returned (rushed.turnsOf 6) (.ok sim) :=
    Flow.exists_returned_ok (by decide +kernel)
  have hclaims : rushed.Claims firstDay 6 sim := ⟨⟨1, "P"⟩, "4790", rfl, hsim⟩
  exact ⟨run_firstMoves, hlate, by decide +kernel, ⟨sim, hclaims, hfresh 6 sim hclaims⟩, honward⟩

end SimDepot
