import SimDepot.Proofs.Claim.Exhaustion
import SimDepot.Proofs.Lifecycle.Calls
import SimDepot.Proofs.Lifecycle.Order
import SimDepot.Proofs.Session.Midway
import SimDepot.Proofs.Stock.Endurance

/-!
# While a registry is asked

An activation makes sure that its SIM is claimed, calls the registry, and then records that the SIM
is active. While the registry is at work others may do with the SIM what their own guards admit, and
the guard of the record looks at the release only. So the activation leaves the SIM as the others
left it, but for being active: who takes its claim back in the meantime, which is not refused as
long as no activation is recorded, makes of it a live SIM that is ready to use.
-/

namespace SimDepot

open SimDepot.Action

/-- The SIM that the operation reports as active, if it is one that activates. -/
def Operation.activated? : (o : Operation) → o.Value → Option SimDetails
  | allocate _ _, d => some d
  | activate _ _ _, d => some d
  | _, _ => none

namespace Handout

variable {ι : Type} {i : ι} {h : Chronicle ι} {bindings : Bindings}

/-- The SIM of `d` is stored in `s` as it was `left`, but for being active. -/
structure Recorded (left : Sim) (d : SimDetails) (s : Store) : Prop where
  /-- Its profile is released. -/
  released : left.vendorState = .released
  /-- Nothing else has changed. -/
  sim_eq : d.sim = left.change (.setRegistryState .activated)
  /-- It is stored. -/
  mem : d.sim ∈ s.sims.rows

/-- With the request `r` session `i` asks the registry to serve a SIM that is claimed. It asks no
service afterwards, and what it reports as active is the SIM as it is found then. -/
structure AsksForClaimed {α : Type} (i : ι) (active? : α → Option SimDetails) (r : Request)
    (k : r.Answer → Flow (Except Error α)) (st : Standing) (h : Chronicle ι) (asked : Sim) :
    Prop where
  /-- The SIM is stored. -/
  mem : asked ∈ h.store.sims.rows
  /-- Its profile is released. -/
  released : asked.vendorState = .released
  /-- It is claimed. -/
  provisioned : asked.provisionState = .provisioned
  /-- The registry is its own, and the card its card. -/
  request : ∃ msisdn, r = .activate asked.registryId asked.iccid msisdn
  /-- No other call follows. -/
  once : ∀ a, (k a).Asks fun r => r.isCall = false
  /-- The answer is recorded on the SIM as it is by then. -/
  records : ∀ (h' : Chronicle ι) (left : Sim), left ∈ h'.store.sims.rows → left.id = asked.id →
    (Flow.ask r k).Endures i (fun res _ h'' => ∀ v d, res = .ok v → active? v = some d →
      Recorded left d h''.store) st h'

/-- Tells a registry that a SIM is live, and records that it is active. -/
def tell (bindings : Bindings) (registry : RegistryId) (iccid msisdn : String) (id : SimId) :
    Action SimDetails := do
  Action.activate registry iccid msisdn
  let activated ← Stock.setRegistryState id .activated
  return .describe bindings activated

/-- Once the registry accepts, this is recorded on the SIM as it is by then. -/
theorem endures_tell {left : Sim} (hleft : left ∈ h.store.sims.rows) (registry : RegistryId)
    (iccid msisdn : String) : Action.Endures i
      (fun res _ h' => ∀ v d, res = .ok v → some v = some d → Recorded left d h'.store)
      (tell bindings registry iccid msisdn left.id) .outside h := by
  refine endures_bind (endures_activate fun res => ?_)
  cases res with
  | error e => exact fun _ _ h => nomatch h
  | ok _ =>
    refine endures_bind ((Stock.endures_update (h := h.note _ _ _) hleft _).mono ?_)
    rintro (e | sim) st h' hupdated
    · exact fun _ _ h => nomatch h
    · obtain ⟨-, hadmits, rfl, hmem, -⟩ := hupdated sim rfl
      refine endures_pure fun v d hv hd => ?_
      cases hv
      cases hd
      exact ⟨by simpa [SimChange.admits] using hadmits, rfl, hmem⟩

/-- The registry of a SIM that is claimed is told of it. -/
theorem upTo_tell {asked : Sim} (hasked : asked ∈ h.store.sims.rows)
    (hreleased : asked.vendorState = .released) (hprov : asked.provisionState = .provisioned)
    (msisdn : String) :
    Action.UpTo i Request.isCall (fun r k st h => ∃ asked, AsksForClaimed i some r k st h asked)
      (tell bindings asked.registryId asked.iccid msisdn asked.id) .outside h := by
  refine Flow.upTo_ask rfl ⟨asked, hasked, hreleased, hprov, ⟨msisdn, rfl⟩, fun res => ?_,
    fun h' left hleft hid => hid ▸ endures_tell hleft _ _ _⟩
  cases res with
  | error e => trivial
  | ok _ => exact asks_bind (Stock.asks_update fun _ h => h) fun _ => asks_pure

/-- When an allocation comes to its call, it has claimed the SIM that the call is about. -/
theorem upTo_allocate (pool : Pool) (msisdn : String) : Action.UpTo i Request.isCall
    (fun r k st h => ∃ asked, AsksForClaimed i some r k st h asked)
    (allocate bindings pool msisdn) .outside h := by
  rcases allocate_cases bindings pool msisdn with ⟨e, he⟩ | hclaim
  · rw [he]
    exact upTo_throw
  rw [hclaim]
  refine upTo_bind (Stock.asks_claim fun _ hr _ => hr) ((Stock.endures_claim pool).mono ?_)
  rintro res st h₁ ⟨rfl, ⟨c, hc, rfl, hstore⟩ | ⟨hnot, -⟩⟩ sim hsim
  · cases hsim
    have hclaimed : c.change .claim ∈ h₁.store.sims.rows := by
      rw [hstore]
      exact Store.change_mem_changeSim hc.mem hc.ready
    refine upTo_bind (Stock.asks_update fun _ hr => hr)
      ((Stock.endures_update hclaimed (.setMsisdn msisdn)).mono ?_)
    rintro res st h₂ hupdated sim rfl
    obtain ⟨rfl, -, rfl, hmem, -⟩ := hupdated sim rfl
    rw [show pool.registry = c.registryId from congrArg Pool.registry hc.pool_eq.symm]
    exact upTo_tell hmem hc.released rfl msisdn
  · exact absurd hsim (hnot sim)

/-- When the activation of a SIM that was found comes to its call, this SIM is claimed. -/
theorem upTo_activateFound {registry : RegistryId} {iccid : String} {msisdn : Option String}
    {sim : Sim} (hsim : sim ∈ h.store.sims.rows) : Action.UpTo i Request.isCall
      (fun r k st h => ∃ asked, AsksForClaimed i some r k st h asked)
      (activateFound bindings registry iccid msisdn sim) .outside h := by
  refine upTo_ite (fun _ => upTo_throw) fun hregistry => upTo_ite (fun _ => upTo_throw)
    fun hreleased => upTo_ite (fun _ => upTo_throw) fun hprov => upTo_expect fun number hnumber => ?_
  obtain rfl : sim.registryId = registry := Decidable.of_not_not hregistry
  have hreleased := Decidable.of_not_not hreleased
  have hprov := Decidable.of_not_not hprov
  refine upTo_bind (asks_bind asks_expect fun _ => asks_pure)
    (endures_bind (endures_expect (fun _ _ => endures_pure fun _ _ => ?_) fun _ _ h => nomatch h))
  refine upTo_ite (fun _ => upTo_bind (Stock.asks_update fun _ hr => hr)
    ((Stock.endures_update hsim (.setMsisdn number)).mono ?_))
    fun _ => upTo_tell hsim hreleased hprov number
  rintro res st h₁ hupdated sim' rfl
  obtain ⟨rfl, -, rfl, hmem, -⟩ := hupdated sim' rfl
  exact upTo_tell hmem hreleased hprov number

theorem upTo_activate (registry : RegistryId) (iccid : String) (msisdn : Option String) :
    Action.UpTo i Request.isCall (fun r k st h => ∃ asked, AsksForClaimed i some r k st h asked)
      (activate bindings registry iccid msisdn) .outside h := by
  refine upTo_bind (Stock.asks_find fun _ hr => hr) (endures_bind (endures_read (endures_expect
    (fun sim hfind => ?_) fun _ _ h => nomatch h) fun _ _ h => nomatch h))
  rintro sim' ⟨⟩
  exact upTo_activateFound (List.mem_of_find?_eq_some hfind)

end Handout

/-- When an operation that activates comes to its call, the SIM that the call is about is claimed. -/
theorem Operation.upTo_call {ι : Type} (i : ι) (o : Operation) (bindings : Bindings)
    {v : o.Value} {d : SimDetails} (hv : o.activated? v = some d) (h : Chronicle ι) :
    Action.UpTo i Request.isCall
      (fun r k st h => ∃ asked, Handout.AsksForClaimed i o.activated? r k st h asked)
      (o.action bindings) .outside h := by
  cases o with
  | allocate pool msisdn => exact Handout.upTo_allocate pool msisdn
  | activate registry iccid msisdn => exact Handout.upTo_activate registry iccid msisdn
  | _ => cases hv

/-! ## What others do -/

/-- A SIM stays, and if it is the SIM `id` it keeps its claim unless this is `freed`. -/
structure Sim.Keeps (id : SimId) (freed : Prop) (r r' : Sim) : Prop where
  /-- Its identity stays. -/
  id_eq : r'.id = r.id
  /-- It stays claimed. -/
  claim : ¬ freed → r.id = id → r.provisionState = .provisioned → r'.provisionState = .provisioned

namespace Sim.Keeps

variable {id : SimId} {freed : Prop}

theorem refl (r : Sim) : r.Keeps id freed r := ⟨rfl, fun _ _ h => h⟩

theorem trans {a b c : Sim} (h : a.Keeps id freed b) (h' : b.Keeps id freed c) :
    a.Keeps id freed c where
  id_eq := h'.id_eq.trans h.id_eq
  claim hfreed hid hprov := h'.claim hfreed (h.id_eq.trans hid) (h.claim hfreed hid hprov)

end Sim.Keeps

/-- No SIM disappears, and the SIM `id` keeps its claim unless this is `freed`. -/
def keepingClaim (id : SimId) (freed : Prop) : Discipline :=
  .ofRows (fun _ => True) (Sim.Keeps id freed) Sim.Keeps.refl Sim.Keeps.trans

/-- Only a change that makes a SIM available again gives up its claim. -/
theorem SimData.provisioned_apply {s : SimData} (hs : s.provisionState = .provisioned)
    {change : SimChange} (hchange : change ≠ .setProvisionState .available) :
    (change.apply s).provisionState = .provisioned := by
  cases change with
  | setRegistryState state => cases state <;> exact hs
  | setVendorState state => cases state <;> exact hs
  | setProvisionState state =>
    cases state with
    | available => exact absurd rfl hchange
    | provisioned => rfl
  | claim => rfl
  | setEid _ | setMsisdn _ | suspend _ | release _ => exact hs

theorem keeps_keepingClaim {id : SimId} {freed : Prop} {c : Command}
    (hc : c = .changeSim id (.setProvisionState .available) → freed) :
    (keepingClaim id freed).Keeps (fun _ => True) c := by
  refine Discipline.keeps_ofRows (fun s r change _ hchange _ _ _ => ⟨trivial, rfl, ?_⟩)
    fun _ _ _ _ _ _ => trivial
  rintro hfreed rfl hprov
  refine SimData.provisioned_apply hprov fun hfree => hfreed (hc ?_)
  rw [hchange, hfree]

theorem Operation.exists_of_changes_setProvisionState {o : Operation} {state : ProvisionState}
    (h : o.changes (.setProvisionState state)) : ∃ id state', o = .setProvisionState id state' := by
  cases o with
  | setProvisionState id state' => exact ⟨id, state', rfl⟩
  | _ => cases h

/-- An operation lets a SIM keep its claim unless it is the one that gives up this claim. -/
theorem Operation.issues_keepingClaim (o : Operation) (bindings : Bindings) {id : SimId}
    {freed : Prop} (ho : o = .setProvisionState id .available → freed) :
    Issues ((keepingClaim id freed).Keeps fun _ => True) false (o.action bindings) := by
  by_cases hset : ∃ id' state, o = .setProvisionState id' state
  · obtain ⟨id', state, rfl⟩ := hset
    refine Stock.issues_update (keeps_keepingClaim fun h => ho ?_)
    cases h
    rfl
  · refine o.issues_action (fun c _ hc => keeps_keepingClaim fun h => absurd h (hc _ _))
      fun id' change hchange => keeps_keepingClaim fun h => ?_
    cases h
    exact absurd (exists_of_changes_setProvisionState hchange) hset

/-! ## Whatever others do -/

section Runs

variable {ι : Type} [DecidableEq ι]

/-- From one time of a run to a later one a SIM is stored, and keeps its claim unless some operation
gives it up. -/
theorem exists_keptClaim {s : Store} {ops : ι → Operation} {bindings : ι → Bindings}
    {early late : List (Move ι)} {w₁ w₂ : World fun i => Except Error (ops i).Value}
    (hearly : (World.start s fun i => ((ops i).action (bindings i)).run).run early = some w₁)
    (hlate : w₁.run late = some w₂) {r : Sim} (hr : r ∈ w₁.store.sims.rows) :
    ∃ r' ∈ w₂.store.sims.rows, r'.id = r.id ∧
      ((∀ j, ops j ≠ .setProvisionState r.id .available) → r.provisionState = .provisioned →
        r'.provisionState = .provisioned) := by
  have hstart : (World.start s fun i => ((ops i).action (bindings i)).run).Orderly
      (keepingClaim r.id (∃ j, ops j = .setProvisionState r.id .available)).law True
      fun _ _ st _ => st.isOpen = false :=
    Discipline.orderly_start (fun _ _ => trivial) fun i =>
      (ops i).issues_keepingClaim (bindings i) fun h => ⟨i, h⟩
  have hend := hstart.run (fun _ _ _ => trivial) (World.run_append hearly hlate)
  obtain ⟨r', hr', hid, hkept⟩ :=
    Discipline.rel_of_extends (World.extends_of_run hlate) hend.lawful r hr
  exact ⟨r', hr', hid, fun hnone => hkept (fun ⟨j, hj⟩ => hnone j hj) rfl⟩

/-- On any store, an operation that activates a SIM, and any operations of others that come to pass
while the registry is asked, whatever fails and whichever of their processes die. When the registry
is asked, the SIM is released and claimed. If the operation reports a SIM as active in the end, then
it is this one, stored as the others left it when the answer came, but for being active. So it is
ready to use, though it is live, exactly when it is not claimed by then; which takes another session
that gives up its claim. -/
theorem activated_as_left_of_run (s : Store) (ops : ι → Operation) (bindings : ι → Bindings)
    {i : ι} {early late : List Cue} {between : List (Move ι)}
    (hothers : ∀ m ∈ between, m.session ≠ i)
    {w₁ w₂ w : World fun i => Except Error (ops i).Value}
    (hearly : (World.start s fun i => ((ops i).action (bindings i)).run).run
      (early.map (.turn i)) = some w₁)
    {r : Request} (hnext : (w₁.rest i).next? = some r) (hcall : r.isCall)
    (hbetween : w₁.run between = some w₂) (hlate : w₂.run (late.map (.turn i)) = some w)
    {v : (ops i).Value} (hdone : w.rest i = .done (.ok v)) {d : SimDetails}
    (hactive : (ops i).activated? v = some d) :
    ∃ asked ∈ w₁.store.sims.rows, ∃ left ∈ w₂.store.sims.rows,
      asked.id = d.sim.id ∧ left.id = d.sim.id ∧
      asked.vendorState = .released ∧ asked.provisionState = .provisioned ∧
      (∃ msisdn, r = .activate asked.registryId asked.iccid msisdn) ∧
      d.sim ∈ w.store.sims.rows ∧ d.sim = left.change (.setRegistryState .activated) ∧
      d.sim.registryState = .activated ∧ d.sim.vendorState = .released ∧
      (d.sim.isReady ↔ left.provisionState = .available) ∧
      ((∀ j, ops j ≠ .setProvisionState d.sim.id .available) →
        d.sim.provisionState = .provisioned) := by
  obtain ⟨k, hask⟩ := Flow.exists_eq_ask hnext
  have hupTo := Operation.upTo_call i (ops i) (bindings i) hactive (.start s)
  obtain ⟨asked, hasked⟩ := World.upTo_of_run
    (w := World.start s fun i => ((ops i).action (bindings i)).run)
    (fun _ _ _ _ ⟨_, h⟩ => h.once) hupTo hearly hask hcall
  obtain ⟨left, hleft, hid, hkept⟩ := exists_keptClaim hearly hbetween hasked.mem
  obtain ⟨hrest, hstanding⟩ := World.stays_of_run hothers hbetween
  have hrecords := hasked.records w₂.toChronicle left hleft hid
  rw [← hask, ← hrest, ← hstanding] at hrecords
  have hend := World.endures_of_run hrecords hlate
  rw [hdone] at hend
  obtain ⟨hreleased, hsim, hmem⟩ := hend v d rfl hactive
  have hdid : d.sim.id = left.id := by rw [hsim]; rfl
  have hready : d.sim.isReady ↔ left.provisionState = .available := by
    rw [hsim]
    simp [SimData.isReady, SimChange.apply, hreleased]
  refine ⟨asked, hasked.mem, left, hleft, (hdid.trans hid).symm, hdid.symm, hasked.released,
    hasked.provisioned, hasked.request, hmem, hsim, ?_, ?_, hready, fun hnone => ?_⟩
  · rw [hsim]; rfl
  · rw [hsim]; exact hreleased
  · rw [hsim]
    rw [hdid, hid] at hnone
    exact hkept hnone hasked.provisioned

end Runs

/-! ### A claim that is given up -/

/-- A SIM is handed out, and somebody gives up its claim. -/
def givingUp : Bool → Operation
  | false => .allocate ⟨1, "P"⟩ "4790"
  | true => .setProvisionState 1 .available

/-- The depot when both begin. -/
def givingUpStart : World fun i => Except Error (givingUp i).Value :=
  .start oneReady fun i => ((givingUp i).action firstServices).run

/-- The depot when the registry is asked. -/
def registryAsked : World fun i => Except Error (givingUp i).Value :=
  (givingUpStart.run ((List.replicate 7 .plain).map (.turn false))).get (by decide +kernel)

/-- The depot when the claim was given up. -/
def claimGivenUp : World fun i => Except Error (givingUp i).Value :=
  (registryAsked.run [.turn true .plain, .turn true .plain]).get (by decide +kernel)

/-- The depot when the registry has answered, and this is recorded. -/
def answeredLate : World fun i => Except Error (givingUp i).Value :=
  (claimGivenUp.run ([.call (.ok ()), .plain, .plain].map (.turn false))).get (by decide +kernel)

/-- The SIM is live, and ready to be handed out again. -/
theorem live_and_ready_of_claimGivenUp :
    givingUpStart.run ((List.replicate 7 .plain).map (.turn false)) = some registryAsked ∧
      registryAsked.run [.turn true .plain, .turn true .plain] = some claimGivenUp ∧
      claimGivenUp.run ([.call (.ok ()), .plain, .plain].map (.turn false)) = some answeredLate ∧
      ∃ d : SimDetails, answeredLate.rest false = .done (.ok d) ∧
        d.sim ∈ answeredLate.store.sims.rows ∧ d.sim.registryState = .activated ∧ d.sim.isReady := by
  have hearly : givingUpStart.run ((List.replicate 7 .plain).map (.turn false)) =
      some registryAsked := (Option.some_get _).symm
  have hbetween : registryAsked.run [.turn true .plain, .turn true .plain] = some claimGivenUp :=
    (Option.some_get _).symm
  have hlate : claimGivenUp.run ([.call (.ok ()), .plain, .plain].map (.turn false)) =
      some answeredLate := (Option.some_get _).symm
  obtain ⟨d, hd⟩ : ∃ d : SimDetails, answeredLate.rest false = .done (.ok d) :=
    Flow.exists_eq_done_ok (by decide +kernel)
  obtain ⟨-, -, left, hleft, -, -, -, -, -, hmem, -, hactive, -, hready, -⟩ :=
    activated_as_left_of_run oneReady givingUp (fun _ => firstServices) (by decide) hearly
      (r := .activate 1 "8947" "4790") (by decide +kernel) rfl hbetween hlate hd rfl
  have hfree : ∀ r ∈ claimGivenUp.store.sims.rows, r.provisionState = .available := by
    decide +kernel
  exact ⟨hearly, hbetween, hlate, d, hd, hmem, hactive, hready.2 (hfree left hleft)⟩

end SimDepot
