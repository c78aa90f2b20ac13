import SimDepot.Proofs.Claim.Contest
import SimDepot.Proofs.Handout.Notice
import SimDepot.Proofs.Lifecycle.Calls

/-!
# What handing out records

A session that hands a SIM out, or takes one out of service, tells one registry of one SIM at most,
and if the registry carries that out, the session records it, once. Meanwhile other sessions may
tell registries and record what they like. `MirrorLaw` is what all keep: of every SIM is stored what
was recorded last.
-/

namespace SimDepot

/-- The operation hands a SIM out, or takes it out of service. -/
def Operation.isHandout : Operation → Bool
  | allocate .. | activate .. | suspend _ => true
  | _ => false

/-- What a SIM keeps as long as it is stored. -/
structure Card where
  /-- Its identity. -/
  id : SimId
  /-- Its pool. -/
  pool : Pool
  /-- Its card number. -/
  iccid : String
  deriving DecidableEq, Repr

/-- The card of a SIM. -/
def Sim.card (r : Sim) : Card := ⟨r.id, r.pool, r.iccid⟩

@[simp] theorem Sim.card_change (r : Sim) (change : SimChange) :
    (r.change change).card = r.card := by
  have hpool : (r.change change).pool = r.pool := SimChange.pool_apply r.toSimData change
  have hiccid : (r.change change).iccid = r.iccid := SimChange.iccid_apply r.toSimData change
  rw [card, card, Sim.id_change, hpool, hiccid]

theorem Sim.notice_eq_of_card {r r' : Sim} (h : r.card = r'.card) (state : RegistryState) :
    r.notice state = r'.notice state := by
  simp only [card, Card.mk.injEq, SimData.pool, Pool.mk.injEq] at h
  rw [notice, notice, h.2.1.1, h.2.2]

namespace Store

variable {s : Store}

/-- The cards of the SIMs that are stored. -/
def cards (s : Store) : List (Card) := s.sims.rows.map Sim.card

theorem card_mem {r : Sim} (hr : r ∈ s.sims.rows) : r.card ∈ s.cards := List.mem_map_of_mem hr

/-- No two cards share an identity. -/
theorem card_inj {c c' : Card} (hc : c ∈ s.cards) (hc' : c' ∈ s.cards)
    (h : c.id = c'.id) : c = c' := by
  obtain ⟨r, hr, rfl⟩ := List.mem_map.1 hc
  obtain ⟨r', hr', rfl⟩ := List.mem_map.1 hc'
  rw [Table.id_inj hr hr' h]

/-- No two SIMs share a card number. -/
theorem eq_of_iccid {r r' : Sim} (hr : r ∈ s.sims.rows) (hr' : r' ∈ s.sims.rows)
    (h : r.iccid = r'.iccid) : r = r' :=
  Table.eq_of_uniqueText hr hr' rfl (congrArg some h.symm)

theorem cards_changeSim (s : Store) (id : SimId) (change : SimChange) :
    (s.changeSim id change).1.cards = s.cards := by
  rw [cards, rows_changeSim, List.map_map]
  refine List.map_congr_left fun r _ => ?_
  rw [Function.comp_apply]
  split
  · exact r.card_change change
  · rfl

end Store

section Law

variable {ι : Type} {s s' : Store} {h : Chronicle ι} {i : ι}

/-- From the store `s` on, the SIMs stay and stay released, and of each is stored what was recorded
last. -/
structure MirrorLaw (s : Store) (h : Chronicle ι) : Prop where
  /-- The SIMs stay. -/
  cards : h.store.cards = s.cards
  /-- They stay released. -/
  released : ∀ r ∈ h.store.sims.rows, r.vendorState = .released
  /-- What is stored was recorded last. -/
  recorded : ∀ r ∈ h.store.sims.rows, r.registryState = .lastOf (h.recordsAbout r.id)

namespace MirrorLaw

/-- What a request has to keep. -/
theorem note (hlaw : MirrorLaw s h) {turn : Turn} (hcards : s'.cards = h.store.cards)
    (hreleased : ∀ r ∈ s'.sims.rows, r.vendorState = .released)
    (hkept : ∀ r ∈ s'.sims.rows,
      (⟨i, turn, h.store, s'⟩ : Deed ι).record?.bind (·.about r.id) = none →
        ∃ r₀ ∈ h.store.sims.rows, r₀.id = r.id ∧ r₀.registryState = r.registryState) :
    MirrorLaw s (h.note i turn s') where
  cards := hcards.trans hlaw.cards
  released := hreleased
  recorded r hr := by
    rw [Chronicle.recordsAbout_note, RegistryState.lastOf_append]
    cases hrecord : (⟨i, turn, h.store, s'⟩ : Deed ι).record?.bind (·.about r.id) with
    | none =>
      obtain ⟨r₀, hr₀, hid, hstate⟩ := hkept r hr hrecord
      rw [Option.getD_none, ← hstate, ← hid]
      exact hlaw.recorded r₀ hr₀
    | some state =>
      -- What was recorded just now is what lasts.
      obtain ⟨record, hsome, habout⟩ := Option.bind_eq_some_iff.1 hrecord
      simp only [StateRecord.about, Option.ite_none_right_eq_some, Option.some.injEq] at habout
      obtain ⟨r', hr', hid, hstate⟩ :=
        Store.registryStateOf_eq_some_iff.1 (Deed.registryStateOf_of_record hsome)
      rw [Table.id_inj hr hr' (habout.1.symm.trans hid.symm), hstate]
      exact habout.2

/-- A request that leaves the store as it is. -/
theorem note_still (hlaw : MirrorLaw s h) (turn : Turn) : MirrorLaw s (h.note i turn h.store) :=
  hlaw.note rfl hlaw.released fun r hr _ => ⟨r, hr, rfl, rfl⟩

theorem quiet (i : ι) : Quiet i (MirrorLaw s) := fun _ turn hlaw => hlaw.note_still turn

/-- A card that is stored at first is stored later. -/
theorem exists_row (hlaw : MirrorLaw s h) {c : Card} (hc : c ∈ s.cards) :
    ∃ r ∈ h.store.sims.rows, r.card = c := by
  rw [← hlaw.cards] at hc
  exact List.mem_map.1 hc

theorem card_of_mem (hlaw : MirrorLaw s h) {r : Sim} (hr : r ∈ h.store.sims.rows) :
    r.card ∈ s.cards := hlaw.cards ▸ Store.card_mem hr

/-- What is stored under the identity of a card is the SIM with this card. -/
theorem card_eq (hlaw : MirrorLaw s h) {c : Card} (hc : c ∈ s.cards) {r : Sim}
    (hr : r ∈ h.store.sims.rows) (hid : r.id = c.id) : r.card = c :=
  Store.card_inj (hlaw.card_of_mem hr) hc hid

/-- A change that keeps SIMs released, whether it lasts at once or with its transaction, is within
the law when it keeps what registries know, or when it is recorded. -/
theorem note_change (hlaw : MirrorLaw s h) {turn : Turn} {id : SimId} {change : SimChange}
    (hvendor : ∀ r : Sim, (r.change change).vendorState = r.vendorState)
    (hs' : s' = (h.store.changeSim id change).1)
    (hrecord : change.registryState? = none ∨
      turn = ⟨.write (.changeSim id change), .ok (h.store.changeSim id change).2⟩) :
    MirrorLaw s (h.note i turn s') := by
  have hrows : ∀ r ∈ s'.sims.rows, ∃ r₀ ∈ h.store.sims.rows,
      r = if r₀.id = id ∧ change.admits r₀.toSimData then r₀.change change else r₀ := by
    intro r hr
    rw [hs', Store.rows_changeSim, List.mem_map] at hr
    obtain ⟨r₀, hr₀, rfl⟩ := hr
    exact ⟨r₀, hr₀, rfl⟩
  refine hlaw.note (by rw [hs', Store.cards_changeSim]) (fun r hr => ?_) fun r hr hnone => ?_
  · obtain ⟨r₀, hr₀, rfl⟩ := hrows r hr
    split
    · exact (hvendor r₀).trans (hlaw.released r₀ hr₀)
    · exact hlaw.released r₀ hr₀
  · obtain ⟨r₀, hr₀, hr₀r⟩ := hrows r hr
    by_cases hchange : r₀.id = id ∧ change.admits r₀.toSimData
    · obtain ⟨rfl, hadmits⟩ := hchange
      rw [if_pos ⟨rfl, hadmits⟩] at hr₀r
      subst hr₀r
      have hsilent : change.registryState? = none := by
        rcases hrecord with hnot | rfl
        · exact hnot
        · -- The deed would have recorded a state of this SIM.
          rw [hs', Deed.record?_changeSim hr₀ hadmits] at hnone
          cases hsome : change.registryState? with
          | none => rfl
          | some state =>
            rw [hsome, Option.map_some, Option.bind_some, Sim.id_change,
              StateRecord.about_self] at hnone
            cases hnone
      refine ⟨r₀, hr₀, rfl, ((change.registryState_apply r₀.toSimData).trans ?_).symm⟩
      rw [hsilent, Option.getD_none]
    · rw [if_neg hchange] at hr₀r
      exact ⟨r₀, hr₀, by rw [hr₀r], by rw [hr₀r]⟩

end MirrorLaw

end Law

section Sessions

open SimDepot.Action

variable {ι : Type} [DecidableEq ι] {s s' : Store} {h h' : Chronicle ι} {i : ι}
  {notices : List Notice} {records : List StateRecord} {c : Card}

/-- Session `i` has told registries these notices and recorded these states. -/
structure Told (s : Store) (i : ι) (notices : List Notice) (records : List StateRecord)
    (h : Chronicle ι) : Prop where
  /-- The law holds. -/
  lawful : MirrorLaw s h
  /-- What the session told registries. -/
  notices_eq : h.noticesOf i = notices
  /-- What it recorded. -/
  records_eq : h.recordsOf i = records

namespace Told

theorem drift (ht : Told s i notices records h) {st : Standing}
    (hd : Drift i (MirrorLaw s) st h h') : Told s i notices records h' where
  lawful := hd.lawful ht.lawful
  notices_eq := by rw [Chronicle.noticesOf, hd.deedsOf_eq, ← Chronicle.noticesOf, ht.notices_eq]
  records_eq := by rw [Chronicle.recordsOf, hd.deedsOf_eq, ← Chronicle.recordsOf, ht.records_eq]

theorem note (ht : Told s i notices records h) {turn : Turn}
    (hlaw : MirrorLaw s (h.note i turn s')) :
    Told s i (notices ++ turn.notice?.toList)
      (records ++ (⟨i, turn, h.store, s'⟩ : Deed ι).record?.toList) (h.note i turn s') where
  lawful := hlaw
  notices_eq := by rw [Chronicle.noticesOf_note, ht.notices_eq]
  records_eq := by rw [Chronicle.recordsOf_note, ht.records_eq]

/-- A request that changes nothing and records nothing. -/
theorem note_still (ht : Told s i notices records h) (turn : Turn)
    (hturn : (⟨i, turn, h.store, h.store⟩ : Deed ι).record? = none) :
    Told s i (notices ++ turn.notice?.toList) records (h.note i turn h.store) := by
  have hnote := ht.note (ht.lawful.note_still turn)
  rwa [hturn, Option.toList_none, List.append_nil] at hnote

/-- A silent request that changes nothing. -/
theorem note_silent (ht : Told s i notices records h) (turn : Turn)
    (hturn : turn.request.isSilent) : Told s i notices records (h.note i turn h.store) := by
  have hnote := ht.note_still turn (Deed.record?_of_isSilent hturn)
  rwa [Turn.notice?_of_isSilent hturn, Option.toList_none, List.append_nil] at hnote

/-- An update of a SIM that every released SIM admits is made, and what it records is recorded. -/
theorem abides_update (ht : Told s i notices records h) (hc : c ∈ s.cards) {change : SimChange}
    (hadmits : ∀ r : Sim, r.vendorState = .released → change.admits r.toSimData)
    (hvendor : ∀ r : Sim, (r.change change).vendorState = r.vendorState) :
    Action.Abides i (MirrorLaw s) False
      (fun sim st h => st = .outside ∧ sim.card = c ∧
        Told s i notices (records ++ (change.registryState?.map (⟨c.id, ·⟩)).toList) h)
      (fun _ _ _ => False) (Stock.update c.id change) .outside h := by
  refine abides_update_turn (P := fun n h => n = 1 ∧
      Told s i notices (records ++ (change.registryState?.map (⟨c.id, ·⟩)).toList) h)
    (fun h₁ s₁ n hd hchange => ?_) (fun n h₁ h₂ hmid hd => ⟨hmid.1, hmid.2.drift hd⟩)
    (fun n h₁ hmid => ?_) fun n h₁ sim hmid hsim hid => ?_
  · have ht₁ := ht.drift hd
    obtain ⟨r, hr, rfl⟩ := ht₁.lawful.exists_row hc
    have hr' := hadmits r (ht₁.lawful.released r hr)
    obtain ⟨rfl, rfl⟩ := Prod.mk.inj hchange.symm
    have hlaw : MirrorLaw s (h₁.note i ⟨.write (.changeSim r.card.id change), .ok _⟩ _) :=
      ht₁.lawful.note_change hvendor rfl (.inr rfl)
    have hnote := ht₁.note hlaw
    rw [show Turn.notice? _ = none from rfl, Option.toList_none, List.append_nil] at hnote
    refine ⟨hlaw, Store.changeSim_eq_one_iff.2 ⟨r, hr, rfl, hr'⟩, ?_⟩
    rwa [show r.card.id = r.id from rfl, Deed.record?_changeSim hr hr'] at hnote
  · obtain ⟨r, hr, rfl⟩ := hmid.2.lawful.exists_row hc
    exact ⟨r, hr, rfl⟩
  · obtain ⟨rfl, ht₁⟩ := hmid
    have hnote := ht₁.note_silent ⟨.read (.sim (.withId c.id)), .ok (some sim)⟩ rfl
    exact ⟨hnote.lawful, fun h => absurd h Nat.one_ne_zero,
      fun _ => ⟨rfl, ht₁.lawful.card_eq hc hsim hid, hnote⟩⟩

end Told

/-- Session `i` has recorded exactly what it told: nothing, or one state of one SIM. -/
inductive Settled (s : Store) (i : ι) (h : Chronicle ι) : Prop
  /-- It told no registry anything. -/
  | silent (ht : Told s i [] [] h)
  /-- It told the registry of the SIM `r` about it. -/
  | told (r : Sim) (hr : r ∈ s.sims.rows) (state : RegistryState)
    (ht : Told s i [r.notice state] [⟨r.id, state⟩] h)

theorem Settled.drift (hs : Settled s i h) {st : Standing} (hd : Drift i (MirrorLaw s) st h h') :
    Settled s i h' := by
  cases hs with
  | silent ht => exact .silent (ht.drift hd)
  | told r hr state ht => exact .told r hr state (ht.drift hd)

/-- Session `i` is done with what it had to do. -/
abbrev AbidesSettled (s : Store) (i : ι) {α : Type} (x : Action α) (h : Chronicle ι) : Prop :=
  Action.Abides i (MirrorLaw s) False (fun _ _ h => Settled s i h) (fun _ _ h => Settled s i h) x
    .outside h

namespace Told

/-- What a registry was told is recorded. -/
theorem abides_record {sim : Sim} {change : SimChange} {state : RegistryState}
    (ht : Told s i [sim.notice state] [] h) (hcard : sim.card ∈ s.cards)
    (hstate : change.registryState? = some state)
    (hadmits : ∀ r : Sim, r.vendorState = .released → change.admits r.toSimData)
    (hvendor : ∀ r : Sim, (r.change change).vendorState = r.vendorState) :
    AbidesSettled s i (Stock.update sim.id change) h := by
  refine (ht.abides_update (c := sim.card) hcard hadmits hvendor).mono
    (fun _ _ h ⟨_, _, ht⟩ => ?_) fun _ _ _ => False.elim
  obtain ⟨r, hr, hr_card⟩ := List.mem_map.1 hcard
  have hid : r.id = sim.id := congrArg Card.id hr_card
  rw [hstate, Option.map_some, Option.toList_some, List.nil_append,
    ← Sim.notice_eq_of_card hr_card] at ht
  refine .told r hr state ?_
  rw [hid]
  exact ht

/-- A registry is told that a SIM is live, and this is recorded. -/
theorem abides_activated (ht : Told s i [] [] h) {sim : Sim} (hcard : sim.card ∈ s.cards)
    {msisdn : String} {bindings : Bindings} :
    AbidesSettled s i (do
      Action.activate sim.registryId sim.iccid msisdn
      let activated ← Stock.setRegistryState sim.id .activated
      return SimDetails.describe bindings activated) h := by
  refine abides_bind (abides_activate_turn (fun h' res hd => (ht.drift hd).lawful.note_still _)
    (fun h' a hd => ?_) fun h' e hd =>
      .silent ((ht.drift hd).note_still ⟨.activate sim.registryId sim.iccid msisdn, .error e⟩ rfl))
  have htold := (ht.drift hd).note_still ⟨.activate sim.registryId sim.iccid msisdn, .ok a⟩ rfl
  refine abides_bind ((htold.abides_record hcard rfl (fun r hr => ?_) fun _ => rfl).mono
    (fun _ _ _ hs => abides_pure hs) fun _ _ _ hs => hs)
  simp [SimChange.admits, hr]

/-- A SIM that was found is activated, unless something stands against it. -/
theorem abides_activateFound (ht : Told s i [] [] h) {sim : Sim} (hcard : sim.card ∈ s.cards)
    {bindings : Bindings} {registry : RegistryId} {iccid : String} {msisdn : Option String} :
    AbidesSettled s i (Handout.activateFound bindings registry iccid msisdn sim) h := by
  have hnot : ∀ e, AbidesSettled s i (throw e : Action SimDetails) h :=
    fun _ => abides_throw (.silent ht)
  refine abides_ite (fun _ => hnot _) fun hregistry => abides_ite (fun _ => hnot _) fun _ =>
    abides_ite (fun _ => hnot _) fun _ => abides_bind (abides_expect (fun msisdn _ => ?_)
      fun _ => .silent ht)
  obtain rfl := Decidable.of_not_not hregistry
  refine abides_bind (abides_bind (abides_expect (fun _ _ => abides_pure ?_) fun _ => .silent ht))
  refine abides_ite (fun _ => ?_) fun _ => ht.abides_activated hcard
  refine abides_bind ((ht.abides_update (c := sim.card) hcard (fun _ _ => rfl) fun _ => rfl).mono
    (fun _ st h' hset => ?_) fun _ _ _ => False.elim)
  obtain ⟨rfl, -, ht'⟩ := hset
  exact ht'.abides_activated hcard

/-- A SIM that was found is suspended: its registry is told, and this is recorded. -/
theorem abides_suspended (ht : Told s i [] [] h) {sim : Sim} (hcard : sim.card ∈ s.cards)
    {bindings : Bindings} :
    AbidesSettled s i (do
      Action.suspend sim.registryId sim.iccid
      let suspended ← Stock.markSuspended sim.id
      return SimDetails.describe bindings suspended) h := by
  refine abides_bind (abides_suspend_turn (fun h' res hd => (ht.drift hd).lawful.note_still _)
    (fun h' a hd => ?_) fun h' e hd =>
      .silent ((ht.drift hd).note_still ⟨.suspend sim.registryId sim.iccid, .error e⟩ rfl))
  have htold := (ht.drift hd).note_still ⟨.suspend sim.registryId sim.iccid, .ok a⟩ rfl
  refine abides_bind (abides_bind (abides_now_turn fun h'' t hd' => ?_))
  have htold' := (htold.drift hd').note_silent ⟨.now, t⟩ rfl
  refine ⟨htold'.lawful, (htold'.abides_record hcard rfl (fun _ _ => rfl) fun _ => rfl).mono
    (fun _ _ _ hs => abides_pure hs) fun _ _ _ hs => hs⟩

/-- A SIM is looked up by its card number. -/
theorem abides_withIccid {β : Type} (ht : Told s i [] [] h) {iccid : String} {f : Sim → Action β}
    (hf : ∀ sim h', Told s i [] [] h' → sim.card ∈ s.cards → AbidesSettled s i (f sim) h') :
    AbidesSettled s i (Stock.withIccid iccid >>= f) h := by
  refine abides_bind (abides_bind (abides_read_turn fun h' hd => ?_))
  have ht' := ht.drift hd
  have hnote := ht'.note_silent
    ⟨.read (.sim (.withIccid iccid)), .ok (Query.eval h'.store _)⟩ rfl
  refine ⟨hnote.lawful, abides_expect (fun sim hsim => hf sim _ hnote ?_) fun _ => .silent hnote⟩
  exact ht'.lawful.card_of_mem (List.mem_of_find?_eq_some hsim)

end Told

/-- A claim is silent. -/
theorem asks_claim (pool : Pool) : Asks (fun r => r.isSilent) (Stock.claim pool) := by
  refine Stock.asks_claim fun r hcall hwrite => ?_
  cases r with
  | write c =>
    obtain ⟨id, rfl⟩ := hwrite c rfl
    rfl
  | activate _ _ _ | suspend _ _ => cases hcall
  | _ => rfl

omit [DecidableEq ι] in
/-- Claims are within the law, and what they return is a SIM of the pool. -/
theorem contest_mirror (s : Store) (pool : Pool) (i : ι) :
    Stock.Contest pool i (MirrorLaw s) False (fun _ h => MirrorLaw s h)
      (fun res h => MirrorLaw s h ∧ ∀ sim, res = .ok sim → sim.card ∈ s.cards ∧ sim.pool = pool)
      where
  quiet := MirrorLaw.quiet i
  lawful hlaw := hlaw
  keep hlaw hm := hm.lawful hlaw
  claimed := by
    intro n h h₁ h₂ c r hlaw hchosen hm hr hid hready
    have hlaw₁ := hchosen.meantime.lawful hlaw
    have hlaw₂ := hm.lawful hlaw₁
    have hlaw' : MirrorLaw s (h₂.note i ⟨.commit, .ok ()⟩ (h₂.store.changeSim r.id .claim).1) :=
      hlaw₂.note_change (fun _ => rfl) rfl (.inl rfl)
    refine ⟨hlaw', hlaw', fun sim hsim => ?_⟩
    cases hsim
    rw [Sim.card_change]
    have hcard : r.card = c.card := hlaw₂.card_eq (hlaw₁.card_of_mem hchosen.mem) hr hid
    exact ⟨hlaw₂.card_of_mem hr, (congrArg Card.pool hcard).trans hchosen.pool_eq⟩
  lost hlaw hchosen hm _ := hm.lawful (hchosen.meantime.lawful hlaw)
  nothingReady hlaw _ hm := ⟨hm.lawful hlaw, by simp⟩
  again := False.elim
  failed := False.elim
  givenUp hlaw := ⟨hlaw, by simp⟩

/-- A claim that succeeds returns a SIM of the pool; neither way has the session told anybody. -/
theorem Told.abides_claim (ht : Told s i [] [] h) (pool : Pool) :
    Action.Abides i (MirrorLaw s) False
      (fun sim st h => st = .outside ∧ (sim.card ∈ s.cards ∧ sim.pool = pool) ∧ Told s i [] [] h)
      (fun _ _ h => Told s i [] [] h) (Stock.claim pool) .outside h := by
  have hclaim := (contest_mirror s pool i).abides_claim ht.lawful
  have hnone : ∃ new : List (Deed ι), h.deedsOf i = h.deedsOf i ++ new ∧
      ∀ d ∈ new, d.turn.request.isSilent := ⟨[], by simp⟩
  refine Flow.Abides.mono (Flow.Abides.asking hclaim (asks_claim pool) hnone)
    fun res st h' ⟨hres, hnew⟩ => ?_
  obtain ⟨hnotices, hrecords⟩ := Chronicle.noticesOf_of_silent hnew
  cases res with
  | ok sim =>
    obtain ⟨rfl, hlaw, hsim⟩ := hres
    exact ⟨rfl, hsim sim rfl, hlaw, hnotices.trans ht.notices_eq, hrecords.trans ht.records_eq⟩
  | error e => exact ⟨hres.2.1, hnotices.trans ht.notices_eq, hrecords.trans ht.records_eq⟩

theorem Told.abides_allocate (ht : Told s i [] [] h) {bindings : Bindings} {pool : Pool}
    {msisdn : String} : AbidesSettled s i (Handout.allocate bindings pool msisdn) h := by
  rcases Handout.allocate_cases bindings pool msisdn with ⟨e, he⟩ | hclaim
  · rw [he]
    exact abides_throw (.silent ht)
  · rw [hclaim]
    refine abides_bind ((ht.abides_claim pool).mono ?_ fun _ _ _ => .silent)
    rintro claimed st h₁ ⟨rfl, ⟨hcard, rfl⟩, ht₁⟩
    refine abides_bind ((ht₁.abides_update (c := claimed.card) hcard (fun _ _ => rfl)
      fun _ => rfl).mono ?_ fun _ _ _ => False.elim)
    rintro sim st h₂ ⟨rfl, hsim, ht₂⟩
    have hregistry : sim.registryId = claimed.pool.registry :=
      congrArg (fun c : Card => c.pool.registry) hsim
    rw [← hregistry]
    exact ht₂.abides_activated (hsim ▸ hcard)

/-- Every operation that hands out records exactly what it tells. -/
theorem abides_handout {o : Operation} (ho : o.isHandout) (bindings : Bindings)
    (ht : Told s i [] [] h) : AbidesSettled s i (o.action bindings) h := by
  cases o with
  | allocate pool msisdn => exact ht.abides_allocate
  | activate registry iccid msisdn =>
    exact ht.abides_withIccid fun sim h' ht' hcard => ht'.abides_activateFound hcard
  | suspend iccid =>
    refine ht.abides_withIccid fun sim h' ht' hcard => ?_
    refine abides_bind (abides_bind (abides_expect (fun _ _ => abides_pure ?_)
      fun _ => .silent ht'))
    exact ht'.abides_suspended hcard
  | _ => cases ho

end Sessions

end SimDepot
