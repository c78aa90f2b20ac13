import SimDepot.Proofs.Session.Turn

/-!
# What registries are told, and what is recorded of it

Handing out tells a registry that a SIM is live, or that it is not, and records in the store what
the registry knows from then on. These are two requests, and others may come between them. A
`Notice` is what a registry service was told and carried out; a `StateRecord` is what a command left
in the store. Both are read off the chronicle: session by session, and for one SIM in the order in
which they came.
-/

namespace SimDepot

/-- The registry state that a change records. -/
def SimChange.registryState? : SimChange → Option RegistryState
  | setRegistryState state => some state
  | suspend _ => some .notActivated
  | _ => none

theorem SimChange.registryState_apply (c : SimChange) (s : SimData) :
    (c.apply s).registryState = c.registryState?.getD s.registryState := by
  cases c with
  | setRegistryState state => cases state <;> rfl
  | setVendorState state => cases state <;> rfl
  | _ => rfl

/-- What a registry service was told of a card, and has carried out. -/
structure Notice where
  /-- The registry. -/
  registry : RegistryId
  /-- The number of the card. -/
  iccid : String
  /-- What the registry knows of the card since then. -/
  state : RegistryState
  deriving DecidableEq, Repr

/-- What a command left in the store of what a registry knows. -/
structure StateRecord where
  /-- The SIM. -/
  sim : SimId
  /-- What is stored of the SIM since then. -/
  state : RegistryState
  deriving DecidableEq, Repr

/-- What a registry is told of a SIM. -/
def Sim.notice (r : Sim) (state : RegistryState) : Notice := ⟨r.registryId, r.iccid, state⟩

/-- The registry state of the SIM with an identity. -/
def Store.registryStateOf (s : Store) (id : SimId) : Option RegistryState :=
  (s.sims.withId? id).map (·.registryState)

theorem Store.registryStateOf_eq_some_iff {s : Store} {id : SimId} {state : RegistryState} :
    s.registryStateOf id = some state ↔
      ∃ r ∈ s.sims.rows, r.id = id ∧ r.registryState = state := by
  rw [registryStateOf, Option.map_eq_some_iff]
  simp only [Table.withId?_eq_some_iff, and_assoc]
  rfl

/-- What a registry service was told by a request, if it was told anything and did not fail. -/
def Turn.notice? : Turn → Option Notice
  | ⟨.activate registry iccid _, .ok _⟩ => some ⟨registry, iccid, .activated⟩
  | ⟨.suspend registry iccid, .ok _⟩ => some ⟨registry, iccid, .notActivated⟩
  | _ => none

/-- What a deed recorded of what a registry knows: its command says so, it changed the SIM, and this
is what lasts. -/
def Deed.record? {ι : Type} (d : Deed ι) : Option StateRecord :=
  match d.turn with
  | ⟨.write (.changeSim id change), .ok 1⟩ =>
    (change.registryState?.filter fun state => d.after.registryStateOf id = some state).map
      (⟨id, ·⟩)
  | _ => none

section Deeds

variable {ι : Type} {d : Deed ι}

theorem Deed.record?_eq_some_iff {record : StateRecord} :
    d.record? = some record ↔
      (∃ change, d.turn = ⟨.write (.changeSim record.sim change), .ok 1⟩ ∧
        change.registryState? = some record.state) ∧
      d.after.registryStateOf record.sim = some record.state := by
  obtain ⟨sim, state⟩ := record
  unfold record?
  split
  next id change hturn =>
    simp only [Option.map_eq_some_iff, Option.filter_eq_some_iff, decide_eq_true_eq,
      StateRecord.mk.injEq, hturn, Turn.mk.injEq, Request.write.injEq, Command.changeSim.injEq]
    constructor
    · rintro ⟨state, ⟨hstate, hlasts⟩, rfl, rfl⟩
      exact ⟨⟨change, ⟨⟨rfl, rfl⟩, HEq.rfl⟩, hstate⟩, hlasts⟩
    · rintro ⟨⟨_, ⟨⟨rfl, rfl⟩, -⟩, hstate⟩, hlasts⟩
      exact ⟨state, ⟨hstate, hlasts⟩, rfl, rfl⟩
  next hnone =>
    refine ⟨nofun, fun ⟨⟨change, hturn, _⟩, _⟩ => ?_⟩
    exact absurd hturn (hnone _ _)

/-- What was recorded is what lasts. -/
theorem Deed.registryStateOf_of_record {record : StateRecord} (h : d.record? = some record) :
    d.after.registryStateOf record.sim = some record.state := (record?_eq_some_iff.1 h).2

/-- A command outside of transactions that finds its SIM records what it says. -/
theorem Deed.record?_changeSim {s : Store} {r : Sim} (hr : r ∈ s.sims.rows) {change : SimChange}
    (hadmits : change.admits r.toSimData) (i : ι) :
    (⟨i, ⟨.write (.changeSim r.id change), .ok (s.changeSim r.id change).2⟩, s,
      (s.changeSim r.id change).1⟩ : Deed ι).record? =
        change.registryState?.map (⟨r.id, ·⟩) := by
  have hone : (s.changeSim r.id change).2 = 1 :=
    Store.changeSim_eq_one_iff.2 ⟨r, hr, rfl, hadmits⟩
  rw [hone]
  cases hstate : change.registryState? with
  | none =>
    rw [Option.map_none, Option.eq_none_iff_forall_ne_some]
    intro record hrecord
    obtain ⟨⟨change', hturn, hstate'⟩, -⟩ := record?_eq_some_iff.1 hrecord
    simp only [Turn.mk.injEq, Request.write.injEq, Command.changeSim.injEq] at hturn
    rw [← hturn.1.2, hstate] at hstate'
    cases hstate'
  | some state =>
    rw [Option.map_some, record?_eq_some_iff]
    refine ⟨⟨change, rfl, hstate⟩, Store.registryStateOf_eq_some_iff.2
      ⟨r.change change, Store.change_mem_changeSim hr hadmits, rfl, ?_⟩⟩
    exact (change.registryState_apply r.toSimData).trans (by rw [hstate, Option.getD_some])

/-- A request that neither tells a registry anything nor records what one knows. -/
def Request.isSilent : Request → Bool
  | activate .. | suspend .. => false
  | write (.changeSim _ change) => change.registryState?.isNone
  | _ => true

theorem Turn.notice?_of_isSilent {t : Turn} (h : t.request.isSilent) : t.notice? = none := by
  unfold notice?
  split
  · cases h
  · cases h
  · rfl

theorem Deed.record?_of_isSilent (h : d.turn.request.isSilent) : d.record? = none := by
  rw [Option.eq_none_iff_forall_ne_some]
  intro record hrecord
  obtain ⟨⟨change, hturn, hstate⟩, -⟩ := record?_eq_some_iff.1 hrecord
  rw [hturn, Request.isSilent, hstate] at h
  cases h

end Deeds

/-- What is known of one card of the registry. -/
def Notice.about (registry : RegistryId) (iccid : String) (n : Notice) : Option RegistryState :=
  if n.registry = registry ∧ n.iccid = iccid then some n.state else none

/-- What is recorded of one SIM. -/
def StateRecord.about (id : SimId) (record : StateRecord) : Option RegistryState :=
  if record.sim = id then some record.state else none

theorem StateRecord.about_self (id : SimId) (state : RegistryState) :
    about id ⟨id, state⟩ = some state := if_pos rfl

/-- The last state of several, each with who made it known; without any, no registry knows the
SIM. -/
def RegistryState.lastOf {ι : Type} (states : List (ι × RegistryState)) : RegistryState :=
  (states.getLast?.map (·.2)).getD .notActivated

theorem RegistryState.lastOf_append {ι : Type} (states : List (ι × RegistryState)) (i : ι)
    (state? : Option RegistryState) :
    lastOf (states ++ (state?.map (i, ·)).toList) = state?.getD (lastOf states) := by
  cases state? with
  | none => simp [lastOf]
  | some state => simp [lastOf]

namespace Chronicle

variable {ι : Type} {h h' : Chronicle ι} {i : ι}

/-- The states that deeds made known, each with its session, in order. -/
def states (h : Chronicle ι) (f : Deed ι → Option RegistryState) : List (ι × RegistryState) :=
  h.past.filterMap fun d => (f d).map (d.session, ·)

/-- What the services of a registry were told of a card. -/
def noticesAbout (h : Chronicle ι) (registry : RegistryId) (iccid : String) :
    List (ι × RegistryState) :=
  h.states fun d => d.turn.notice?.bind (·.about registry iccid)

/-- What was recorded of a SIM. -/
def recordsAbout (h : Chronicle ι) (id : SimId) : List (ι × RegistryState) :=
  h.states fun d => d.record?.bind (·.about id)

theorem recordsAbout_note (h : Chronicle ι) (i : ι) (turn : Turn) (s : Store) (id : SimId) :
    (h.note i turn s).recordsAbout id = h.recordsAbout id ++
      (((⟨i, turn, h.store, s⟩ : Deed ι).record?.bind (·.about id)).map (i, ·)).toList := by
  rw [recordsAbout, states, past_note, List.filterMap_append]
  rfl

variable [DecidableEq ι]

/-- What a session told registries. -/
def noticesOf (h : Chronicle ι) (i : ι) : List Notice :=
  (h.deedsOf i).filterMap fun d => d.turn.notice?

/-- What a session recorded. -/
def recordsOf (h : Chronicle ι) (i : ι) : List StateRecord := (h.deedsOf i).filterMap Deed.record?

theorem noticesOf_note (h : Chronicle ι) (i : ι) (turn : Turn) (s : Store) :
    (h.note i turn s).noticesOf i = h.noticesOf i ++ turn.notice?.toList := by
  rw [noticesOf, deedsOf_note_self, List.filterMap_append]
  rfl

theorem recordsOf_note (h : Chronicle ι) (i : ι) (turn : Turn) (s : Store) :
    (h.note i turn s).recordsOf i =
      h.recordsOf i ++ (⟨i, turn, h.store, s⟩ : Deed ι).record?.toList := by
  rw [recordsOf, deedsOf_note_self, List.filterMap_append]
  rfl

/-- Silent requests add neither notices nor records. -/
theorem noticesOf_of_silent
    (hnew : ∃ new, h'.deedsOf i = h.deedsOf i ++ new ∧ ∀ d ∈ new, d.turn.request.isSilent) :
    h'.noticesOf i = h.noticesOf i ∧ h'.recordsOf i = h.recordsOf i := by
  obtain ⟨new, hnew, hsilent⟩ := hnew
  rw [noticesOf, recordsOf, hnew, List.filterMap_append, List.filterMap_append]
  rw [List.filterMap_eq_nil_iff.2 fun d hd => Turn.notice?_of_isSilent (hsilent d hd),
    List.filterMap_eq_nil_iff.2 fun d hd => Deed.record?_of_isSilent (hsilent d hd),
    List.append_nil, List.append_nil]
  exact ⟨rfl, rfl⟩

/-- How often a session made a state known. -/
theorem count_states (h : Chronicle ι) (f : Deed ι → Option RegistryState) (i : ι)
    (state : RegistryState) :
    (h.states f).count (i, state) = ((h.deedsOf i).filterMap f).count state := by
  unfold states deedsOf
  induction h.past with
  | nil => rfl
  | cons d rest ih =>
    rw [List.filterMap_cons, List.filter_cons]
    by_cases hi : d.session = i
    · subst hi
      cases hf : f d with
      | none => simp [hf, ih]
      | some state' => simp [hf, ih, List.count_cons]
    · cases hf : f d with
      | none => simp [hi, ih]
      | some state' => simp [hi, ih]

/-- How often a session told a registry a state of a card. -/
theorem count_noticesAbout (h : Chronicle ι) (registry : RegistryId) (iccid : String) (i : ι)
    (state : RegistryState) :
    (h.noticesAbout registry iccid).count (i, state) =
      ((h.noticesOf i).filterMap (·.about registry iccid)).count state := by
  rw [noticesAbout, count_states, noticesOf, List.filterMap_filterMap]

/-- How often a session recorded a state of a SIM. -/
theorem count_recordsAbout (h : Chronicle ι) (id : SimId) (i : ι) (state : RegistryState) :
    (h.recordsAbout id).count (i, state) =
      ((h.recordsOf i).filterMap (·.about id)).count state := by
  rw [recordsAbout, count_states, recordsOf, List.filterMap_filterMap]

theorem mem_recordsAbout_iff {id : SimId} {state : RegistryState} :
    (i, state) ∈ h.recordsAbout id ↔ ⟨id, state⟩ ∈ h.recordsOf i := by
  rw [← List.count_pos_iff, count_recordsAbout, List.count_pos_iff, List.mem_filterMap]
  simp only [StateRecord.about, Option.ite_none_right_eq_some, Option.some.injEq]
  constructor
  · rintro ⟨⟨sim, state⟩, hmem, rfl, rfl⟩
    exact hmem
  · exact fun hmem => ⟨_, hmem, rfl, rfl⟩

end Chronicle

end SimDepot
