import SimDepot.Proofs.Claim.Exhaustion
import SimDepot.Proofs.Handout.Recording
import SimDepot.Proofs.Lifecycle.Order
import SimDepot.Proofs.Session.Return

/-!
# How far the store mirrors the registries

When all sessions have returned, what they recorded of a SIM is what they told its registry, and the
registry state is what was recorded last. The store mirrors the registry when the session that told
it last was also the last to record. But between the call of a session and its record another
session may have made both of its own; then the store says what the registry knew before, as
`registryState_of_lateRecord` shows.
-/

namespace SimDepot

section Runs

variable {ι : Type} [DecidableEq ι] {s : Store} {h : Chronicle ι} {r r' : Sim}

/-- What a settled session recorded of a SIM is what it told the registry of its card. -/
theorem Settled.filterMap_eq {i : ι} (hs : Settled s i h) (hr : r ∈ s.sims.rows) :
    (h.recordsOf i).filterMap (·.about r.id) =
      (h.noticesOf i).filterMap (·.about r.registryId r.iccid) := by
  cases hs with
  | silent ht =>
    rw [ht.records_eq, ht.notices_eq]
    rfl
  | told r' hr' state ht =>
    rw [ht.records_eq, ht.notices_eq]
    by_cases hsame : r' = r
    · subst hsame
      simp [StateRecord.about, Notice.about, Sim.notice]
    · have hid : r'.id ≠ r.id := fun hid => hsame (Table.id_inj hr' hr hid)
      have hiccid : r'.iccid ≠ r.iccid := fun hiccid => hsame (Store.eq_of_iccid hr' hr hiccid)
      simp [StateRecord.about, Notice.about, Sim.notice, hid, hiccid]

/-- A settled session recorded one state at most. -/
theorem Settled.state_unique {i : ι} (hs : Settled s i h) {id : SimId}
    {state state' : RegistryState} (hstate : (i, state) ∈ h.recordsAbout id)
    (hstate' : (i, state') ∈ h.recordsAbout id) : state = state' := by
  rw [Chronicle.mem_recordsAbout_iff] at hstate hstate'
  cases hs with
  | silent ht =>
    rw [ht.records_eq] at hstate
    cases hstate
  | told r' hr' state₀ ht =>
    have hone : ∀ {state}, ⟨id, state⟩ ∈ h.recordsOf i → state = state₀ := by
      intro state hmem
      rw [ht.records_eq, List.mem_singleton] at hmem
      exact congrArg StateRecord.state hmem
    rw [hone hstate, hone hstate']

/-- Where all sessions are settled, what was recorded of a SIM is what its registry was told, in
some order. -/
theorem perm_of_settled (hs : ∀ i, Settled s i h) (hr : r ∈ s.sims.rows) :
    (h.recordsAbout r.id).Perm (h.noticesAbout r.registryId r.iccid) := by
  rw [List.perm_iff_count]
  rintro ⟨i, state⟩
  rw [Chronicle.count_recordsAbout, Chronicle.count_noticesAbout, (hs i).filterMap_eq hr]

/-- Where all sessions are settled, and the one that was the last to record of a SIM was also the
last to tell its registry, the last record is what the registry was told last. -/
theorem lastOf_eq_of_settled (hs : ∀ i, Settled s i h) (hr : r ∈ s.sims.rows)
    (hlast : (h.recordsAbout r.id).getLast?.map (·.1) =
      (h.noticesAbout r.registryId r.iccid).getLast?.map (·.1)) :
    RegistryState.lastOf (h.recordsAbout r.id) =
      .lastOf (h.noticesAbout r.registryId r.iccid) := by
  unfold RegistryState.lastOf
  cases hnotice : (h.noticesAbout r.registryId r.iccid).getLast? with
  | none =>
    rw [hnotice, Option.map_none, Option.map_eq_none_iff] at hlast
    rw [hlast]
  | some told =>
    rw [hnotice, Option.map_some, Option.map_eq_some_iff] at hlast
    obtain ⟨recorded, hrecord, hsession⟩ := hlast
    obtain ⟨i, state⟩ := told
    obtain ⟨j, state'⟩ := recorded
    obtain rfl : j = i := hsession
    -- The session told the registry and recorded one and the same state.
    have hmem : (j, state) ∈ h.recordsAbout r.id :=
      (perm_of_settled hs hr).mem_iff.2 (List.mem_of_getLast? hnotice)
    rw [hrecord, (hs j).state_unique (List.mem_of_getLast? hrecord) hmem]

/-- From a store of released SIMs on of which no registry was told, any operations that hand SIMs
out, in whatever order their requests are answered and whatever the registries answer, as soon as
all have returned. Of each SIM was recorded exactly what its registry was told and carried out, by
the same sessions, though maybe in another order. The registry state is what was recorded last. So
it is what the registry was told last if the session that told it was also the last to record. -/
theorem registryState_of_run (s : Store) (hreleased : ∀ r ∈ s.sims.rows, r.vendorState = .released)
    (hunknown : ∀ r ∈ s.sims.rows, r.registryState = .notActivated) (ops : ι → Operation)
    (hops : ∀ i, (ops i).isHandout) (bindings : ι → Bindings) {moves : List (Move ι)}
    (hmoves : ∀ m ∈ moves, m.isSmooth) {w : World fun i => Except Error (ops i).Value}
    (hrun : (World.start s fun i => ((ops i).action (bindings i)).run).run moves = some w)
    (hdone : ∀ i, (w.rest i).isDone) {r : Sim} (hr : r ∈ w.store.sims.rows) :
    (w.recordsAbout r.id).Perm (w.noticesAbout r.registryId r.iccid) ∧
      r.registryState = .lastOf (w.recordsAbout r.id) ∧
      ((w.recordsAbout r.id).getLast?.map (·.1) =
          (w.noticesAbout r.registryId r.iccid).getLast?.map (·.1) →
        r.registryState = .lastOf (w.noticesAbout r.registryId r.iccid)) := by
  have hstart : MirrorLaw s (.start s : Chronicle ι) := ⟨rfl, hreleased, hunknown⟩
  have horderly : (World.start s fun i => ((ops i).action (bindings i)).run).Orderly
      (MirrorLaw s) False fun i _ _ h => Settled s i h :=
    World.Orderly.start hstart fun i => Flow.Abides.mono
      (abides_handout (hops i) (bindings i) ⟨hstart, rfl, rfl⟩) fun res _ _ hs => by
        cases res <;> exact hs
  have hend := horderly.run
    (fun m hm hfault => by rw [Move.not_isFault_of_isSmooth (hmoves m hm)] at hfault; cases hfault)
    hrun
  have hsettled : ∀ i, Settled s i w.toChronicle := by
    intro i
    have halive := World.not_isGone_of_smooth (fun _ => rfl) hmoves hrun i
    obtain ⟨res, hres⟩ := Flow.exists_eq_done (hdone i)
    obtain ⟨h, hd, hpost⟩ := hend.post_of_done halive hres
    exact hpost.drift hd
  -- The SIM as it was at first, with the same card.
  obtain ⟨r₀, hr₀, hcard⟩ := List.mem_map.1 (hend.lawful.card_of_mem hr)
  have hid : r.id = r₀.id := (congrArg Card.id hcard).symm
  have hnotice := Sim.notice_eq_of_card hcard.symm .activated
  have hregistry : r.registryId = r₀.registryId := congrArg Notice.registry hnotice
  have hiccid : r.iccid = r₀.iccid := congrArg Notice.iccid hnotice
  have hrecorded := hend.lawful.recorded r hr
  rw [hid] at hrecorded
  rw [hid, hregistry, hiccid]
  exact ⟨perm_of_settled hsettled hr₀, hrecorded,
    fun hlast => hrecorded.trans (lastOf_eq_of_settled hsettled hr₀ hlast)⟩

end Runs

/-- A SIM is handed out, and suspended while the registry has answered and the activation is not
recorded yet. -/
def rivals : Bool → Operation
  | false => .allocate ⟨1, "P"⟩ "4790"
  | true => .suspend "8947"

/-- The registry is told that the SIM is live, then that it is not, and the first is recorded
last. -/
def lateMoves : List (Move Bool) :=
  List.replicate 7 (.turn false .plain) ++
    [.turn false (.call (.ok ())), .turn true .plain, .turn true (.call (.ok ())),
      .turn true (.time .epoch), .turn true .plain, .turn true .plain, .turn false .plain,
      .turn false .plain]

/-- The depot when both have returned. -/
def lateRecorded : World fun i => Except Error (rivals i).Value :=
  ((World.start oneReady fun i => ((rivals i).action firstServices).run).run lateMoves).get
    (by decide +kernel)

/-- The registry was told last that the SIM is not live, and the store says that it is. -/
theorem registryState_of_lateRecord :
    (World.start oneReady fun i => ((rivals i).action firstServices).run).run lateMoves =
        some lateRecorded ∧
      (∀ i, (lateRecorded.rest i).isDone) ∧
      lateRecorded.noticesAbout 1 "8947" = [(false, .activated), (true, .notActivated)] ∧
      ∃ r ∈ lateRecorded.store.sims.rows, r.registryId = 1 ∧ r.iccid = "8947" ∧
        r.registryState = .activated := by
  have hrun : (World.start oneReady fun i => ((rivals i).action firstServices).run).run lateMoves =
      some lateRecorded := (Option.some_get _).symm
  have hdone : ∀ i, (lateRecorded.rest i).isDone := by decide +kernel
  have hrecords : lateRecorded.recordsAbout 1 = [(true, .notActivated), (false, .activated)] := by
    decide +kernel
  obtain ⟨r, hr, hid, hregistry, hiccid⟩ : ∃ r ∈ lateRecorded.store.sims.rows,
      r.id = 1 ∧ r.registryId = 1 ∧ r.iccid = "8947" := by decide +kernel
  obtain ⟨-, hstate, -⟩ := registryState_of_run oneReady (by decide) (by decide) rivals (by decide)
    (fun _ => firstServices) (by decide) hrun hdone hr
  rw [hid, hrecords] at hstate
  exact ⟨hrun, hdone, by decide +kernel, r, hr, hregistry, hiccid, hstate⟩

end SimDepot
