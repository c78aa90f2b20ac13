import SimDepot.Proofs.Lifecycle.Operation
import SimDepot.Proofs.Session.Turn

/-!
# How SIMs come to be released

While passes run side by side with other operations, each SIM is released by one session at most,
with what the vendor answered this session for this SIM. `ReleaseLaw` keeps that of every SIM, and
what is known of its chip: before the release what was known at first, and afterwards what the same
answer of the vendor says, if nothing was known. Between the two the session that released the SIM
still has to record the chip; `Reconcile.Owes` reads that off the last requests of the session.
-/

namespace SimDepot

/-- The vendor has released the SIM. -/
def Sim.isReleased (r : Sim) : Bool := r.vendorState == .released

/-- What is known of the chip of the SIM with an identity. -/
def Store.eidOf (s : Store) (id : SimId) : Option String := (s.sims.withId? id).bind (·.eid)

namespace Store

variable {s : Store}

theorem eidOf_of_mem {r : Sim} (hr : r ∈ s.sims.rows) : s.eidOf r.id = r.eid := by
  have hfind : s.sims.withId? r.id = some r := Table.withId?_eq_some_iff.2 ⟨hr, rfl⟩
  rw [eidOf, hfind, Option.bind_some]

theorem eidOf_eq_none {id : SimId} (h : ∀ r ∈ s.sims.rows, r.id ≠ id) : s.eidOf id = none := by
  have hfind : s.sims.withId? id = none := Table.withId?_eq_none_iff.2 h
  rw [eidOf, hfind, Option.bind_none]

end Store

/-! ## The last requests of a session -/

/-- The command recorded a release. -/
def Turn.RecordsRelease (t : Turn) : Prop :=
  ∃ id matchingId, t = ⟨.write (.changeSim id (.release matchingId)), .ok 1⟩

theorem Turn.not_recordsRelease {t : Turn}
    (h : ∀ id matchingId, t.request ≠ .write (.changeSim id (.release matchingId))) :
    ¬ t.RecordsRelease := by
  rintro ⟨id, matchingId, rfl⟩
  exact h id matchingId rfl

namespace Reconcile

/-- The last two requests asked the vendor to release a SIM and recorded the answer. -/
def JustReleased (turns : List Turn) (id : SimId) (release : Release) : Prop :=
  ∃ early vendor sim, turns = early ++ [⟨.release vendor sim, .ok release⟩,
    ⟨.write (.changeSim id (.release release.matchingId)), .ok 1⟩]

/-- Until its next request but one, a session that recorded a release has still to record the chip,
if the vendor named it. -/
def Owes (turns : List Turn) (id : SimId) (release : Release) : Prop :=
  release.eid.isSome ∧ (JustReleased turns id release ∨ JustReleased turns.dropLast id release)

variable {turns : List Turn} {t : Turn} {id id' : SimId} {release release' : Release}

theorem JustReleased.recordsRelease (h : JustReleased (turns ++ [t]) id release) :
    t = ⟨.write (.changeSim id (.release release.matchingId)), .ok 1⟩ := by
  obtain ⟨early, vendor, sim, heq⟩ := h
  rw [List.append_cons early] at heq
  exact (List.append_inj' heq rfl).2 |> List.singleton_inj.1

/-- Two releases are not recorded in a row. -/
theorem JustReleased.not_dropLast (h : JustReleased turns id release) :
    ¬ JustReleased turns.dropLast id' release' := by
  obtain ⟨early, vendor, sim, rfl⟩ := h
  rw [List.append_cons early, List.dropLast_concat]
  intro h'
  have := h'.recordsRelease
  cases this

theorem JustReleased.unique (h : JustReleased turns id release)
    (h' : JustReleased turns id' release') : id' = id ∧ release' = release := by
  obtain ⟨early, vendor, sim, rfl⟩ := h
  obtain ⟨early', vendor', sim', heq⟩ := h'
  have hlast := (List.append_inj' heq rfl).2
  simp only [List.cons.injEq, Turn.mk.injEq, Request.release.injEq, Request.write.injEq,
    Command.changeSim.injEq, and_true] at hlast
  obtain ⟨⟨⟨rfl, rfl⟩, hrelease⟩, ⟨rfl, -⟩, -⟩ := hlast
  exact ⟨rfl, (Except.ok.inj (eq_of_heq hrelease)).symm⟩

/-- After a request that records no release a session owes only what it had just released. -/
theorem owes_append_iff (ht : ¬ t.RecordsRelease) :
    Owes (turns ++ [t]) id release ↔ release.eid.isSome ∧ JustReleased turns id release := by
  unfold Owes
  rw [List.dropLast_concat, or_iff_right fun h => ht ⟨_, _, h.recordsRelease⟩]

/-- A session that owes nothing owes nothing after a request that records no release. -/
theorem not_owes_append (h : ∀ id release, ¬ Owes turns id release) (ht : ¬ t.RecordsRelease)
    (id : SimId) (release : Release) : ¬ Owes (turns ++ [t]) id release := by
  rw [owes_append_iff ht]
  exact fun ⟨heid, hjust⟩ => h id release ⟨heid, .inl hjust⟩

/-- A session that owed nothing owes only what it has just released. -/
theorem eq_of_owes (h : ∀ id release, ¬ Owes turns id release)
    (hjust : JustReleased (turns ++ [t]) id release) (howes : Owes (turns ++ [t]) id' release') :
    id' = id ∧ release' = release := by
  obtain ⟨heid, hlast | hlast⟩ := howes
  · exact hjust.unique hlast
  · rw [List.dropLast_concat] at hlast
    exact absurd ⟨heid, .inl hlast⟩ (h id' release')

end Reconcile

/-! ## The law -/

/-- What may become of a SIM: it stays what it is, and its release with its matching id stays. -/
structure Sim.Stays (r r' : Sim) : Prop where
  /-- Its identity stays. -/
  id : r'.id = r.id
  /-- Its card number stays. -/
  iccid : r'.iccid = r.iccid
  /-- Its vendor stays. -/
  vendorId : r'.vendorId = r.vendorId
  /-- Once released, it stays released, with the same matching id. -/
  released : r.isReleased → r'.isReleased ∧ r'.matchingId = r.matchingId

namespace Sim.Stays

theorem refl (r : Sim) : r.Stays r := ⟨rfl, rfl, rfl, fun h => ⟨h, rfl⟩⟩

theorem trans {a b c : Sim} (h : a.Stays b) (h' : b.Stays c) : a.Stays c where
  id := h'.id.trans h.id
  iccid := h'.iccid.trans h.iccid
  vendorId := h'.vendorId.trans h.vendorId
  released ha :=
    have hb := h.released ha
    have hc := h'.released hb.1
    ⟨hc.1, hc.2.trans hb.2⟩

end Sim.Stays

/-- The vendor releases a SIM only while it is raw stock. -/
theorem Sim.admits_release_iff (r : Sim) (matchingId : String) :
    SimChange.admits r.toSimData (.release matchingId) ↔ r.isReleased = false := by
  cases hstate : r.vendorState <;> simp [SimChange.admits, Sim.isReleased, hstate]

theorem Sim.stays_release {r : Sim} {matchingId : String} (hr : r.isReleased = false) :
    r.Stays (r.change (.release matchingId)) :=
  ⟨rfl, rfl, rfl, fun h => by rw [hr] at h; cases h⟩

/-- Recording the chip leaves the one that is known, if any. -/
theorem Sim.ite_setEid (r : Sim) (eid : String) :
    (if SimChange.admits r.toSimData (.setEid eid) then r.change (.setEid eid) else r) =
      { r with eid := r.eid.or (some eid) } := by
  obtain ⟨data, id⟩ := r
  cases hknown : data.eid with
  | none => simp [SimChange.admits, Sim.change, SimChange.apply, hknown]
  | some known =>
    by_cases hsame : known = eid
    · simp [SimChange.admits, Sim.change, SimChange.apply, hknown, hsame]
    · rw [if_neg (by simp [SimChange.admits, hknown, hsame]), Option.some_or, ← hknown]

/-- Every SIM stays. -/
def Store.Stays (s s' : Store) : Prop := ∀ r ∈ s.sims.rows, ∃ r' ∈ s'.sims.rows, r.Stays r'

namespace Store.Stays

variable {s s₁ s' : Store}

theorem refl (s : Store) : s.Stays s := fun r hr => ⟨r, hr, .refl r⟩

theorem trans (h : s.Stays s₁) (h' : s₁.Stays s') : s.Stays s' := by
  intro r hr
  obtain ⟨r₁, hr₁, hstays⟩ := h r hr
  obtain ⟨r', hr', hstays'⟩ := h' r₁ hr₁
  exact ⟨r', hr', hstays.trans hstays'⟩

/-- What is released stays released. -/
theorem idsWhere_subset (h : s.Stays s') :
    s.idsWhere Sim.isReleased ⊆ s'.idsWhere Sim.isReleased := by
  intro id hid
  obtain ⟨r, hr, hreleased, rfl⟩ := Store.mem_idsWhere.1 hid
  obtain ⟨r', hr', hstays⟩ := h r hr
  exact Store.mem_idsWhere.2 ⟨r', hr', (hstays.released hreleased).1, hstays.id⟩

/-- A change that takes no release back. -/
theorem changeSim {id : SimId} {change : SimChange}
    (hchange : ∀ r : Sim, change.admits r.toSimData → r.Stays (r.change change)) :
    s.Stays (s.changeSim id change).1 := by
  intro r hr
  rw [rows_changeSim]
  refine ⟨_, List.mem_map_of_mem hr, ?_⟩
  split
  next h => exact hchange r h.2
  next => exact .refl r

end Store.Stays

section Law

variable {ι : Type} [DecidableEq ι]

/-- By the answer `release` of its vendor session `i` released the SIM `r`. -/
structure Chronicle.ReleasedBy (h : Chronicle ι) (i : ι) (release : Release) (r : Sim) : Prop where
  /-- The session moved the SIM. -/
  gained : r.id ∈ h.gainsOf i Sim.isReleased
  /-- The vendor of the SIM gave the session this answer for its card number. -/
  answered : ∃ sim : Sim, sim.id = r.id ∧ sim.iccid = r.iccid ∧
    ⟨.release r.vendorId sim, .ok release⟩ ∈ h.turnsOf i
  /-- The matching id is the one of the answer. -/
  matchingId : r.matchingId = some release.matchingId

/-- The chip of a SIM that session `i` released is known as the session owes it or has settled
it. -/
structure Chronicle.Accounted (s : Store) (h : Chronicle ι) (i : ι) (release : Release) (r : Sim) :
    Prop extends h.ReleasedBy i release r where
  /-- While it is owed, only what was known at first is known. -/
  owed : ∀ release', Reconcile.Owes (h.turnsOf i) r.id release' →
    release' = release ∧ r.eid = s.eidOf r.id
  /-- Then it is what was known at first, or else what the vendor said. -/
  settled : (∀ release', ¬ Reconcile.Owes (h.turnsOf i) r.id release') →
    r.eid = (s.eidOf r.id).or release.eid

/-- What the law says of passes, which are the sessions in `passes`, and of the others, from the
store `s` on. -/
structure ReleaseLaw (s : Store) (passes : ι → Prop) (h : Chronicle ι) : Prop where
  /-- The chronicle goes on from the store `s`. -/
  since : (Chronicle.start s).Extends h
  /-- Every SIM stays. -/
  stays : ∀ d ∈ h.past, d.before.Stays d.after
  /-- Only passes release. -/
  passes : ∀ d ∈ h.past, d.gains Sim.isReleased ≠ [] → passes d.session
  /-- The chip of raw stock is what it was at first. -/
  raw : ∀ r ∈ h.store.sims.rows, r.isReleased = false → r.eid = s.eidOf r.id
  /-- What was not released at first was released by one of the sessions. -/
  released : ∀ r ∈ h.store.sims.rows, r.isReleased → r.id ∉ s.idsWhere Sim.isReleased →
    ∃ i release, Chronicle.Accounted s h i release r

/-- The chronicle tells as much of session `i` and its releases as a later one. -/
theorem Chronicle.Accounted.of_eq {s : Store} {h h' : Chronicle ι} {i : ι} {release : Release}
    {r r' : Sim} (ha : Accounted s h i release r)
    (hgains : h'.gainsOf i Sim.isReleased = h.gainsOf i Sim.isReleased)
    (hturns : h'.turnsOf i = h.turnsOf i) (hid : r'.id = r.id) (hiccid : r'.iccid = r.iccid)
    (hvendor : r'.vendorId = r.vendorId) (hmatching : r'.matchingId = r.matchingId)
    (heid : r'.eid = r.eid) : Accounted s h' i release r' where
  gained := by
    rw [hgains, hid]
    exact ha.gained
  answered := by
    rw [hid, hiccid, hvendor, hturns]
    exact ha.answered
  matchingId := hmatching.trans ha.matchingId
  owed := by
    rw [hturns, hid, heid]
    exact ha.owed
  settled := by
    rw [hturns, hid, heid]
    exact ha.settled

namespace ReleaseLaw

variable {s s' : Store} {passes : ι → Prop} {h h₁ : Chronicle ι} {i : ι}

theorem start (s : Store) (passes : ι → Prop) : ReleaseLaw s passes (.start s) where
  since := .refl
  stays := by simp
  passes := by simp
  raw r hr _ := (Store.eidOf_of_mem hr).symm
  released r hr hreleased hnew := absurd ((Store.id_mem_idsWhere hr).2 hreleased) hnew

theorem subset (hlaw : ReleaseLaw s passes h) :
    ∀ d ∈ h.past, d.before.idsWhere Sim.isReleased ⊆ d.after.idsWhere Sim.isReleased :=
  fun d hd => (hlaw.stays d hd).idsWhere_subset

/-- No SIM is released twice. -/
theorem nodup_gains (hlaw : ReleaseLaw s passes h) : (h.gains Sim.isReleased).Nodup :=
  Chronicle.nodup_gains hlaw.since hlaw.subset

theorem store_stays (hlaw : ReleaseLaw s passes h) (he : h₁.Extends h) :
    h₁.store.Stays h.store :=
  he.rel Store.Stays.refl Store.Stays.trans hlaw.stays

/-- Whoever released a SIM is a pass. -/
theorem passes_of_mem (hlaw : ReleaseLaw s passes h) {id : SimId}
    (hid : id ∈ h.gainsOf i Sim.isReleased) : passes i := by
  obtain ⟨d, hd, hgain⟩ := List.mem_flatMap.1 hid
  obtain ⟨hd, hi⟩ := List.mem_filter.1 hd
  rw [decide_eq_true_eq] at hi
  rw [← hi]
  exact hlaw.passes d hd (List.ne_nil_of_mem hgain)

/-- What a session released is released, and was not at first. -/
theorem released_of_mem (hlaw : ReleaseLaw s passes h) {id : SimId}
    (hid : id ∈ h.gainsOf i Sim.isReleased) :
    id ∈ h.store.idsWhere Sim.isReleased ∧ id ∉ s.idsWhere Sim.isReleased :=
  (Chronicle.mem_gains_iff hlaw.since hlaw.subset).1 (h.gainsOf_subset i _ hid)

/-- What a request has to keep. -/
theorem note (hlaw : ReleaseLaw s passes h) {turn : Turn} (hstays : h.store.Stays s')
    (hpasses : ¬ passes i → s'.idsWhere Sim.isReleased ⊆ h.store.idsWhere Sim.isReleased)
    (hraw : ∀ r ∈ s'.sims.rows, r.isReleased = false → r.eid = s.eidOf r.id)
    (hreleased : ∀ r ∈ s'.sims.rows, r.isReleased → r.id ∉ s.idsWhere Sim.isReleased →
      ∃ j release, Chronicle.Accounted s (h.note i turn s') j release r) :
    ReleaseLaw s passes (h.note i turn s') where
  since := hlaw.since.note i turn s'
  stays d hd := by
    rcases List.mem_append.1 hd with hd | hd
    · exact hlaw.stays d hd
    · rw [List.mem_singleton.1 hd]
      exact hstays
  passes d hd hgains := by
    rcases List.mem_append.1 hd with hd | hd
    · exact hlaw.passes d hd hgains
    · rw [List.mem_singleton.1 hd] at hgains ⊢
      by_contra hnot
      exact hgains (Deed.gains_eq_nil (hpasses hnot))
  raw := hraw
  released := hreleased

/-- A SIM that another session released is accounted for as before. -/
theorem accounted_of_ne {j : ι} {turn : Turn} {release : Release} {r : Sim} (hj : i ≠ j)
    (ha : Chronicle.Accounted s h j release r) :
    Chronicle.Accounted s (h.note i turn s') j release r :=
  ha.of_eq (Chronicle.gainsOf_note_of_ne hj h turn s') (Chronicle.turnsOf_note_of_ne hj h turn s')
    rfl rfl rfl rfl rfl

/-- A SIM that the session released is accounted for as before when the session owes as much as
before. -/
theorem accounted_note_self {turn : Turn} {release : Release} {r : Sim}
    (ha : Chronicle.Accounted s h i release r)
    (howes : ∀ release', Reconcile.Owes (h.turnsOf i ++ [turn]) r.id release' ↔
      Reconcile.Owes (h.turnsOf i) r.id release') :
    Chronicle.Accounted s (h.note i turn s') i release r where
  gained := by
    rw [Chronicle.gainsOf_note_self]
    exact List.mem_append_left _ ha.gained
  answered := by
    rw [Chronicle.turnsOf_note_self]
    obtain ⟨sim, hid, hiccid, hmem⟩ := ha.answered
    exact ⟨sim, hid, hiccid, List.mem_append_left _ hmem⟩
  matchingId := ha.matchingId
  owed := by
    rw [Chronicle.turnsOf_note_self]
    exact fun release' h => ha.owed release' ((howes release').1 h)
  settled := by
    rw [Chronicle.turnsOf_note_self]
    exact fun h => ha.settled fun release' h' => h release' ((howes release').2 h')

/-- A request that changes nothing, neither in the store nor in what the session owes. -/
theorem note_still (hlaw : ReleaseLaw s passes h) {turn : Turn}
    (howes : ∀ id release, Reconcile.Owes (h.turnsOf i ++ [turn]) id release ↔
      Reconcile.Owes (h.turnsOf i) id release) :
    ReleaseLaw s passes (h.note i turn h.store) := by
  refine hlaw.note (.refl _) (fun _ => List.Subset.refl _) hlaw.raw fun r hr hreleased hnew => ?_
  obtain ⟨j, release, ha⟩ := hlaw.released r hr hreleased hnew
  refine ⟨j, release, ?_⟩
  by_cases hj : i = j
  · subst hj
    exact accounted_note_self ha (howes r.id)
  · exact accounted_of_ne hj ha

/-- A SIM whose release the session has just recorded, as the vendor had answered. -/
theorem accounted_release (hlaw : ReleaseLaw s passes h) {early : List Turn} {c r : Sim}
    {release : Release} {turn : Turn}
    (hturns : h.turnsOf i = early ++ [⟨.release r.vendorId c, .ok release⟩])
    (hjust : Reconcile.JustReleased (h.turnsOf i ++ [turn]) r.id release)
    (hsettled : ∀ id release', ¬ Reconcile.Owes (h.turnsOf i) id release')
    (hr : r ∈ h.store.sims.rows) (hid : r.id = c.id) (hiccid : r.iccid = c.iccid)
    (hraw : r.isReleased = false) (hr' : r.change (.release release.matchingId) ∈ s'.sims.rows) :
    Chronicle.Accounted s (h.note i turn s') i release
      (r.change (.release release.matchingId)) := by
  have heid : r.eid = s.eidOf r.id := hlaw.raw r hr hraw
  refine ⟨⟨?_, ⟨c, hid.symm, hiccid.symm, ?_⟩, rfl⟩, ?_, ?_⟩
  · rw [Chronicle.gainsOf_note_self]
    refine List.mem_append_right _ (Deed.mem_gains.2 ⟨(Store.id_mem_idsWhere hr').2 rfl, ?_⟩)
    exact fun hmem => Bool.false_ne_true (hraw.symm.trans ((Store.id_mem_idsWhere hr).1 hmem))
  · rw [Chronicle.turnsOf_note_self, hturns]
    exact List.mem_append_left _ (List.mem_append_right _ (List.mem_singleton.2 rfl))
  · rw [Chronicle.turnsOf_note_self]
    exact fun release' howes => ⟨(Reconcile.eq_of_owes hsettled hjust howes).2, heid⟩
  · rw [Chronicle.turnsOf_note_self]
    intro hnone
    have hunnamed : release.eid = none := by
      by_contra hsome
      exact hnone release ⟨Option.isSome_iff_ne_none.2 hsome, .inl hjust⟩
    rw [hunnamed, Option.or_none]
    exact heid

/-- A command of a pass that changes one SIM, which is released then, and leaves what the session
owes for others. -/
theorem note_row (hlaw : ReleaseLaw s passes h) (hpass : passes i) {turn : Turn} {r r₁ : Sim}
    {release : Release} (hstays : h.store.Stays s')
    (hrows : ∀ r' ∈ s'.sims.rows, r' = r₁ ∨ r' ∈ h.store.sims.rows ∧ r'.id ≠ r.id)
    (hreleased : r₁.isReleased) (ha : Chronicle.Accounted s (h.note i turn s') i release r₁)
    (howes : ∀ id, id ≠ r.id → ∀ release', Reconcile.Owes (h.turnsOf i ++ [turn]) id release' ↔
      Reconcile.Owes (h.turnsOf i) id release') :
    ReleaseLaw s passes (h.note i turn s') := by
  refine hlaw.note hstays (absurd hpass) (fun r' hr' hraw => ?_) fun r' hr' hreleased' hnew => ?_
  · rcases hrows r' hr' with rfl | ⟨hr', -⟩
    · exact absurd (hreleased.symm.trans hraw) nofun
    · exact hlaw.raw r' hr' hraw
  · rcases hrows r' hr' with rfl | ⟨hr', hne⟩
    · exact ⟨i, release, ha⟩
    · obtain ⟨j, release', ha'⟩ := hlaw.released r' hr' hreleased' hnew
      refine ⟨j, release', ?_⟩
      by_cases hj : i = j
      · subst hj
        exact accounted_note_self ha' (howes r'.id hne)
      · exact accounted_of_ne hj ha'

/-- Recording the release of a raw SIM, as the vendor has just answered. -/
theorem note_release (hlaw : ReleaseLaw s passes h) (hpass : passes i) {early : List Turn}
    {c r : Sim} {release : Release}
    (hturns : h.turnsOf i = early ++ [⟨.release r.vendorId c, .ok release⟩])
    (hsettled : ∀ id release', ¬ Reconcile.Owes (h.turnsOf i) id release')
    (hr : r ∈ h.store.sims.rows) (hid : r.id = c.id) (hiccid : r.iccid = c.iccid)
    (hraw : r.isReleased = false)
    (hs' : s' = (h.store.changeSim r.id (.release release.matchingId)).1) :
    ReleaseLaw s passes
      (h.note i ⟨.write (.changeSim r.id (.release release.matchingId)), .ok 1⟩ s') := by
  have hjust : Reconcile.JustReleased (h.turnsOf i ++
      [⟨.write (.changeSim r.id (.release release.matchingId)), .ok 1⟩]) r.id release :=
    ⟨early, r.vendorId, c, by rw [hturns, List.append_assoc]; rfl⟩
  have hrows : ∀ r' ∈ s'.sims.rows, r' = r.change (.release release.matchingId) ∨
      r' ∈ h.store.sims.rows ∧ r'.id ≠ r.id := by
    intro r' hr'
    rw [hs'] at hr'
    have hcases := Store.mem_rows_changeSim hr rfl hr'
    rwa [if_pos ((Sim.admits_release_iff r _).2 hraw)] at hcases
  have hr' : r.change (.release release.matchingId) ∈ s'.sims.rows := by
    rw [hs']
    exact Store.change_mem_changeSim hr ((Sim.admits_release_iff r _).2 hraw)
  have hstays : h.store.Stays s' := by
    rw [hs']
    exact Store.Stays.changeSim fun r₀ hr₀ =>
      Sim.stays_release ((Sim.admits_release_iff r₀ _).1 hr₀)
  exact hlaw.note_row hpass hstays hrows rfl
    (hlaw.accounted_release hturns hjust hsettled hr hid hiccid hraw hr') fun id hne release' =>
      ⟨fun howes => absurd (Reconcile.eq_of_owes hsettled hjust howes).1 hne,
        fun howes => absurd howes (hsettled _ _)⟩

/-- The SIM that a session has just released is the one it accounts for. -/
theorem accounted_of_owes (hlaw : ReleaseLaw s passes h) {r : Sim} {release : Release}
    (hr : r ∈ h.store.sims.rows) (hgained : r.id ∈ h.gainsOf i Sim.isReleased)
    (howes : Reconcile.Owes (h.turnsOf i) r.id release) :
    Chronicle.Accounted s h i release r ∧ r.eid = s.eidOf r.id := by
  obtain ⟨hmem, hnew⟩ := hlaw.released_of_mem hgained
  obtain ⟨j, release', ha⟩ := hlaw.released r hr ((Store.id_mem_idsWhere hr).1 hmem) hnew
  obtain rfl := Chronicle.session_unique hlaw.nodup_gains ha.gained hgained
  obtain ⟨rfl, heid⟩ := ha.owed release howes
  exact ⟨ha, heid⟩

/-- A SIM whose chip the session has just recorded, if it was not known. -/
theorem accounted_settle (hlaw : ReleaseLaw s passes h) {turn : Turn} {r : Sim}
    {release : Release} {eid : String} (heid : release.eid = some eid)
    (hr : r ∈ h.store.sims.rows) (hgained : r.id ∈ h.gainsOf i Sim.isReleased)
    (howes : Reconcile.Owes (h.turnsOf i) r.id release)
    (hfree : ∀ id release', ¬ Reconcile.Owes (h.turnsOf i ++ [turn]) id release') :
    Chronicle.Accounted s (h.note i turn s') i release { r with eid := r.eid.or (some eid) } := by
  obtain ⟨ha, hfirst⟩ := hlaw.accounted_of_owes hr hgained howes
  refine ⟨⟨?_, ?_, ha.matchingId⟩, fun release' h => ?_, fun _ => ?_⟩
  · rw [Chronicle.gainsOf_note_self]
    exact List.mem_append_left _ hgained
  · rw [Chronicle.turnsOf_note_self]
    obtain ⟨sim, hid, hiccid, hmem⟩ := ha.answered
    exact ⟨sim, hid, hiccid, List.mem_append_left _ hmem⟩
  · rw [Chronicle.turnsOf_note_self] at h
    exact absurd h (hfree _ _)
  · rw [heid, ← hfirst]

/-- Recording the chip settles what the session owes. -/
theorem note_settle (hlaw : ReleaseLaw s passes h) {early : List Turn} {t : Turn} {r : Sim}
    {release : Release} {eid : String} {n : Nat}
    (hturns : h.turnsOf i = early ++ [t]) (ht : ¬ t.RecordsRelease)
    (hjust : Reconcile.JustReleased early r.id release) (heid : release.eid = some eid)
    (hr : r ∈ h.store.sims.rows) (hgained : r.id ∈ h.gainsOf i Sim.isReleased)
    (hs' : s' = (h.store.changeSim r.id (.setEid eid)).1) :
    ReleaseLaw s passes (h.note i ⟨.write (.changeSim r.id (.setEid eid)), .ok n⟩ s') := by
  have howes : Reconcile.Owes (h.turnsOf i) r.id release := by
    rw [hturns, Reconcile.owes_append_iff ht, heid]
    exact ⟨rfl, hjust⟩
  have hfree : ∀ id release', ¬ Reconcile.Owes
      (h.turnsOf i ++ [⟨.write (.changeSim r.id (.setEid eid)), .ok n⟩]) id release' := by
    intro id release' howes'
    rw [Reconcile.owes_append_iff (Turn.not_recordsRelease (by simp)), hturns] at howes'
    exact ht ⟨_, _, howes'.2.recordsRelease⟩
  have hrows : ∀ r' ∈ s'.sims.rows, r' = { r with eid := r.eid.or (some eid) } ∨
      r' ∈ h.store.sims.rows ∧ r'.id ≠ r.id := by
    intro r' hr'
    rw [hs'] at hr'
    have hcases := Store.mem_rows_changeSim hr rfl hr'
    rwa [Sim.ite_setEid] at hcases
  have hreleased : r.isReleased := (Store.id_mem_idsWhere hr).1 (hlaw.released_of_mem hgained).1
  have hstays : h.store.Stays s' := by
    rw [hs']
    exact Store.Stays.changeSim fun r₀ _ => ⟨rfl, rfl, rfl, fun h => ⟨h, rfl⟩⟩
  refine hlaw.note_row (hlaw.passes_of_mem hgained) hstays hrows hreleased
    (hlaw.accounted_settle heid hr hgained howes hfree) fun id hne release' =>
      ⟨fun h => absurd h (hfree _ _), fun h => ?_⟩
  -- The session owes for no other SIM.
  rw [hturns, Reconcile.owes_append_iff ht] at h
  exact absurd (hjust.unique h.2).1 hne

end ReleaseLaw

end Law

end SimDepot
