import SimDepot.Proofs.Reconcile.Bystander
import SimDepot.Proofs.Reconcile.Topping

/-!
# Passes that overlap

Any number of passes may hold the same raw SIM in hands, each with an answer of the vendor. The
first one that records its answer releases the SIM; the others find it released and go on. So the
law of releases holds whatever else the facade is asked in the meantime, and the reports of the
passes add up to what was released.
-/

namespace SimDepot

/-- Recording the release of a raw SIM releases this SIM. -/
theorem Deed.gains_release {ι : Type} {i : ι} {turn : Turn} {s s' : Store} {r : Sim}
    {matchingId : String} (hr : r ∈ s.sims.rows) (hraw : r.isReleased = false)
    (hs' : s' = (s.changeSim r.id (.release matchingId)).1) :
    (⟨i, turn, s, s'⟩ : Deed ι).gains Sim.isReleased = [r.id] := by
  refine List.perm_singleton.1 ((List.perm_ext_iff_of_nodup (Deed.nodup_gains _ _)
    (List.nodup_singleton _)).2 fun id => ?_)
  rw [Deed.mem_gains, List.mem_singleton]
  constructor
  · rintro ⟨hafter, hbefore⟩
    obtain ⟨r', hr', hreleased, rfl⟩ := Store.mem_idsWhere.1 hafter
    rw [hs'] at hr'
    rcases Store.mem_rows_changeSim hr rfl hr' with rfl | ⟨hr', -⟩
    · split <;> rfl
    · exact absurd (Store.mem_idsWhere.2 ⟨r', hr', hreleased, rfl⟩) hbefore
  · rintro rfl
    refine ⟨?_, fun hmem => ?_⟩
    · rw [hs']
      refine Store.mem_idsWhere_changeSim.2 ⟨r, hr, rfl, ?_⟩
      rw [if_pos ⟨rfl, (Sim.admits_release_iff r _).2 hraw⟩]
      rfl
    · exact Bool.false_ne_true (hraw.symm.trans ((Store.id_mem_idsWhere hr).1 hmem))

section Sessions

open SimDepot.Action

variable {ι : Type} [DecidableEq ι] {s s' : Store} {passes : ι → Prop} {i : ι} {h h' : Chronicle ι}
  {n : Nat}

/-! ## One pass among others -/

namespace Reconcile

/-- Session `i` is a pass within the law, and has released `n` SIMs. -/
structure Tally (s : Store) (passes : ι → Prop) (i : ι) (n : Nat) (h : Chronicle ι) : Prop where
  /-- The law holds. -/
  lawful : ReleaseLaw s passes h
  /-- The session is a pass. -/
  pass : passes i
  /-- It has released so many SIMs. -/
  count : (h.gainsOf i Sim.isReleased).length = n

/-- Session `i` has released `n` SIMs and owes nothing. -/
structure Between (s : Store) (passes : ι → Prop) (i : ι) (n : Nat) (h : Chronicle ι) : Prop
    extends Tally s passes i n h where
  /-- It owes nothing. -/
  settled : ∀ id release, ¬ Owes (h.turnsOf i) id release

/-- With the last of the requests `turns` session `i` recorded the release of a SIM, and it has
released `n` SIMs now. -/
structure Owing (s : Store) (passes : ι → Prop) (i : ι) (n : Nat) (id : SimId) (release : Release)
    (turns : List Turn) (h : Chronicle ι) : Prop extends Tally s passes i n h where
  /-- The SIM is one of these. -/
  gained : id ∈ h.gainsOf i Sim.isReleased
  /-- It was the last one. -/
  just : JustReleased turns id release

variable {turns early : List Turn} {turn : Turn} {id : SimId} {release : Release} {c r : Sim}

theorem Tally.drift (ht : Tally s passes i n h)
    (hd : Drift i (ReleaseLaw s passes) .outside h h') : Tally s passes i n h' where
  lawful := hd.lawful ht.lawful
  pass := ht.pass
  count := by
    rw [hd.gainsOf_eq]
    exact ht.count

theorem Between.drift (hb : Between s passes i n h)
    (hd : Drift i (ReleaseLaw s passes) .outside h h') : Between s passes i n h' where
  toTally := hb.toTally.drift hd
  settled := by
    rw [hd.turnsOf_eq]
    exact hb.settled

theorem Owing.drift (ho : Owing s passes i n id release turns h)
    (hd : Drift i (ReleaseLaw s passes) .outside h h') :
    Owing s passes i n id release turns h' where
  toTally := ho.toTally.drift hd
  gained := by
    rw [hd.gainsOf_eq]
    exact ho.gained
  just := ho.just

/-- A request of a session that owes nothing, which changes nothing. -/
theorem Between.note_still (hb : Between s passes i n h) (ht : ¬ turn.RecordsRelease) :
    Between s passes i n (h.note i turn h.store) where
  lawful := hb.lawful.note_still fun id release =>
    ⟨fun howes => absurd howes (not_owes_append hb.settled ht id release),
      fun howes => absurd howes (hb.settled id release)⟩
  pass := hb.pass
  count := (congrArg List.length (h.gainsOf_note_store i turn _)).trans hb.count
  settled := by
    rw [Chronicle.turnsOf_note_self]
    exact not_owes_append hb.settled ht

/-- A request that changes nothing, right after a release was recorded. -/
theorem Owing.note_still (ho : Owing s passes i n id release turns h)
    (hturns : h.turnsOf i = turns) (ht : ¬ turn.RecordsRelease) :
    Owing s passes i n id release turns (h.note i turn h.store) where
  lawful := by
    refine ho.lawful.note_still fun id' release' => ?_
    rw [hturns, owes_append_iff ht, Owes, or_iff_left ho.just.not_dropLast]
  pass := ho.pass
  count := (congrArg List.length (h.gainsOf_note_store i turn _)).trans ho.count
  gained := by
    rw [Chronicle.gainsOf_note_store]
    exact ho.gained
  just := ho.just

/-- A session whose vendor named no chip owes nothing once the release is recorded. -/
theorem Owing.between (ho : Owing s passes i n id release turns h)
    (hturns : h.turnsOf i = turns ++ [turn]) (ht : ¬ turn.RecordsRelease)
    (hnone : release.eid = none) : Between s passes i n h where
  toTally := ho.toTally
  settled id' release' howes := by
    rw [hturns, owes_append_iff ht] at howes
    obtain ⟨heid, hjust⟩ := howes
    rw [(ho.just.unique hjust).2, hnone] at heid
    cases heid

/-- The session records the release of a raw SIM. -/
theorem Between.note_release (hb : Between s passes i n h)
    (hturns : h.turnsOf i = early ++ [⟨.release r.vendorId c, .ok release⟩])
    (hr : r ∈ h.store.sims.rows) (hid : r.id = c.id) (hiccid : r.iccid = c.iccid)
    (hraw : r.isReleased = false)
    (hs' : s' = (h.store.changeSim r.id (.release release.matchingId)).1) :
    Owing s passes i (n + 1) r.id release
      (h.turnsOf i ++ [⟨.write (.changeSim r.id (.release release.matchingId)), .ok 1⟩])
      (h.note i ⟨.write (.changeSim r.id (.release release.matchingId)), .ok 1⟩ s') where
  lawful := hb.lawful.note_release hb.pass hturns hb.settled hr hid hiccid hraw hs'
  pass := hb.pass
  count := by
    rw [Chronicle.gainsOf_note_self, Deed.gains_release hr hraw hs', List.length_append, hb.count,
      List.length_singleton]
  gained := by
    rw [Chronicle.gainsOf_note_self, Deed.gains_release hr hraw hs']
    exact List.mem_append_right _ (List.mem_singleton.2 rfl)
  just := ⟨early, r.vendorId, c, by rw [hturns, List.append_assoc]; rfl⟩

/-- The session records the chip that its vendor named. -/
theorem Owing.note_settle {eid : String} {k : Nat}
    (ho : Owing s passes i n r.id release turns h) (hturns : h.turnsOf i = turns ++ [turn])
    (ht : ¬ turn.RecordsRelease) (heid : release.eid = some eid) (hr : r ∈ h.store.sims.rows)
    (hs' : s' = (h.store.changeSim r.id (.setEid eid)).1) :
    Between s passes i n (h.note i ⟨.write (.changeSim r.id (.setEid eid)), .ok k⟩ s') where
  lawful := ho.lawful.note_settle hturns ht ho.just heid hr ho.gained hs'
  pass := ho.pass
  count := by
    have hids : s'.idsWhere Sim.isReleased ⊆ h.store.idsWhere Sim.isReleased := by
      rw [hs', Store.idsWhere_changeSim fun _ => rfl]
      exact List.Subset.refl _
    rw [Chronicle.gainsOf_note_self, Deed.gains_eq_nil hids, List.append_nil]
    exact ho.count
  settled id' release' howes := by
    rw [Chronicle.turnsOf_note_self, owes_append_iff (Turn.not_recordsRelease (by simp)),
      hturns] at howes
    exact ht ⟨_, _, howes.2.recordsRelease⟩

/-- The SIM that a session chose is stored, whatever has become of it since. -/
def Stored (c : Sim) (h : Chronicle ι) : Prop :=
  ∃ r ∈ h.store.sims.rows, r.id = c.id ∧ r.iccid = c.iccid ∧ r.vendorId = c.vendorId

omit [DecidableEq ι] in
theorem Stored.of_stays (hc : Stored c h) (hstays : h.store.Stays h'.store) : Stored c h' := by
  obtain ⟨r, hr, hid, hiccid, hvendor⟩ := hc
  obtain ⟨r', hr', hstay⟩ := hstays r hr
  exact ⟨r', hr', hstay.id.trans hid, hstay.iccid.trans hiccid, hstay.vendorId.trans hvendor⟩

/-- The session has tried to record the release of the SIM `c`, and `k` SIMs were changed. -/
def Recorded (s : Store) (passes : ι → Prop) (i : ι) (n : Nat) (c : Sim) (release : Release)
    (k : Nat) (h : Chronicle ι) : Prop :=
  Stored c h ∧ (k = 0 ∧ Between s passes i n h ∨
    k = 1 ∧ Owing s passes i (n + 1) c.id release (h.turnsOf i) h)

theorem Recorded.drift {k : Nat} (hw : Recorded s passes i n c release k h)
    (hd : Drift i (ReleaseLaw s passes) .outside h h') : Recorded s passes i n c release k h' := by
  obtain ⟨hc, ⟨hk, hb⟩ | ⟨hk, ho⟩⟩ := hw
  · have hb' := hb.drift hd
    exact ⟨hc.of_stays (hb'.lawful.store_stays hd.toExtends), .inl ⟨hk, hb'⟩⟩
  · have ho' := ho.drift hd
    rw [← hd.turnsOf_eq] at ho'
    exact ⟨hc.of_stays (ho'.lawful.store_stays hd.toExtends), .inr ⟨hk, ho'⟩⟩

/-- The session records the answer of the vendor, unless the SIM was released since it was
chosen. -/
theorem Between.note_setReleased (hb : Between s passes i n h)
    (hturns : h.turnsOf i = early ++ [⟨.release c.vendorId c, .ok release⟩]) (hc : Stored c h)
    {k : Nat} (hchange : h.store.changeSim c.id (.release release.matchingId) = (s', k)) :
    ReleaseLaw s passes
        (h.note i ⟨.write (.changeSim c.id (.release release.matchingId)), .ok k⟩ s') ∧
      Recorded s passes i n c release k
        (h.note i ⟨.write (.changeSim c.id (.release release.matchingId)), .ok k⟩ s') := by
  obtain ⟨r, hr, hid, hiccid, hvendor⟩ := id hc
  have hadmits := Sim.admits_release_iff r release.matchingId
  cases hstate : r.isReleased with
  | true =>
    have hnot : (SimChange.release release.matchingId).admits r.toSimData = false := by
      rw [← Bool.not_eq_true, hadmits, hstate]
      exact Bool.noConfusion
    obtain ⟨rfl, rfl⟩ : h.store = s' ∧ 0 = k := by
      rw [← hid, Store.changeSim_of_not_admits hr hnot] at hchange
      exact Prod.mk.inj hchange
    have hwrote : ¬ Turn.RecordsRelease
        ⟨.write (.changeSim c.id (.release release.matchingId)), .ok 0⟩ := by
      rintro ⟨_, _, heq⟩
      cases heq
    have hb' := hb.note_still hwrote
    exact ⟨hb'.lawful, hc, .inl ⟨rfl, hb'⟩⟩
  | false =>
    obtain rfl : k = 1 := by
      have hk := Store.changeSim_eq_one_iff.2 ⟨r, hr, hid, hadmits.2 hstate⟩
      rwa [hchange] at hk
    rw [← hvendor] at hturns
    rw [← hid] at hchange ⊢
    have ho := hb.note_release hturns hr hid hiccid hstate (congrArg Prod.fst hchange).symm
    rw [← Chronicle.turnsOf_note_self] at ho
    rw [Recorded, ← hid]
    exact ⟨ho.lawful, hc.of_stays (ho.lawful.store_stays (.note .refl _ _ _)), .inr ⟨rfl, ho⟩⟩

/-- A session that has an answer of the vendor records it, unless the SIM was released since it was
chosen. -/
theorem abides_setReleased (hb : Between s passes i n h)
    (hturns : h.turnsOf i = early ++ [⟨.release c.vendorId c, .ok release⟩]) (hc : Stored c h) :
    Action.Abides i (ReleaseLaw s passes) False
      (fun _ st h => st = .outside ∧ Stored c h ∧ ∃ turns turn, h.turnsOf i = turns ++ [turn] ∧
        ¬ turn.RecordsRelease ∧ Owing s passes i (n + 1) c.id release turns h)
      (fun e st h => st = .outside ∧ (∃ unchanged, e = .notUpdated unchanged) ∧
        Between s passes i n h)
      (Stock.setReleased c.id release.matchingId) .outside h := by
  refine abides_update_turn (P := Recorded s passes i n c release) (fun h₁ s' k hd hchange => ?_)
    (fun _ _ _ hw hd => hw.drift hd) (fun _ _ ⟨⟨r, hr, hid, _⟩, _⟩ => ⟨r, hr, hid⟩)
    fun k h₁ sim hw _ _ => ?_
  · have hb₁ := hb.drift hd
    rw [← hd.turnsOf_eq] at hturns
    exact hb₁.note_setReleased hturns (hc.of_stays (hb₁.lawful.store_stays hd.toExtends)) hchange
  · have hread : ¬ Turn.RecordsRelease ⟨.read (.sim (.withId c.id)), .ok (some sim)⟩ :=
      Turn.not_recordsRelease (by simp)
    obtain ⟨hc₁, ⟨rfl, hb₁⟩ | ⟨rfl, ho₁⟩⟩ := hw
    · have hb₂ := hb₁.note_still hread
      exact ⟨hb₂.lawful, fun _ => ⟨rfl, ⟨_, rfl⟩, hb₂⟩, fun hne => absurd rfl hne⟩
    · have ho₂ := ho₁.note_still rfl hread
      exact ⟨ho₂.lawful, nofun,
        fun _ => ⟨rfl, hc₁, _, _, Chronicle.turnsOf_note_self .., hread, ho₂⟩⟩

/-- A session that owes the chip records it. -/
theorem abides_setEid {eid : String} (ho : Owing s passes i n c.id release turns h)
    (hturns : h.turnsOf i = turns ++ [turn]) (ht : ¬ turn.RecordsRelease)
    (heid : release.eid = some eid) (hc : Stored c h) :
    Action.Abides i (ReleaseLaw s passes) False
      (fun _ st h => st = .outside ∧ Between s passes i n h)
      (fun _ st h => st = .outside ∧ Between s passes i n h) (Stock.setEid c.id eid)
      .outside h := by
  refine abides_update_turn (P := fun _ h => Stored c h ∧ Between s passes i n h)
    (fun h₁ s' k hd hchange => ?_) (fun _ _ _ ⟨hc₁, hb₁⟩ hd => ?_)
    (fun _ _ ⟨⟨r, hr, hid, _⟩, _⟩ => ⟨r, hr, hid⟩) fun k h₁ sim ⟨_, hb₁⟩ _ _ => ?_
  · have ho₁ := ho.drift hd
    rw [← hd.turnsOf_eq] at hturns
    have hc₁ := hc.of_stays (ho₁.lawful.store_stays hd.toExtends)
    obtain ⟨r, hr, hid, -⟩ := id hc₁
    rw [← hid] at ho₁ hchange ⊢
    have hb₂ := ho₁.note_settle (k := k) hturns ht heid hr (congrArg Prod.fst hchange).symm
    exact ⟨hb₂.lawful, hc₁.of_stays (hb₂.lawful.store_stays (.note .refl _ _ _)), hb₂⟩
  · have hb₂ := hb₁.drift hd
    exact ⟨hc₁.of_stays (hb₂.lawful.store_stays hd.toExtends), hb₂⟩
  · have hb₂ := hb₁.note_still (Turn.not_recordsRelease (t := ⟨.read (.sim (.withId c.id)),
      .ok (some sim)⟩) (by simp))
    exact ⟨hb₂.lawful, fun _ => ⟨rfl, hb₂⟩, fun _ => ⟨rfl, hb₂⟩⟩

/-- Recording the answer of a vendor counts the SIM if it released it. -/
theorem abides_record (hb : Between s passes i n h)
    (hturns : h.turnsOf i = early ++ [⟨.release c.vendorId c, .ok release⟩]) (hc : Stored c h) :
    Action.Abides i (ReleaseLaw s passes) False
      (fun step st h => st = .outside ∧ Between s passes i (n + step.count) h)
      (fun _ _ _ => False) (record c.id release) .outside h := by
  refine abides_bind (abides_attempt ((abides_setReleased hb hturns hc).mono ?_ ?_))
  · rintro sim st h₁ ⟨rfl, hc₁, turns, turn, hturns₁, ht, ho₁⟩
    cases heid : release.eid with
    | none =>
      exact abides_pure ⟨rfl, ho₁.between hturns₁ ht heid⟩
    | some eid =>
      exact abides_bind (abides_attempt ((abides_setEid ho₁ hturns₁ ht heid hc₁).mono
        (fun _ _ _ h => abides_pure h) fun _ _ _ h => abides_pure h))
  · rintro e st h₁ ⟨rfl, ⟨unchanged, rfl⟩, hb₁⟩
    exact abides_pure ⟨rfl, hb₁⟩

/-- An error is to blame on a vendor whose service is not bound or did not release a SIM. -/
def IsOfVendor (bindings : Bindings) (i : ι) (e : Error) (h : Chronicle ι) : Prop :=
  (∃ vendor, e = .system (.vendorService vendor) ∧ bindings.vendors.get? vendor = none) ∨
    ∃ vendor sim, ⟨.release vendor sim, .error e⟩ ∈ h.turnsOf i

/-- The vendor of a SIM is asked, and what it answers is recorded. -/
theorem abides_ask {bindings : Bindings} (hb : Between s passes i n h) (hc : Stored c h) :
    Action.Abides i (ReleaseLaw s passes) False
      (fun step st h => st = .outside ∧ Between s passes i (n + step.count) h)
      (fun e st h => st = .outside ∧ Between s passes i n h ∧ IsOfVendor bindings i e h)
      (Action.release c.vendorId c >>= record c.id) .outside h := by
  have hanswered : ∀ {h₁} res, Drift i (ReleaseLaw s passes) .outside h h₁ →
      Between s passes i n (h₁.note i ⟨.release c.vendorId c, res⟩ h₁.store) :=
    fun _ hd => (hb.drift hd).note_still (Turn.not_recordsRelease (by simp))
  refine abides_bind (abides_release_turn (fun h₁ res hd => (hanswered res hd).lawful)
    (fun h₁ release hd => ?_) fun h₁ e hd => ⟨rfl, hanswered _ hd, .inr ⟨c.vendorId, c, ?_⟩⟩)
  · have hc₁ := hc.of_stays ((hb.drift hd).lawful.store_stays hd.toExtends)
    exact (abides_record (hanswered (.ok release) hd) (Chronicle.turnsOf_note_self ..) hc₁).mono
      (fun _ _ _ h => h) fun _ _ _ h => h.elim
  · rw [Chronicle.turnsOf_note_self]
    exact List.mem_append_right _ (List.mem_singleton.2 rfl)

/-- The release of the next raw SIM counts it if it released it, and fails only for an error of the
vendor. -/
theorem abides_releaseNext {bindings : Bindings} {pool : Pool} (hb : Between s passes i n h) :
    Action.Abides i (ReleaseLaw s passes) False
      (fun step st h => st = .outside ∧ Between s passes i (n + step.count) h)
      (fun e st h => st = .outside ∧ Between s passes i n h ∧ IsOfVendor bindings i e h)
      (releaseNext bindings pool) .outside h := by
  refine abides_bind (abides_attempt (abides_bind (abides_read_turn fun h₁ hd => ?_)))
  have hasked : ∀ found, Between s passes i n
      (h₁.note i ⟨.read (.sim (.raw pool)), .ok found⟩ h₁.store) :=
    fun found => (hb.drift hd).note_still (Turn.not_recordsRelease (by simp))
  refine ⟨(hasked _).lawful, abides_expect (fun c hfind => ?_) fun _ => ⟨rfl, hasked _⟩⟩
  refine abides_bind (abides_expect (fun _ _ => abides_ask (hasked _) ?_) fun hget =>
    ⟨rfl, hasked _, .inl ⟨c.vendorId, rfl, hget⟩⟩)
  exact ⟨c, List.mem_of_find?_eq_some hfind, rfl, rfl, rfl⟩

theorem topping (bindings : Bindings) :
    Topping bindings i (ReleaseLaw s passes) False (Between s passes i)
      (IsOfVendor bindings i) where
  read q hb := abides_read_turn fun h₁ hd =>
    have hb₁ := (hb.drift hd).note_still (Turn.not_recordsRelease (by simp))
    ⟨hb₁.lawful, rfl, hb₁⟩
  next _ hb := abides_releaseNext hb
  fault hfalse := hfalse.elim
  later hblame he := hblame.imp_right fun ⟨vendor, sim, hmem⟩ =>
    ⟨vendor, sim, he.turnsOf_subset i hmem⟩

end Reconcile

end Sessions

end SimDepot
