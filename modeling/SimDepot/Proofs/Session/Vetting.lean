import SimDepot.Proofs.Session.Discipline
import SimDepot.Proofs.Session.Progress
import SimDepot.Proofs.Session.Turn
import SimDepot.Stock.Lookup

/-!
# Requests on a condition

What a session finds out about the store it finds out before it makes use of it, and others may act
in between. A request that may be made only while the store says something is sound all the same if
what was found out implies something that lasts. `Discipline.vetting` is the law of a discipline
with such conditions on requests. Parts of a flow whose requests nobody objects to abide by it when
they abide by the discipline; for those that count there is one rule, `Poised.abides_request`.
-/

namespace SimDepot

variable {ι α : Type}

/-- What others may do under a law they may do under a weaker one. -/
theorem Drift.weaken {i : ι} {law law' : Chronicle ι → Prop} (hlaw : ∀ h, law h → law' h)
    {st : Standing} {h h' : Chronicle ι} (hd : Drift i law st h h') : Drift i law' st h h' := by
  induction hd with
  | refl => exact .refl
  | note _ hj hs hnote ih => exact ih.note hj hs (hlaw _ hnote)

namespace Discipline

/-- What is within two disciplines. -/
def and (D E : Discipline) : Discipline where
  inv s := D.inv s ∧ E.inv s
  rel s s' := D.rel s s' ∧ E.rel s s'
  refl s := ⟨D.refl s, E.refl s⟩
  trans h h' := ⟨D.trans h.1 h'.1, E.trans h.2 h'.2⟩

variable {D E : Discipline} {F : Store → Prop}

theorem Keeps.and {c : Command} (hD : D.Keeps F c) (hE : E.Keeps F c) : (D.and E).Keeps F c := by
  intro s s' a hinv hF hexec
  obtain ⟨hinvD, hrelD⟩ := hD s s' a hinv.1 hF hexec
  obtain ⟨hinvE, hrelE⟩ := hE s s' a hinv.2 hF hexec
  exact ⟨⟨hinvD, hinvE⟩, hrelD, hrelE⟩

theorem Lasting.and_left (hF : D.Lasting F) : (D.and E).Lasting F :=
  fun _ _ hrel => hF _ _ hrel.1

theorem Lasting.and_right (hF : E.Lasting F) : (D.and E).Lasting F :=
  fun _ _ hrel => hF _ _ hrel.2

/-- The law of a discipline in which a session makes a request only on a store of which `C` says
that it may. -/
def vetting (D : Discipline) (C : ι → Store → Request → Prop) (h : Chronicle ι) : Prop :=
  D.law h ∧ ∀ d ∈ h.past, C d.session d.before d.turn.request

variable {C : ι → Store → Request → Prop} {i : ι} {h h' : Chronicle ι} {st : Standing}
  {faulty : Prop}

theorem vetting_start {s : Store} (hs : D.inv s) : D.vetting C (.start s) :=
  ⟨law_start hs, by simp⟩

theorem vetting_note {turn : Turn} {s : Store} (hlaw : D.law (h.note i turn s))
    (hh : D.vetting C h) (hC : C i h.store turn.request) : D.vetting C (h.note i turn s) := by
  refine ⟨hlaw, fun d hd => ?_⟩
  rcases List.mem_append.1 hd with hd | hd
  · exact hh.2 d hd
  · rw [List.mem_singleton.1 hd]
    exact hC

/-- A flow abides by the law with conditions where it abides by the one without, if none of its
requests is on a condition. -/
theorem abides_vetting {post : α → Standing → Chronicle ι → Prop} {x : Flow α}
    (hx : x.Abides i D.law faulty post st h) (hasks : x.Asks fun r => ∀ s, C i s r)
    (hh : D.vetting C h) :
    x.Abides i (D.vetting C) faulty (fun a st h => post a st h ∧ D.vetting C h) st h := by
  induction x generalizing st h with
  | done a => exact ⟨hx, hh⟩
  | ask r k ih =>
    intro h' hd cue a st' s hcue hserve
    obtain ⟨hlaw, hk⟩ := hx h' (hd.weaken fun _ h => h.1) cue a st' s hcue hserve
    have hnote : D.vetting C (h'.note i ⟨r, a⟩ s) :=
      vetting_note hlaw (hd.lawful hh) (hasks.1 _)
    exact ⟨hnote, ih a hk (hasks.2 a) hnote⟩

/-- Outside of transactions, with the condition `F` made sure of. -/
structure Poised (D : Discipline) (C : ι → Store → Request → Prop) (F : Store → Prop)
    (h : Chronicle ι) : Prop where
  /-- The law holds. -/
  lawful : D.vetting C h
  /-- The condition holds. -/
  cond : F h.store

namespace Poised

theorem holds (hh : D.Poised C F h) : D.Holds F .outside h :=
  ⟨sound_outside _, hh.lawful.1, hh.cond⟩

theorem inv (hh : D.Poised C F h) : D.inv h.store := hh.lawful.1.1

theorem drift (hF : D.Lasting F) (hh : D.Poised C F h) (hd : Drift i (D.vetting C) .outside h h') :
    D.Poised C F h' := by
  have hlaw := hd.lawful hh.lawful
  exact ⟨hlaw, hF _ _ (rel_of_extends hd.toExtends hlaw.1) hh.cond⟩

/-- The rule for a request that the condition allows and that is not for the store. -/
theorem abides_request (hF : D.Lasting F) (hh : D.Poised C F h) {r : Request}
    (hr : r.isElsewhere) (hC : ∀ s, D.inv s → F s → C i s r) :
    (Flow.request r).Abides i (D.vetting C) faulty (fun _ st h => st = .outside ∧ D.Poised C F h)
      .outside h := by
  refine Flow.abides_request_elsewhere hr fun h' a hd => ?_
  have hh' := hh.drift hF hd
  have hnote : D.vetting C (h'.note i ⟨r, a⟩ h'.store) :=
    vetting_note (quiet_law i _ _ hh'.lawful.1) hh'.lawful (hC _ hh'.inv hh'.cond)
  exact ⟨hnote, rfl, hnote, hh'.cond⟩

variable {ok : α → Standing → Chronicle ι → Prop} {err : Error → Standing → Chronicle ι → Prop}

/-- The rule for an action none of whose requests is on a condition. -/
theorem abides_free (hF : D.Lasting F) (hh : D.Poised C F h) {x : Action α}
    (hx : x.Issues (D.Keeps F) false) (hasks : x.Asks fun r => ∀ s, C i s r)
    (hok : ∀ a h, D.Poised C F h → ok a .outside h)
    (herr : ∀ e h, D.Poised C F h → err e .outside h) :
    Action.Abides i (D.vetting C) faulty ok err x .outside h := by
  refine Flow.Abides.mono (abides_vetting (abides_outside hF hx hh.holds) hasks hh.lawful) ?_
  rintro (e | a) st h ⟨⟨rfl, hholds⟩, hlaw⟩
  · exact herr e h ⟨hlaw, hholds.cond⟩
  · exact hok a h ⟨hlaw, hholds.cond⟩

/-- The rule for a question. -/
theorem abides_read (hF : D.Lasting F) (hh : D.Poised C F h) {q : Query}
    (hC : ∀ s, C i s (.read q)) {ok : q.Answer → Standing → Chronicle ι → Prop}
    (hok : ∀ h, D.Poised C F h → ok (q.eval h.store) .outside h)
    (herr : ∀ e h, D.Poised C F h → err e .outside h) :
    Action.Abides i (D.vetting C) faulty ok err (Action.read q) .outside h := by
  have hread : Action.Abides i D.law faulty
      (fun a st h => st = .outside ∧ F h.store ∧ a = q.eval h.store)
      (fun _ st h => st = .outside ∧ F h.store) (Action.read q) .outside h :=
    Action.abides_read (quiet_law i) hh.lawful.1
      (fun _ hm => ⟨rfl, (hh.holds.meantime hF hm).cond, rfl⟩)
      fun _ _ _ hm => ⟨rfl, (hh.holds.meantime hF hm).cond⟩
  refine Flow.Abides.mono (abides_vetting hread (Action.asks_read hC) hh.lawful) ?_
  rintro (e | a) st h ⟨hres, hlaw⟩
  · obtain ⟨rfl, hcond⟩ := hres
    exact herr e h ⟨hlaw, hcond⟩
  · obtain ⟨rfl, hcond, rfl⟩ := hres
    exact hok h ⟨hlaw, hcond⟩

/-- The rule for looking up a SIM. -/
theorem abides_find (hF : D.Lasting F) (hh : D.Poised C F h) {q : SimQuery} {missing : Missing}
    (hC : ∀ s, C i s (.read (.sim q))) {ok : Sim → Standing → Chronicle ι → Prop}
    (hok : ∀ sim h, sim ∈ h.store.sims.rows → q.holds sim → D.Poised C F h → ok sim .outside h)
    (herr : ∀ e h, D.Poised C F h → err e .outside h) :
    Action.Abides i (D.vetting C) faulty ok err (Stock.find q missing) .outside h := by
  refine Action.abides_bind (hh.abides_read hF hC (fun h' hh' => ?_) herr)
  refine Action.abides_expect (fun sim hfind => ?_) fun _ => herr _ _ hh'
  exact hok sim h' (List.mem_of_find?_eq_some hfind) (List.find?_some hfind) hh'

/-- The rule for an update: the SIM that it returns is the one that was to be updated, and it is
stored. -/
theorem abides_update (hF : D.Lasting F) (hh : D.Poised C F h) {id : SimId} {change : SimChange}
    (hkeeps : D.Keeps F (.changeSim id change))
    (hC : (Stock.update id change).Asks fun r => ∀ s, C i s r)
    {ok : Sim → Standing → Chronicle ι → Prop}
    (hok : ∀ sim h, sim.id = id → sim ∈ h.store.sims.rows → D.Poised C F h → ok sim .outside h)
    (herr : ∀ e h, D.Poised C F h → err e .outside h) :
    Action.Abides i (D.vetting C) faulty ok err (Stock.update id change) .outside h := by
  have hupdate : Action.Abides i D.law faulty
      (fun sim st h => st = .outside ∧ F h.store ∧ sim.id = id ∧ sim ∈ h.store.sims.rows)
      (fun _ st h => st = .outside ∧ F h.store) (Stock.update id change) .outside h :=
    Discipline.abides_update hF hkeeps hh.holds
      (fun _ _ hid hmem hholds => ⟨rfl, hholds.cond, hid, hmem⟩)
      fun _ _ hholds => ⟨rfl, hholds.cond⟩
  refine Flow.Abides.mono (abides_vetting hupdate hC hh.lawful) ?_
  rintro (e | sim) st h ⟨hres, hlaw⟩
  · obtain ⟨rfl, hcond⟩ := hres
    exact herr e h ⟨hlaw, hcond⟩
  · obtain ⟨rfl, hcond, hid, hmem⟩ := hres
    exact hok sim h hid hmem ⟨hlaw, hcond⟩

end Poised

/-- What a session that is alive is about to request it may request now. -/
theorem may_request [DecidableEq ι] {γ : ι → Type}
    {post : (i : ι) → γ i → Standing → Chronicle ι → Prop} {w : World γ}
    (hw : w.Orderly (D.vetting C) faulty post) (halive : (w.standing i).isGone = false)
    {r : Request} {k : r.Answer → Flow (γ i)} (hrest : w.rest i = .ask r k) : C i w.store r := by
  obtain ⟨h, hd, hx⟩ := hw.conduct i halive
  rw [hrest] at hx
  obtain ⟨cue, a, st, s, hcue, hserve⟩ := exists_serve r (w.standing i) w.store
  -- Whichever answer it gets, the law holds of the chronicle with this request in it.
  have hlaw := (hx _ hd cue a st s (by simp [hcue]) hserve).1
  exact hlaw.2 ⟨i, ⟨r, a⟩, w.store, s⟩ (by simp)

end Discipline

end SimDepot
