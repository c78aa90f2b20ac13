import SimDepot.Proofs.Session.Commands
import SimDepot.Proofs.Session.Rule
import SimDepot.Stock.Update

/-!
# Disciplines

Many laws say of each command what it may do to the store, and nothing of answers or of the order of
requests. Such a law is a `Discipline`: an invariant of the store, and a relation between the store
before and after whatever happens. A session abides by it when it gives only commands that keep it.

A command may keep a discipline only on a condition that the session has made sure of. The condition
has to be one that lasts, whatever is done within the discipline.
-/

namespace SimDepot

variable {α : Type}

/-- An invariant of the store, and what relates the store before and after whatever happens. -/
structure Discipline where
  /-- The invariant. -/
  inv : Store → Prop
  /-- The relation. -/
  rel : Store → Store → Prop
  /-- Leaving the store as it is is allowed. -/
  refl : ∀ s, rel s s
  /-- What is allowed step by step is allowed. -/
  trans : ∀ {a b c}, rel a b → rel b c → rel a c

namespace Discipline

variable {ι : Type} {D : Discipline} {F : Store → Prop}

/-- The law of a discipline. -/
def law (D : Discipline) (h : Chronicle ι) : Prop :=
  D.inv h.store ∧ ∀ d ∈ h.past, D.rel d.before d.after

theorem law_start {s : Store} (hs : D.inv s) : D.law (.start s : Chronicle ι) := ⟨hs, by simp⟩

theorem law_note {h : Chronicle ι} (hlaw : D.law h) (i : ι) (turn : Turn) {s : Store}
    (hinv : D.inv s) (hrel : D.rel h.store s) : D.law (h.note i turn s) := by
  refine ⟨hinv, fun d hd => ?_⟩
  rcases List.mem_append.1 hd with hd | hd
  · exact hlaw.2 d hd
  · rw [List.mem_singleton] at hd
    subst hd
    exact hrel

theorem quiet_law (i : ι) : Quiet i D.law :=
  fun _ turn hlaw => law_note hlaw i turn hlaw.1 (D.refl _)

/-- Within a discipline, the store at one time is related to the store at any later time. -/
theorem rel_of_extends {h h' : Chronicle ι} (he : h.Extends h') (hlaw : D.law h') :
    D.rel h.store h'.store :=
  he.rel D.refl D.trans hlaw.2

/-- Within a discipline, what a deed left is related to the store at any later time. -/
theorem rel_of_mem {s : Store} {h : Chronicle ι} (he : (Chronicle.start s).Extends h)
    (hlaw : D.law h) {d : Deed ι} (hd : d ∈ h.past) : D.rel d.after h.store :=
  he.rel_of_mem D.refl D.trans hlaw.2 hd

/-- A command keeps a discipline where the condition `F` holds. -/
def Keeps (D : Discipline) (F : Store → Prop) (c : Command) : Prop :=
  ∀ s s' a, D.inv s → F s → c.exec s = .ok (s', a) → D.inv s' ∧ D.rel s s'

/-- The condition `F` lasts, whatever is done within a discipline. -/
def Lasting (D : Discipline) (F : Store → Prop) : Prop :=
  ∀ s s', D.rel s s' → F s → F s'

/-- What a transaction has written is within the discipline. -/
def Sound (D : Discipline) (st : Standing) (s : Store) : Prop :=
  ∀ draft, st = .writing draft → D.inv draft ∧ D.rel s draft

theorem sound_outside (s : Store) : D.Sound .outside s := fun _ h => Standing.noConfusion h

theorem Sound.view {st : Standing} {s : Store} (hst : D.Sound st s) (hs : D.inv s) :
    D.inv (st.view s) ∧ D.rel s (st.view s) := by
  cases st with
  | writing draft => exact hst draft rfl
  | _ => exact ⟨hs, D.refl s⟩

/-- A session whose request is answered stays within the discipline. -/
theorem Sound.serve {r : Request} {cue : Cue} {st st' : Standing} {s s' : Store} {a : r.Answer}
    (hst : D.Sound st s) (hs : D.inv s) (hF : D.Lasting F) (hFs : F s)
    (hr : ∀ c, r = .write c → D.Keeps F c) (h : serve r cue st s = some (a, st', s')) :
    D.inv s' ∧ D.rel s s' ∧ D.Sound st' s' := by
  cases r <;> cases cue <;> simp only [SimDepot.serve, Option.some.injEq, Prod.mk.injEq,
    reduceCtorEq] at h
  case write.plain c =>
    obtain ⟨hview, hrel⟩ := hst.view hs
    unfold Standing.write at h
    split at h
    · cases h
      exact ⟨hs, D.refl s, hst⟩
    next t b hexec =>
      obtain ⟨ht, hrelt⟩ := hr c rfl _ _ _ hview (hF _ _ hrel hFs) hexec
      cases st with
      | outside =>
        cases h
        exact ⟨ht, hrelt, sound_outside _⟩
      | gone =>
        cases h
        exact ⟨ht, hrelt, fun _ h => Standing.noConfusion h⟩
      | inside =>
        cases h
        exact ⟨hs, D.refl s, fun _ h => by cases h; exact ⟨ht, hrelt⟩⟩
      | writing draft =>
        cases h
        exact ⟨hs, D.refl s, fun _ h => by cases h; exact ⟨ht, D.trans hrel hrelt⟩⟩
  case commit.plain =>
    obtain ⟨-, rfl, rfl⟩ := h
    obtain ⟨hview, hrel⟩ := hst.view hs
    exact ⟨hview, hrel, sound_outside _⟩
  all_goals
    obtain ⟨-, rfl, rfl⟩ := h
    exact ⟨hs, D.refl s, by first | exact hst | exact fun _ h => Standing.noConfusion h⟩

/-- The session is within the discipline, and the condition holds. -/
structure Holds (D : Discipline) (F : Store → Prop) (st : Standing) (h : Chronicle ι) : Prop where
  /-- What the transaction has written is within the discipline. -/
  sound : D.Sound st h.store
  /-- The law holds. -/
  lawful : D.law h
  /-- The condition holds. -/
  cond : F h.store

theorem Holds.meantime {i : ι} {st : Standing} {h h' : Chronicle ι} (hF : D.Lasting F)
    (hh : D.Holds F st h) (hm : Meantime i D.law st h h') : D.Holds F st h' where
  sound draft hdraft := by
    rw [hm.store_eq (by rw [hdraft]; rfl)]
    exact hh.sound draft hdraft
  lawful := hm.lawful hh.lawful
  cond := hF _ _ (rel_of_extends hm.toExtends (hm.lawful hh.lawful)) hh.cond

/-- A session that gives only commands which keep a discipline, on a condition that lasts, abides by
its law, and it is in a transaction as far as its flow is. -/
theorem abides_of_obeys {faulty : Prop} {i : ι} {post : α → Bool → Prop} {x : Flow α}
    (hF : D.Lasting F) {st : Standing} {h : Chronicle ι} (hx : x.Obeys (D.Keeps F) post st.isOpen)
    (hh : D.Holds F st h) :
    x.Abides i D.law faulty (fun a st h => post a st.isOpen ∧ D.Holds F st h) st h := by
  induction x generalizing st h with
  | done a => exact ⟨hx, hh⟩
  | ask r k ih =>
    intro h' hd cue a st' s _ hserve
    have hh' := hh.meantime hF hd.toMeantime
    obtain ⟨hinv, hrel, hst'⟩ := hh'.sound.serve hh'.lawful.1 hF hh'.cond hx.1 hserve
    have hnote := law_note hh'.lawful i ⟨r, a⟩ hinv hrel
    have hrest := hx.2.2 a
    rw [← isOpen_of_serve hserve] at hrest
    exact ⟨hnote, ih a hrest ⟨hst', hnote, hF _ _ hrel hh'.cond⟩⟩

/-- The same of a flow that ends in a transaction or outside of one as it began. -/
theorem abides_of_issues {faulty : Prop} {i : ι} {x : Flow α} (hF : D.Lasting F) {st : Standing}
    {h : Chronicle ι} (hx : x.Issues (D.Keeps F) st.isOpen) (hh : D.Holds F st h) :
    x.Abides i D.law faulty (fun _ st' h => st'.isOpen = st.isOpen ∧ D.Holds F st' h) st h := by
  unfold Flow.Issues at hx
  exact abides_of_obeys hF hx hh

/-- Sessions that give only commands which keep a discipline are within its law, and out of their
transactions when they are done. -/
theorem orderly_start {faulty : Prop} {γ : ι → Type} {s : Store} {x : (i : ι) → Flow (γ i)}
    (hs : D.inv s) (hx : ∀ i, (x i).Issues (D.Keeps fun _ => True) false) :
    (World.start s x).Orderly D.law faulty fun _ _ st _ => st.isOpen = false := by
  refine World.Orderly.start (law_start hs) fun i => ?_
  have hholds : D.Holds (fun _ => True) .outside (.start s : Chronicle ι) :=
    ⟨sound_outside _, law_start hs, trivial⟩
  exact (abides_of_issues (fun _ _ _ h => h) (hx i) hholds).mono fun _ _ _ h => h.1

/-! ### Laws of others

What a session may do is one thing, and what others may do another. The commands of a session may
keep a discipline that the others do not, and the session abides by any law that allows what it
does within its own discipline.
-/

/-- The law allows session `i` whatever is within a discipline without an invariant. -/
structure Serves (D : Discipline) (i : ι) (law : Chronicle ι → Prop) : Prop where
  /-- There is no invariant. -/
  inv : ∀ s, D.inv s
  /-- What is within the discipline is allowed. -/
  note : ∀ h turn s, law h → D.rel h.store s → law (h.note i turn s)

theorem Serves.quiet {i : ι} {law : Chronicle ι → Prop} (hD : D.Serves i law) : Quiet i law :=
  fun h turn hlaw => hD.note h turn h.store hlaw (D.refl _)

/-- A session whose commands keep a discipline abides by any law that allows what is within it. -/
theorem Serves.abides_of_obeys {i : ι} {law : Chronicle ι → Prop} (hD : D.Serves i law)
    {faulty : Prop} {post : α → Bool → Prop} {x : Flow α} {st : Standing} {h : Chronicle ι}
    (hx : x.Obeys (D.Keeps fun _ => True) post st.isOpen) (hsound : D.Sound st h.store)
    (hlaw : law h) : x.Abides i law faulty (fun a st h => post a st.isOpen ∧ law h) st h := by
  induction x generalizing st h with
  | done a => exact ⟨hx, hlaw⟩
  | ask r k ih =>
    intro h' hd cue a st' s _ hserve
    have hsound' : D.Sound st h'.store := by
      intro draft hdraft
      rw [hd.store_eq (by rw [hdraft]; rfl)]
      exact hsound draft hdraft
    obtain ⟨-, hrel, hst'⟩ :=
      hsound'.serve (hD.inv _) (fun _ _ _ h => h) trivial hx.1 hserve
    have hnote := hD.note h' ⟨r, a⟩ s (hd.lawful hlaw) hrel
    have hrest := hx.2.2 a
    rw [← isOpen_of_serve hserve] at hrest
    exact ⟨hnote, ih a hrest hst' hnote⟩

/-- The same of an action outside of transactions whose result does not matter. -/
theorem Serves.abides_of_issues {i : ι} {law : Chronicle ι → Prop} (hD : D.Serves i law)
    {faulty : Prop} {x : Action α} {h : Chronicle ι}
    (hx : x.Issues (D.Keeps fun _ => True) false) (hlaw : law h) :
    Action.Abides i law faulty (fun _ _ h => law h) (fun _ _ h => law h) x .outside h := by
  have houtside : x.run.Issues (D.Keeps fun _ => True) Standing.outside.isOpen := hx
  refine (hD.abides_of_obeys houtside (sound_outside _) hlaw).mono fun res st h hres => ?_
  cases res <;> exact hres.2

section Rules

variable {faulty : Prop} {i : ι} {st : Standing} {h : Chronicle ι}
  {err : Error → Standing → Chronicle ι → Prop}

/-- The rule for an action whose answers do not matter. -/
theorem abides_any {ok : α → Standing → Chronicle ι → Prop} {x : Action α} (hF : D.Lasting F)
    (hx : x.Issues (D.Keeps F) st.isOpen) (hh : D.Holds F st h)
    (hok : ∀ a st h, D.Holds F st h → ok a st h) (herr : ∀ e st h, D.Holds F st h → err e st h) :
    Action.Abides i D.law faulty ok err x st h := by
  refine (abides_of_issues hF hx hh).mono fun res st h ⟨_, hh⟩ => ?_
  cases res with
  | ok a => exact hok a st h hh
  | error e => exact herr e st h hh

/-- The rule for an action outside of transactions: it ends outside of them. -/
theorem abides_outside {x : Action α} (hF : D.Lasting F) (hx : x.Issues (D.Keeps F) false)
    (hh : D.Holds F .outside h) :
    Action.Abides i D.law faulty (fun _ st h => st = .outside ∧ D.Holds F st h)
      (fun _ st h => st = .outside ∧ D.Holds F st h) x .outside h := by
  have houtside : x.run.Issues (D.Keeps F) Standing.outside.isOpen := hx
  refine (Flow.Abides.alive (abides_of_issues hF houtside hh) rfl).mono
    fun res st h ⟨⟨hopen, hh⟩, halive⟩ => ?_
  have hst : st = .outside := Standing.eq_outside hopen halive
  cases res <;> exact ⟨hst, hh⟩

/-- The rule for an update outside of transactions: the SIM that it returns is the one that was to
be updated, and it is stored. -/
theorem abides_update {ok : Sim → Standing → Chronicle ι → Prop} {id : SimId} {change : SimChange}
    (hF : D.Lasting F) (hkeeps : D.Keeps F (.changeSim id change)) (hh : D.Holds F .outside h)
    (hok : ∀ sim h, sim.id = id → sim ∈ h.store.sims.rows → D.Holds F .outside h →
      ok sim .outside h)
    (herr : ∀ e h, D.Holds F .outside h → err e .outside h) :
    Action.Abides i D.law faulty ok err (Stock.update id change) .outside h := by
  refine Action.abides_bind ((abides_outside hF (Action.issues_write hkeeps) hh).mono ?_ ?_)
  · rintro changed st₁ h₁ ⟨rfl, hh₁⟩
    refine Action.abides_bind (Action.abides_read (quiet_law i) hh₁.lawful (fun h₂ hm => ?_)
      fun _ h₂ _ hm => herr _ _ (hh₁.meantime hF hm))
    have hh₂ := hh₁.meantime hF hm
    rw [Standing.view_outside]
    cases hfind : Query.eval h₂.store (.sim (.withId id)) with
    | none => exact herr _ _ hh₂
    | some sim =>
      obtain ⟨hsim, hid⟩ := Table.withId?_eq_some_iff.1 hfind
      refine Action.abides_bind (Action.abides_pure ?_)
      by_cases hchanged : changed = 0
      · rw [if_pos hchanged]
        exact herr _ _ hh₂
      · rw [if_neg hchanged]
        exact hok sim _ hid hsim hh₂
  · rintro e st₁ h₁ ⟨rfl, hh₁⟩
    exact herr e h₁ hh₁

end Rules

end Discipline

end SimDepot
