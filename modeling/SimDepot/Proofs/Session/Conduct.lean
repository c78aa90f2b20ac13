import SimDepot.Proofs.Session.World

/-!
# Conduct of sessions

A law is a condition on chronicles that all sessions keep. `Flow.Abides` says of one flow that it
keeps the law with every request it makes, while the others do between its requests whatever the law
allows, and what then holds of its result. `World.Orderly.run` puts sessions together: where the
flow of each abides by the law, the law holds throughout every run, in whatever order the requests
of the sessions fall.

What others do in the meantime is `Drift`. It adds deeds of other sessions to the chronicle, and
changes nothing that lasts while the session holds the write lock.
-/

namespace SimDepot

variable {ι : Type}

namespace Chronicle

/-- A chronicle goes on from another one. -/
inductive Extends (h : Chronicle ι) : Chronicle ι → Prop
  /-- Nothing happened. -/
  | refl : Extends h h
  /-- One more request was answered. -/
  | note {h' : Chronicle ι} (he : Extends h h') (i : ι) (turn : Turn) (s : Store) :
    Extends h (h'.note i turn s)

theorem Extends.trans {h₁ h₂ h₃ : Chronicle ι} (h : h₁.Extends h₂) (h' : h₂.Extends h₃) :
    h₁.Extends h₃ := by
  induction h' with
  | refl => exact h
  | note _ i turn s ih => exact ih.note i turn s

theorem Extends.isPrefix_past {h h' : Chronicle ι} (he : h.Extends h') : h.past <+: h'.past := by
  induction he with
  | refl => exact List.prefix_rfl
  | note _ i turn s ih => exact ih.trans (List.prefix_append _ _)

/-- What every deed keeps holds from the store at one time to the store at a later one. -/
theorem Extends.rel {R : Store → Store → Prop} (refl : ∀ s, R s s)
    (trans : ∀ {a b c}, R a b → R b c → R a c) {h h' : Chronicle ι} (he : h.Extends h')
    (hR : ∀ d ∈ h'.past, R d.before d.after) : R h.store h'.store := by
  induction he with
  | refl => exact refl _
  | @note h' _ i turn s ih =>
    have hlast := hR ⟨i, turn, h'.store, s⟩ (by simp)
    exact trans (ih fun d hd => hR d (by simp [hd])) hlast

/-- What every deed keeps holds from the store that a deed left to the store at a later time. -/
theorem Extends.rel_of_mem {R : Store → Store → Prop} (refl : ∀ s, R s s)
    (trans : ∀ {a b c}, R a b → R b c → R a c) {s : Store} {h : Chronicle ι}
    (he : (start s).Extends h) (hR : ∀ d ∈ h.past, R d.before d.after) {d : Deed ι}
    (hd : d ∈ h.past) : R d.after h.store := by
  induction he with
  | refl => cases hd
  | @note h _ i turn s' ih =>
    have hlast := hR ⟨i, turn, h.store, s'⟩ (by simp)
    rcases List.mem_append.1 hd with hd | hd
    · exact trans (ih (fun e he => hR e (by simp [he])) hd) hlast
    · rw [List.mem_singleton.1 hd]
      exact refl _

end Chronicle

/-- What other sessions may do between two requests of session `i`: anything that keeps the law,
and nothing that lasts while the session holds the write lock. -/
inductive Drift (i : ι) (law : Chronicle ι → Prop) (st : Standing) (h : Chronicle ι) :
    Chronicle ι → Prop
  /-- Nothing happened. -/
  | refl : Drift i law st h h
  /-- A request of another session was answered. -/
  | note {h' : Chronicle ι} {j : ι} {turn : Turn} {s : Store} (hd : Drift i law st h h')
    (hj : j ≠ i) (hs : st.isWriting → s = h'.store) (hlaw : law (h'.note j turn s)) :
    Drift i law st h (h'.note j turn s)

namespace Drift

variable {i : ι} {law : Chronicle ι → Prop} {st : Standing} {h h' : Chronicle ι}

theorem lawful (hd : Drift i law st h h') (hh : law h) : law h' := by
  cases hd with
  | refl => exact hh
  | note _ _ _ hlaw => exact hlaw

theorem toExtends (hd : Drift i law st h h') : h.Extends h' := by
  induction hd with
  | refl => exact .refl
  | note _ _ _ _ ih => exact ih.note _ _ _

theorem store_eq (hd : Drift i law st h h') (hst : st.isWriting) : h'.store = h.store := by
  induction hd with
  | refl => rfl
  | note _ _ hs _ ih => exact (hs hst).trans ih

end Drift

namespace Flow

variable {α β : Type}

/-- From the chronicle `h` on, session `i` makes every request of the flow within the law, whatever
others do in the meantime, and `post` holds of the result. The store fails only where `faulty`
says so. -/
def Abides (i : ι) (law : Chronicle ι → Prop) (faulty : Prop)
    (post : α → Standing → Chronicle ι → Prop) : Flow α → Standing → Chronicle ι → Prop
  | done a, st, h => post a st h
  | ask r k, st, h => ∀ h', Drift i law st h h' → ∀ cue a st' s, (cue.isFault → faulty) →
      serve r cue st h'.store = some (a, st', s) →
      law (h'.note i ⟨r, a⟩ s) ∧ (k a).Abides i law faulty post st' (h'.note i ⟨r, a⟩ s)

variable {i : ι} {law : Chronicle ι → Prop} {faulty : Prop} {st : Standing} {h : Chronicle ι}

theorem Abides.mono {post post' : α → Standing → Chronicle ι → Prop} {x : Flow α}
    (hx : x.Abides i law faulty post st h) (hpost : ∀ a st h, post a st h → post' a st h) :
    x.Abides i law faulty post' st h := by
  induction x generalizing st h with
  | done a => exact hpost _ _ _ hx
  | ask r k ih =>
    intro h' hd cue a st' s hcue hserve
    obtain ⟨hlaw, hk⟩ := hx h' hd cue a st' s hcue hserve
    exact ⟨hlaw, ih a hk⟩

/-- A flow after another one abides where the first one does and leaves the second one to. -/
theorem Abides.bind {post : β → Standing → Chronicle ι → Prop} {x : Flow α} {f : α → Flow β}
    (hx : x.Abides i law faulty (fun a st h => (f a).Abides i law faulty post st h) st h) :
    (x >>= f).Abides i law faulty post st h := by
  induction x generalizing st h with
  | done a => exact hx
  | ask r k ih =>
    intro h' hd cue a st' s hcue hserve
    obtain ⟨hlaw, hk⟩ := hx h' hd cue a st' s hcue hserve
    exact ⟨hlaw, ih a hk⟩

/-- What happens while a flow is carried out goes on from what happened before. -/
theorem Abides.extending {post : α → Standing → Chronicle ι → Prop} {x : Flow α}
    {h₀ : Chronicle ι} (hx : x.Abides i law faulty post st h) (he : h₀.Extends h) :
    x.Abides i law faulty (fun a st h => post a st h ∧ h₀.Extends h) st h := by
  induction x generalizing st h with
  | done a => exact ⟨hx, he⟩
  | ask r k ih =>
    intro h' hd cue a st' s hcue hserve
    obtain ⟨hlaw, hk⟩ := hx h' hd cue a st' s hcue hserve
    exact ⟨hlaw, ih a hk ((he.trans hd.toExtends).note i _ s)⟩

end Flow

/-! ## Sessions side by side -/

theorem isGone_serve {r : Request} {cue : Cue} {st st' : Standing} {s s' : Store} {a : r.Answer}
    (h : serve r cue st s = some (a, st', s')) (hst : st.isGone = false) : st'.isGone = false := by
  cases r <;> cases cue <;> simp only [serve, Option.some.injEq, Prod.mk.injEq, reduceCtorEq] at h
  case write.plain c =>
    unfold Standing.write at h
    split at h
    · obtain ⟨-, rfl, -⟩ := h
      exact hst
    · cases st <;> cases h <;> first | rfl | exact hst
  all_goals
    obtain ⟨-, rfl, -⟩ := h
    first | rfl | exact hst

/-- A session does not die of its requests. -/
theorem Flow.Abides.alive {α : Type} {i : ι} {law : Chronicle ι → Prop} {faulty : Prop}
    {st : Standing} {h : Chronicle ι} {post : α → Standing → Chronicle ι → Prop} {x : Flow α}
    (hx : x.Abides i law faulty post st h) (hst : st.isGone = false) :
    x.Abides i law faulty (fun a st h => post a st h ∧ st.isGone = false) st h := by
  induction x generalizing st h with
  | done a => exact ⟨hx, hst⟩
  | ask r k ih =>
    intro h' hd cue a st' s hcue hserve
    obtain ⟨hlaw, hk⟩ := hx h' hd cue a st' s hcue hserve
    exact ⟨hlaw, ih a hk (isGone_serve hserve hst)⟩

/-- Only a command and the end of a transaction that has written change what lasts, and only a
command takes the write lock. -/
theorem serve_of_not_isWrite {r : Request} {cue : Cue} {st st' : Standing} {s s' : Store}
    {a : r.Answer} (h : serve r cue st s = some (a, st', s')) (hr : r.isWrite = false)
    (hst : st.isWriting = false) : s' = s ∧ st'.isWriting = false := by
  cases r <;> cases cue <;> simp only [serve, Option.some.injEq, Prod.mk.injEq, reduceCtorEq] at h
  case write.plain c => cases hr
  case commit.plain =>
    obtain ⟨-, rfl, rfl⟩ := h
    exact ⟨Standing.view_of_not_isWriting hst s, rfl⟩
  all_goals
    obtain ⟨-, rfl, rfl⟩ := h
    exact ⟨rfl, by first | rfl | exact hst⟩

namespace World

variable [DecidableEq ι] {α : ι → Type}

/-- The sessions of a world are within the law, and each has a flow that abides by it. -/
structure Orderly (law : Chronicle ι → Prop) (faulty : Prop)
    (post : (i : ι) → α i → Standing → Chronicle ι → Prop) (w : World α) : Prop where
  /-- The law holds. -/
  lawful : law w.toChronicle
  /-- The session that holds the write lock is the one whose transaction has written. -/
  exclusive : ∀ i, w.writer = some i ↔ (w.standing i).isWriting
  /-- What is left to do for a session that is alive abides by the law. -/
  conduct : ∀ i, (w.standing i).isGone = false → ∃ h,
    Drift i law (w.standing i) h w.toChronicle ∧
      (w.rest i).Abides i law faulty (post i) (w.standing i) h

variable {law : Chronicle ι → Prop} {faulty : Prop}
  {post : (i : ι) → α i → Standing → Chronicle ι → Prop}

omit [DecidableEq ι] in
theorem Orderly.start {s : Store} {x : (i : ι) → Flow (α i)} (hlaw : law (.start s))
    (hx : ∀ i, (x i).Abides i law faulty (post i) .outside (.start s)) :
    (World.start s x).Orderly law faulty post where
  lawful := hlaw
  exclusive := by simp [World.start, Standing.isWriting]
  conduct i _ := ⟨.start s, .refl, hx i⟩

/-- While session `i` holds the write lock, what another session does changes nothing that lasts and
leaves it without the lock. -/
theorem Orderly.serve_of_lock {w : World α} (hw : w.Orderly law faulty post) {i j : ι} (hj : j ≠ i)
    (hwriting : (w.standing i).isWriting) {r : Request}
    {cue : Cue} (hfree : r.isWrite → w.isLockedFor j → cue.isFault) {a : r.Answer} {st : Standing}
    {s : Store} (hserve : serve r cue (w.standing j) w.store = some (a, st, s)) :
    s = w.store ∧ st.isWriting = false := by
  have hlock := (hw.exclusive i).2 hwriting
  have hlocked : w.isLockedFor j = true := by simp [isLockedFor, hlock, Ne.symm hj]
  have hst : (w.standing j).isWriting = false := by
    cases hjw : (w.standing j).isWriting with
    | false => rfl
    | true =>
      have := (hw.exclusive j).2 hjw
      rw [hlock, Option.some.injEq] at this
      exact absurd this.symm hj
  cases hr : r.isWrite with
  | false => exact serve_of_not_isWrite hserve hr hst
  | true =>
    obtain ⟨rfl, rfl⟩ := serve_of_isFault (hfree hr hlocked) hserve
    exact ⟨rfl, hst⟩

theorem Orderly.exclusive_proceed {w : World α} (hw : w.Orderly law faulty post) {i : ι}
    {r : Request} {cue : Cue} (hfree : r.isWrite → w.isLockedFor i → cue.isFault) {a : r.Answer}
    {st : Standing} {s : Store} (hserve : serve r cue (w.standing i) w.store = some (a, st, s))
    (x : Flow (α i)) :
    ∀ j, (w.proceed i ⟨r, a⟩ st s x).writer = some j ↔
      ((w.proceed i ⟨r, a⟩ st s x).standing j).isWriting := by
  intro j
  by_cases hji : j = i
  · subst hji
    simp only [proceed, Function.update_self]
    by_cases hst : st.isWriting
    · simp [hst]
    · by_cases hlock : w.writer = some j <;> simp [hst, hlock]
  · simp only [proceed, Function.update_of_ne hji, ← hw.exclusive j]
    by_cases hlock : w.writer = some j
    · have hst := (hw.serve_of_lock (Ne.symm hji) ((hw.exclusive j).1 hlock) hfree hserve).2
      simp [hst, hlock, hji]
    · by_cases hst : st.isWriting
      · simp [hst, hlock, Ne.symm hji]
      · by_cases hown : w.writer = some i <;> simp [hst, hlock, hown, Ne.symm hji]

theorem Orderly.bury {w : World α} (hw : w.Orderly law faulty post) (i : ι) :
    (w.bury i).Orderly law faulty post where
  lawful := hw.lawful
  exclusive j := by
    by_cases hji : j = i
    · subst hji
      by_cases hlock : w.writer = some j <;> simp [World.bury, Standing.isWriting, hlock]
    · simp only [World.bury, Function.update_of_ne hji, ← hw.exclusive j]
      by_cases hlock : w.writer = some i
      · simp [hlock, Ne.symm hji]
      · simp [hlock]
  conduct j hj := by
    by_cases hji : j = i
    · subst hji
      simp [World.bury, Standing.isGone] at hj
    · simp only [World.bury, Function.update_of_ne hji] at hj ⊢
      exact hw.conduct j hj

/-- A move keeps the order: the session that makes it abides by the law, and for the others it is
part of what happens in the meantime. -/
theorem Orderly.step {w w' : World α} (hw : w.Orderly law faulty post) {m : Move ι}
    (hm : m.isFault → faulty) (hstep : w.step m = some w') : w'.Orderly law faulty post := by
  cases m with
  | death i =>
    cases hstep
    exact hw.bury i
  | turn i cue =>
    obtain ⟨r, k, a, st, s, hrest, halive, hfree, hserve, rfl⟩ := step_turn hstep
    obtain ⟨h, hd, hx⟩ := hw.conduct i halive
    rw [hrest] at hx
    obtain ⟨hlaw, hk⟩ := hx _ hd cue a st s hm hserve
    refine ⟨hlaw, hw.exclusive_proceed hfree hserve _, fun j hj => ?_⟩
    by_cases hji : j = i
    · subst hji
      simp only [proceed, Function.update_self]
      exact ⟨_, .refl, hk⟩
    · simp only [proceed, Function.update_of_ne hji] at hj ⊢
      obtain ⟨hj₀, hdj, hxj⟩ := hw.conduct j hj
      exact ⟨hj₀, hdj.note (Ne.symm hji) (fun hwriting =>
        (hw.serve_of_lock (Ne.symm hji) hwriting hfree hserve).1) hlaw, hxj⟩

/-- The law holds throughout every run. -/
theorem Orderly.run {w w' : World α} (hw : w.Orderly law faulty post) {moves : List (Move ι)}
    (hmoves : ∀ m ∈ moves, m.isFault → faulty) (hrun : w.run moves = some w') :
    w'.Orderly law faulty post :=
  run_induction (A := fun m => m.isFault → faulty) (fun _ _ _ hw hm hstep => hw.step hm hstep) hw
    hmoves hrun

omit [DecidableEq ι] in
/-- What holds of the result of a session held when it was done, and others went on since. -/
theorem Orderly.post_of_done {w : World α} (hw : w.Orderly law faulty post) {i : ι}
    (hi : (w.standing i).isGone = false) {a : α i} (hdone : w.rest i = .done a) :
    ∃ h, Drift i law (w.standing i) h w.toChronicle ∧ post i a (w.standing i) h := by
  obtain ⟨h, hd, hx⟩ := hw.conduct i hi
  rw [hdone] at hx
  exact ⟨h, hd, hx⟩

/-- Whatever fails, a process is alive until it dies. -/
theorem not_isGone_of_deathless {w w' : World α} (hw : ∀ i, (w.standing i).isGone = false)
    {moves : List (Move ι)} (hmoves : ∀ m ∈ moves, ∀ i, m ≠ .death i)
    (hrun : w.run moves = some w') : ∀ i, (w'.standing i).isGone = false := by
  refine run_induction (P := fun v => ∀ i, (v.standing i).isGone = false)
    (A := fun m => ∀ i, m ≠ .death i) (fun v m v' hv hm hstep i => ?_) hw hmoves hrun
  cases m with
  | death j => exact absurd rfl (hm j)
  | turn j cue =>
    obtain ⟨r, k, a, st, s, -, halive, -, hserve, rfl⟩ := step_turn hstep
    by_cases hij : i = j
    · subst hij
      simp only [proceed, Function.update_self]
      exact isGone_serve hserve halive
    · simp only [proceed, Function.update_of_ne hij]
      exact hv i

/-- Where nothing goes wrong no process dies. -/
theorem not_isGone_of_smooth {w w' : World α} (hw : ∀ i, (w.standing i).isGone = false)
    {moves : List (Move ι)} (hmoves : ∀ m ∈ moves, m.isSmooth) (hrun : w.run moves = some w') :
    ∀ i, (w'.standing i).isGone = false := by
  refine not_isGone_of_deathless hw (fun m hm i hdeath => ?_) hrun
  have hsmooth := hmoves m hm
  rw [hdeath] at hsmooth
  cases hsmooth

/-- A run goes on from the chronicle it starts with. -/
theorem extends_of_run {w w' : World α} {moves : List (Move ι)} (hrun : w.run moves = some w') :
    w.toChronicle.Extends w'.toChronicle := by
  refine run_induction (P := fun v => w.toChronicle.Extends v.toChronicle) (A := fun _ => True)
    (fun v m v' hv _ hstep => ?_) .refl (by simp) hrun
  cases m with
  | death i =>
    cases hstep
    exact hv
  | turn i cue =>
    obtain ⟨r, k, a, st, s, -, -, -, -, rfl⟩ := step_turn hstep
    exact hv.note i _ s

end World

end SimDepot
