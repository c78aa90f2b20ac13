import SimDepot.Proofs.Session.Progress
import SimDepot.Proofs.Session.Rule

/-!
# Sessions alone

While nobody else writes and nothing goes wrong, what comes of a session is a question about its
flow and the store only. `Flow.Alone` answers it by going through the requests in order, with one
rule for each below; `Flow.post_of_comesTo` says that every run of the session ends as it says, and
`Flow.exists_comesTo` that some run comes to an end.

What is left open even then is what the clock shows and what services answer.
-/

namespace SimDepot

variable {α β : Type}

/-- However far a session alone has come, it can come to its end. -/
theorem World.exists_run_done {w : World fun _ : Unit => α}
    (halive : (w.standing ()).isGone = false) :
    ∃ moves w' a, (∀ m ∈ moves, m.isSmooth) ∧ w.run moves = some w' ∧ w'.rest () = .done a := by
  have hfree : w.FreeFor () := fun _ _ => rfl
  obtain ⟨moves, w', hsmooth, hrun, hended, -⟩ := exists_run_ended rfl hfree
  have halive' := not_isGone_of_smooth (fun _ => halive) hsmooth hrun ()
  rcases hended with hgone | ⟨a, ha⟩
  · rw [halive'] at hgone
    cases hgone
  · exact ⟨moves, w', a, hsmooth, hrun, ha⟩

namespace Flow

/-- Where the session stands at `st` and `s` lasts, the flow comes to a result of which `post`
holds, with where the session stands then and with what lasts. -/
def Alone (post : α → Standing → Store → Prop) : Flow α → Standing → Store → Prop
  | done a, st, s => post a st s
  | ask r k, st, s => ∀ cue a st' s', cue.isFault = false →
      serve r cue st s = some (a, st', s') → (k a).Alone post st' s'

/-- A session alone on the store `s` can come to the result `a`, and `s'` lasts then. -/
def ComesTo (x : Flow α) (s : Store) (a : α) (s' : Store) : Prop :=
  ∃ (moves : List (Move Unit)) (w : World fun _ : Unit => α), (∀ m ∈ moves, m.isSmooth) ∧
    (World.start s fun _ => x).run moves = some w ∧ w.rest () = .done a ∧ w.store = s'

variable {post : β → Standing → Store → Prop} {st : Standing} {s : Store}

theorem Alone.bind {x : Flow α} {f : α → Flow β}
    (hx : x.Alone (fun a st s => (f a).Alone post st s) st s) : (x >>= f).Alone post st s := by
  induction x generalizing st s with
  | done a => exact hx
  | ask r k ih =>
    intro cue a st' s' hcue hserve
    exact ih a (hx cue a st' s' hcue hserve)

theorem Alone.mono {post' : β → Standing → Store → Prop} {x : Flow β} (hx : x.Alone post st s)
    (hpost : ∀ a st s, post a st s → post' a st s) : x.Alone post' st s := by
  induction x generalizing st s with
  | done a => exact hpost a st s hx
  | ask r k ih =>
    intro cue a st' s' hcue hserve
    exact ih a (hx cue a st' s' hcue hserve)

/-- What a session alone keeps with every answer holds wherever a run of it has come. -/
theorem kept_of_run {P : Flow α → Standing → Chronicle Unit → Prop}
    (hkeep : ∀ {r k st h cue a st' s'}, P (.ask r k) st h → cue.isFault = false →
      serve r cue st h.store = some (a, st', s') → P (k a) st' (h.note () ⟨r, a⟩ s'))
    {w w' : World fun _ : Unit => α} (hw : P (w.rest ()) (w.standing ()) w.toChronicle)
    {moves : List (Move Unit)} (hsmooth : ∀ m ∈ moves, m.isSmooth) (hrun : w.run moves = some w') :
    P (w'.rest ()) (w'.standing ()) w'.toChronicle := by
  refine World.run_induction (A := fun m => m.isSmooth)
    (P := fun v => P (v.rest ()) (v.standing ()) v.toChronicle) (fun v m v' hv hm hstep => ?_)
    hw hsmooth hrun
  cases m with
  | death i => cases hm
  | turn i cue =>
    obtain ⟨r, k, a, st, s', hrest, -, -, hserve, rfl⟩ := World.step_turn hstep
    rw [hrest] at hv
    have hnext := hkeep hv (by simpa [Move.isSmooth] using hm) hserve
    simpa [World.proceed] using hnext

/-- However a session alone comes to its end, it does as its flow says. -/
theorem post_of_comesTo {x : Flow β} (hx : x.Alone post .outside s) {a : β} {s' : Store}
    (h : x.ComesTo s a s') : ∃ st, post a st s' := by
  obtain ⟨moves, w, hsmooth, hrun, hdone, rfl⟩ := h
  have hend : (w.rest ()).Alone post (w.standing ()) w.store :=
    kept_of_run (P := fun x st h => x.Alone post st h.store) (fun h => h _ _ _ _) hx hsmooth hrun
  rw [hdone] at hend
  exact ⟨w.standing (), hend⟩

/-- A session alone can always come to its end. -/
theorem exists_comesTo (x : Flow α) (s : Store) : ∃ a s', x.ComesTo s a s' := by
  obtain ⟨moves, w, a, hsmooth, hrun, hdone⟩ :=
    World.exists_run_done (w := World.start s fun _ : Unit => x) rfl
  exact ⟨a, w.store, moves, w, hsmooth, hrun, hdone, rfl⟩

end Flow

/-! ## Rules -/

namespace Action

open SimDepot.Flow

/-- Where the session stands at `st` and `s` lasts, the action comes to a result of which `post`
holds, with where the session stands then and with what lasts. -/
def Alone (post : Except Error α → Standing → Store → Prop) (x : Action α) (st : Standing)
    (s : Store) : Prop :=
  x.run.Alone post st s

variable {post : Except Error α → Standing → Store → Prop} {st : Standing} {s : Store}

theorem alone_pure {a : α} (h : post (.ok a) st s) : Alone post (pure a) st s := h

theorem alone_throw {e : Error} (h : post (.error e) st s) : Alone post (throw e) st s := h

/-- The rule for one action after another. -/
theorem alone_bind {x : Action β} {f : β → Action α}
    (hx : Alone (fun res st s => match res with
      | .ok a => Alone post (f a) st s
      | .error e => post (.error e) st s) x st s) : Alone post (x >>= f) st s := by
  unfold Alone
  rw [ExceptT.run_bind]
  refine Flow.Alone.bind (Flow.Alone.mono hx fun res st s hres => ?_)
  cases res <;> exact hres

/-- The rule for an action whose result is taken as it is. -/
theorem alone_attempt {post : Except Error (Except Error α) → Standing → Store → Prop}
    {x : Action α} (hx : Alone (fun res st s => post (.ok res) st s) x st s) :
    Alone post (attempt x) st s :=
  Flow.Alone.bind hx

/-- The rule for an action whose errors are dealt with. -/
theorem alone_tryCatch {x : Action α} {f : Error → Action α}
    (hx : Alone (fun res st s => match res with
      | .ok a => post (.ok a) st s
      | .error e => Alone post (f e) st s) x st s) : Alone post (tryCatch x f) st s := by
  refine Flow.Alone.bind (Flow.Alone.mono hx fun res st s hres => ?_)
  cases res <;> exact hres

theorem alone_expect {value : Option α} {e : Error}
    (hsome : ∀ a, value = some a → post (.ok a) st s)
    (hnone : value = none → post (.error e) st s) : Alone post (expect value e) st s := by
  cases value with
  | none => exact hnone rfl
  | some a => exact hsome a rfl

/-- The rule for a question. -/
theorem alone_read {blame : StoreFailure → Error} {q : Query}
    {post : Except Error q.Answer → Standing → Store → Prop}
    (h : post (.ok (q.eval (st.view s))) st s) : Alone post (readOr blame q) st s := by
  refine Flow.Alone.bind fun cue a st' s' hcue hserve => ?_
  cases cue <;> cases hserve
  · exact h
  · cases hcue

/-- The rule for a command: outside of a transaction it lasts at once. -/
theorem alone_write {blame : StoreFailure → Error} {c : Command}
    {post : Except Error c.Answer → Standing → Store → Prop}
    (hok : ∀ s' a, c.exec s = .ok (s', a) → post (.ok a) .outside s')
    (herr : ∀ refusal, c.exec s = .error refusal →
      post (.error (blame (.refused .execution refusal))) .outside s) :
    Alone post (writeOr blame c) .outside s := by
  refine Flow.Alone.bind fun cue a st' s' hcue hserve => ?_
  cases cue <;> simp only [serve, Standing.write, Standing.view_outside, Option.some.injEq,
    reduceCtorEq] at hserve
  · cases hexec : c.exec s with
    | ok res =>
      rw [hexec] at hserve
      cases hserve
      exact hok res.1 res.2 hexec
    | error refusal =>
      rw [hexec] at hserve
      cases hserve
      exact herr refusal hexec
  · cases hcue

/-- The rule for a command that is carried out. -/
theorem alone_write_ok {blame : StoreFailure → Error} {c : Command}
    {post : Except Error c.Answer → Standing → Store → Prop} {s' : Store} {a : c.Answer}
    (hexec : c.exec s = .ok (s', a)) (h : post (.ok a) .outside s') :
    Alone post (writeOr blame c) .outside s := by
  refine alone_write (fun t b ht => ?_) fun refusal ht => ?_
  · rw [hexec] at ht
    cases ht
    exact h
  · rw [hexec] at ht
    cases ht

/-- The rule for a command that is refused. -/
theorem alone_write_error {blame : StoreFailure → Error} {c : Command}
    {post : Except Error c.Answer → Standing → Store → Prop} {refusal : Refusal}
    (hexec : c.exec s = .error refusal)
    (h : post (.error (blame (.refused .execution refusal))) .outside s) :
    Alone post (writeOr blame c) .outside s := by
  refine alone_write (fun t b ht => ?_) fun refusal' ht => ?_
  · rw [hexec] at ht
    cases ht
  · rw [hexec] at ht
    cases ht
    exact h

/-- The rule for storing a row that is then found. -/
theorem alone_insert {blame : StoreFailure → Error} {c : Command}
    {again : c.Answer → Action (Option α)} {s' : Store} {a : c.Answer} {b : α}
    (hexec : c.exec s = .ok (s', a))
    (hagain : Alone (fun res st t => res = .ok (some b) ∧ st = .outside ∧ t = s') (again a)
      .outside s') (h : post (.ok b) .outside s') :
    Alone post (insert blame c again) .outside s := by
  refine alone_bind (alone_write_ok hexec (alone_bind (Flow.Alone.mono hagain ?_)))
  rintro _ _ _ ⟨rfl, rfl, rfl⟩
  exact h

/-- The rule for storing a row that is refused. -/
theorem alone_insert_error {blame : StoreFailure → Error} {c : Command}
    {again : c.Answer → Action (Option α)} {refusal : Refusal} (hexec : c.exec s = .error refusal)
    (h : post (.error (blame (.refused .execution refusal))) .outside s) :
    Alone post (insert blame c again) .outside s :=
  alone_bind (alone_write_error hexec h)

/-- The rule for a command in a transaction: the session sees it, and nothing lasts yet. -/
theorem alone_write_within {blame : StoreFailure → Error} {c : Command}
    {post : Except Error c.Answer → Standing → Store → Prop} (hopen : st.isOpen)
    (hok : ∀ s' a, c.exec (st.view s) = .ok (s', a) → post (.ok a) (.writing s') s)
    (herr : ∀ refusal, c.exec (st.view s) = .error refusal →
      post (.error (blame (.refused .execution refusal))) st s) :
    Alone post (writeOr blame c) st s := by
  refine Flow.Alone.bind fun cue a st' s' hcue hserve => ?_
  cases cue <;> simp only [serve, Standing.write, Option.some.injEq, reduceCtorEq] at hserve
  · cases hexec : c.exec (st.view s) with
    | ok res =>
      rw [hexec] at hserve
      cases st with
      | outside | gone => cases hopen
      | inside | writing draft =>
        cases hserve
        exact hok res.1 res.2 hexec
    | error refusal =>
      rw [hexec] at hserve
      cases hserve
      exact herr refusal hexec
  · cases hcue

/-- The rule for the clock, which may show anything. -/
theorem alone_now {post : Except Error Timestamp → Standing → Store → Prop}
    (h : ∀ t, post (.ok t) st s) : Alone post now st s := by
  refine Flow.Alone.bind fun cue a st' s' _ hserve => ?_
  cases cue <;> cases hserve
  exact h a

/-- The rule for the end of a transaction. -/
theorem alone_commit {post : Except Error Unit → Standing → Store → Prop}
    (h : post (.ok ()) .outside (st.view s)) : Alone post commit st s := by
  refine Flow.Alone.bind fun cue a st' s' hcue hserve => ?_
  cases cue <;> cases hserve
  · exact h
  · cases hcue

/-- The rule for taking a transaction back. -/
theorem alone_rollback {post : Except Error Unit → Standing → Store → Prop}
    (h : post (.ok ()) .outside s) : Alone post rollback st s := by
  refine Flow.Alone.bind fun cue a st' s' hcue hserve => ?_
  cases cue <;> cases hserve
  · exact h
  · cases hcue

/-- The rule for a transaction: the body has to leave it where it succeeds, and its failure takes
back what it did. -/
theorem alone_inTransaction {body : Action α}
    (hbody : Alone (fun res st s => match res with
      | .ok a => post (.ok a) st s
      | .error e => post (.error e) .outside s) body .inside s) :
    Alone post (inTransaction body) .outside s := by
  refine alone_bind (Flow.Alone.bind fun cue a st' s' hcue hserve => ?_)
  cases cue <;> cases hserve
  · refine Flow.Alone.bind (Flow.Alone.mono hbody fun res st s hres => ?_)
    cases res with
    | ok a => exact hres
    | error e =>
      refine Flow.Alone.bind fun cue a st' s' _ hserve => ?_
      cases cue <;> cases hserve
      exact hres
  · cases hcue

end Action

end SimDepot
