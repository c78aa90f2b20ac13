import SimDepot.Proofs.Session.InTurn

/-!
# Sessions on a store that fails

A store may fail at any statement. `Flow.Endures` says what comes of a session that nobody disturbs
while it does: it goes through the requests in order, as `Flow.Undisturbed` does, and every
statement may fail as well as be carried out. `World.endures_of_run` says the same of every run.

What a session comes to on a store that fails, it comes to on one that does not.
-/

namespace SimDepot

variable {ι : Type} {α β : Type} {i : ι}

namespace Flow

/-- Session `i` carries the flow out while nobody else makes a request, and any statement may fail.
It begins where it stands at `st`, after the chronicle `h`, and when it is done `post` holds of the
result, with where it stands then and with the chronicle. -/
def Endures (i : ι) (post : α → Standing → Chronicle ι → Prop) :
    Flow α → Standing → Chronicle ι → Prop
  | done a, st, h => post a st h
  | ask r k, st, h => ∀ cue a st' s, serve r cue st h.store = some (a, st', s) →
      (k a).Endures i post st' (h.note i ⟨r, a⟩ s)

variable {st : Standing} {h : Chronicle ι}

theorem Endures.mono {post post' : α → Standing → Chronicle ι → Prop} {x : Flow α}
    (hx : x.Endures i post st h) (hpost : ∀ a st h, post a st h → post' a st h) :
    x.Endures i post' st h := by
  induction x generalizing st h with
  | done a => exact hpost a st h hx
  | ask r k ih =>
    intro cue a st' s hserve
    exact ih a (hx cue a st' s hserve)

theorem Endures.bind {post : β → Standing → Chronicle ι → Prop} {x : Flow α} {f : α → Flow β}
    (hx : x.Endures i (fun a st h => (f a).Endures i post st h) st h) :
    (x >>= f).Endures i post st h := by
  induction x generalizing st h with
  | done a => exact hx
  | ask r k ih =>
    intro cue a st' s hserve
    exact ih a (hx cue a st' s hserve)

/-- What a session comes to on a store that fails, it comes to on one that does not. -/
theorem Endures.undisturbed {post : α → Standing → Chronicle ι → Prop} {x : Flow α}
    (hx : x.Endures i post st h) : x.Undisturbed i post st h := by
  induction x generalizing st h with
  | done a => exact hx
  | ask r k ih =>
    intro cue a st' s _ hserve
    exact ih a (hx cue a st' s hserve)

/-- Whatever fails, a session can come to an end of which `post` holds. -/
theorem Endures.exists_post {post : α → Standing → Chronicle ι → Prop} {x : Flow α}
    (hx : x.Endures i post st h) : ∃ a st' h', h.Extends h' ∧ post a st' h' := by
  induction x generalizing st h with
  | done a => exact ⟨a, st, h, .refl, hx⟩
  | ask r k ih =>
    obtain ⟨cue, a, st₁, s, -, hserve⟩ := exists_serve r st h.store
    obtain ⟨b, st', h', hextends, hpost⟩ := ih a (hx cue a st₁ s hserve)
    exact ⟨b, st', h', (Chronicle.Extends.refl.note i _ s).trans hextends, hpost⟩

end Flow

/-- The request is a question. -/
def Request.isRead : Request → Bool
  | read _ => true
  | _ => false

/-- A part of a session that only asks questions changes nothing, whatever it is answered. -/
theorem Flow.endures_questions {st : Standing} {h h₀ : Chronicle ι} {x : Flow α}
    (hasks : x.Asks fun r => r.isRead)
    (hasked : Chronicle.OnlyAsked i (fun r => r.isRead) h₀ h) :
    x.Endures i (fun _ st' h' => st' = st ∧ h'.store = h.store ∧
      Chronicle.OnlyAsked i (fun r => r.isRead) h₀ h') st h := by
  induction x generalizing h with
  | done a => exact ⟨rfl, rfl, hasked⟩
  | ask r k ih =>
    intro cue a st' s hserve
    obtain ⟨hread, hnext⟩ := hasks
    obtain ⟨rfl, rfl⟩ : st' = st ∧ s = h.store := by
      cases r <;> cases hread
      cases cue <;> cases hserve <;> exact ⟨rfl, rfl⟩
    exact ih a (hnext a) (hasked.note hread _)

/-- A session that makes all moves of a run endures what happens in it. -/
theorem World.endures_of_run [DecidableEq ι] {γ : ι → Type}
    {post : γ i → Standing → Chronicle ι → Prop} {cues : List Cue} {w w' : World γ}
    (hw : (w.rest i).Endures i post (w.standing i) w.toChronicle)
    (hrun : w.run (cues.map (.turn i)) = some w') :
    (w'.rest i).Endures i post (w'.standing i) w'.toChronicle := by
  induction cues generalizing w with
  | nil =>
    cases hrun
    exact hw
  | cons cue rest ih =>
    obtain ⟨w₁, hstep, hrest⟩ := run_cons hrun
    obtain ⟨r, k, a, st, s, hask, -, -, hserve, rfl⟩ := step_turn hstep
    rw [hask] at hw
    have hnext := hw cue a st s hserve
    exact ih (w := w.proceed i ⟨r, a⟩ st s (k a)) (by simpa [proceed] using hnext) hrest

/-! ## Rules -/

namespace Action

variable {st : Standing} {h : Chronicle ι}

/-- Session `i` carries the action out while nobody else makes a request, any statement may fail,
and `post` holds of the result. -/
def Endures (i : ι) (post : Except Error α → Standing → Chronicle ι → Prop) (x : Action α)
    (st : Standing) (h : Chronicle ι) : Prop :=
  x.run.Endures i post st h

variable {post : Except Error α → Standing → Chronicle ι → Prop}

theorem endures_pure {a : α} (hpost : post (.ok a) st h) : Endures i post (pure a) st h := hpost

theorem endures_throw {e : Error} (hpost : post (.error e) st h) :
    Endures i post (throw e) st h := hpost

theorem endures_ite {c : Prop} [Decidable c] {x y : Action α} (hx : c → Endures i post x st h)
    (hy : ¬ c → Endures i post y st h) : Endures i post (if c then x else y) st h := by
  split
  next hc => exact hx hc
  next hc => exact hy hc

theorem endures_expect {value : Option α} {e : Error} (hsome : ∀ a, value = some a →
    post (.ok a) st h) (hnone : value = none → post (.error e) st h) :
    Endures i post (expect value e) st h := by
  cases value with
  | none => exact hnone rfl
  | some a => exact hsome a rfl

/-- The rule for one action after another. -/
theorem endures_bind {x : Action β} {f : β → Action α}
    (hx : Endures i (fun res st h => match res with
      | .ok a => Endures i post (f a) st h
      | .error e => post (.error e) st h) x st h) : Endures i post (x >>= f) st h := by
  unfold Endures
  rw [ExceptT.run_bind]
  refine Flow.Endures.bind (Flow.Endures.mono hx fun res st h hres => ?_)
  cases res <;> exact hres

/-- The rule for an action whose result is taken as it is. -/
theorem endures_attempt {post : Except Error (Except Error α) → Standing → Chronicle ι → Prop}
    {x : Action α} (hx : Endures i (fun res st h => post (.ok res) st h) x st h) :
    Endures i post (attempt x) st h :=
  Flow.Endures.bind hx

/-- The rule for the clock. -/
theorem endures_now {post : Except Error Timestamp → Standing → Chronicle ι → Prop}
    (hok : ∀ t, post (.ok t) st (h.note i ⟨.now, t⟩ h.store)) : Endures i post now st h := by
  refine Flow.Endures.bind fun cue a st' s hserve => ?_
  obtain ⟨rfl, rfl⟩ := serve_of_isElsewhere rfl hserve
  exact hok a

/-- The rule for a question, which may fail. -/
theorem endures_read {blame : StoreFailure → Error} {q : Query}
    {post : Except Error q.Answer → Standing → Chronicle ι → Prop}
    (hok : post (.ok (q.eval (st.view h.store))) st
      (h.note i ⟨.read q, .ok (q.eval (st.view h.store))⟩ h.store))
    (herr : ∀ failure, post (.error (blame failure)) st
      (h.note i ⟨.read q, .error failure⟩ h.store)) :
    Endures i post (readOr blame q) st h := by
  refine Flow.Endures.bind fun cue a st' s hserve => ?_
  cases cue <;> cases hserve
  · exact hok
  · exact herr _

/-- The rule for a command, which may fail or be refused: outside of a transaction it lasts at
once. -/
theorem endures_write {blame : StoreFailure → Error} {c : Command}
    {post : Except Error c.Answer → Standing → Chronicle ι → Prop}
    (hok : ∀ s a, c.exec h.store = .ok (s, a) →
      post (.ok a) .outside (h.note i ⟨.write c, .ok a⟩ s))
    (herr : ∀ failure, post (.error (blame failure)) .outside
      (h.note i ⟨.write c, .error failure⟩ h.store)) :
    Endures i post (writeOr blame c) .outside h := by
  refine Flow.Endures.bind fun cue a st' s hserve => ?_
  cases cue <;> simp only [serve, Standing.write, Standing.view_outside, Option.some.injEq,
    reduceCtorEq] at hserve
  · cases hexec : c.exec h.store with
    | ok res =>
      rw [hexec] at hserve
      cases hserve
      exact hok _ _ hexec
    | error refusal =>
      rw [hexec] at hserve
      cases hserve
      exact herr _
  · cases hserve
    exact herr _

/-- The rule for storing a row and finding it again, where the command as well as the question may
fail. -/
theorem endures_insert {blame : StoreFailure → Error} {c : Command}
    {again : c.Answer → Action (Option α)}
    (hok : ∀ s a, c.exec h.store = .ok (s, a) → Endures i (fun res st h => match res with
      | .ok (some b) => post (.ok b) st h
      | .ok none => post (.error (blame .unfound)) st h
      | .error e => post (.error e) st h) (again a) .outside (h.note i ⟨.write c, .ok a⟩ s))
    (herr : ∀ failure, post (.error (blame failure)) .outside
      (h.note i ⟨.write c, .error failure⟩ h.store)) :
    Endures i post (insert blame c again) .outside h := by
  refine endures_bind (endures_write (fun s a hexec => endures_bind
    (Flow.Endures.mono (hok s a hexec) fun res st h hres => ?_)) herr)
  cases res with
  | error e => exact hres
  | ok found => cases found <;> exact hres

/-- The rule for a command in a transaction: the session sees it, and nothing lasts yet. -/
theorem endures_write_within {blame : StoreFailure → Error} {c : Command}
    {post : Except Error c.Answer → Standing → Chronicle ι → Prop} (hopen : st.isOpen)
    (hok : ∀ s a, c.exec (st.view h.store) = .ok (s, a) →
      post (.ok a) (.writing s) (h.note i ⟨.write c, .ok a⟩ h.store))
    (herr : ∀ failure, post (.error (blame failure)) st
      (h.note i ⟨.write c, .error failure⟩ h.store)) :
    Endures i post (writeOr blame c) st h := by
  refine Flow.Endures.bind fun cue a st' s hserve => ?_
  cases cue <;> simp only [serve, Standing.write, Option.some.injEq, reduceCtorEq] at hserve
  · cases hexec : c.exec (st.view h.store) with
    | ok res =>
      rw [hexec] at hserve
      cases st with
      | outside | gone => cases hopen
      | inside | writing draft =>
        cases hserve
        exact hok _ _ hexec
    | error refusal =>
      rw [hexec] at hserve
      cases hserve
      exact herr _
  · cases hserve
    exact herr _

/-- The rule for the end of a transaction: where it fails the transaction stays open. -/
theorem endures_commit {post : Except Error Unit → Standing → Chronicle ι → Prop}
    (hok : post (.ok ()) .outside (h.note i ⟨.commit, .ok ()⟩ (st.view h.store)))
    (herr : ∀ failure, post (.error (.store failure)) st
      (h.note i ⟨.commit, .error failure⟩ h.store)) : Endures i post commit st h := by
  refine Flow.Endures.bind fun cue a st' s hserve => ?_
  cases cue <;> cases hserve
  · exact hok
  · exact herr _

/-- The rule for taking a transaction back: where it fails the transaction stays open. -/
theorem endures_rollback {post : Except Error Unit → Standing → Chronicle ι → Prop}
    (hok : post (.ok ()) .outside (h.note i ⟨.rollback, .ok ()⟩ h.store))
    (herr : ∀ failure, post (.error (.store failure)) st
      (h.note i ⟨.rollback, .error failure⟩ h.store)) : Endures i post rollback st h := by
  refine Flow.Endures.bind fun cue a st' s hserve => ?_
  cases cue <;> cases hserve
  · exact hok
  · exact herr _

/-- The rule for a pause. -/
theorem endures_pause {milliseconds : Nat}
    {post : Except Error Unit → Standing → Chronicle ι → Prop}
    (hok : post (.ok ()) st (h.note i ⟨.pause milliseconds, ()⟩ h.store)) :
    Endures i post (pause milliseconds) st h := by
  refine Flow.Endures.bind fun cue a st' s hserve => ?_
  obtain ⟨rfl, rfl⟩ := serve_of_isElsewhere rfl hserve
  exact hok

/-- The rule for a call that activates, which a registry may answer as it likes. -/
theorem endures_activate {registry : RegistryId} {iccid msisdn : String}
    {post : Except Error Unit → Standing → Chronicle ι → Prop}
    (hpost : ∀ res, post res st (h.note i ⟨.activate registry iccid msisdn, res⟩ h.store)) :
    Endures i post (activate registry iccid msisdn) st h := by
  intro cue res st' s hserve
  obtain ⟨rfl, rfl⟩ := serve_of_isElsewhere rfl hserve
  exact hpost res

/-- The rule for a transaction: the body has to leave it where it succeeds, and its failure takes
back what it did. -/
theorem endures_inTransaction {body : Action α}
    (hbody : Endures i (fun res st h => match res with
      | .ok a => post (.ok a) st h
      | .error e => post (.error e) .outside (h.note i ⟨.abandon, ()⟩ h.store)) body .inside
        (h.note i ⟨.begin, .ok ()⟩ h.store))
    (hbegin : ∀ failure, post (.error (.store failure)) .outside
      (h.note i ⟨.begin, .error failure⟩ h.store)) :
    Endures i post (inTransaction body) .outside h := by
  refine endures_bind (Flow.Endures.bind fun cue a st' s hserve => ?_)
  cases cue <;> cases hserve
  · refine Flow.Endures.bind (Flow.Endures.mono hbody fun res st h hres => ?_)
    cases res with
    | ok a => exact hres
    | error e =>
      refine Flow.Endures.bind fun cue a st' s hserve => ?_
      cases cue <;> cases hserve
      exact hres
  · exact hbegin _

end Action

end SimDepot
