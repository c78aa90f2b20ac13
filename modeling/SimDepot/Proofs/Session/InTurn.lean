import SimDepot.Proofs.Session.Alone
import SimDepot.Proofs.Session.Return
import SimDepot.Proofs.Session.Turn

/-!
# Sessions one after the other

A session may have the store to itself from its first request to its end, and leave the store to
the next one when it is done. `World.runInTurn` computes such runs. `Flow.Undisturbed` says what
comes of one session: it goes through the requests in order, as `Flow.Alone` does, and keeps the
chronicle, so that `post` may speak of what was requested as well as of what lasts.
`World.runInTurn_induction` puts sessions together: what every one of them keeps when it is
undisturbed, the run keeps.

A part of a session of which only the end and the kind of requests count is dealt with by
`Flow.Alone.undisturbed` and `Flow.Undisturbed.asking`.
-/

namespace SimDepot

variable {ι : Type}

/-- From `h` to `h'` session `i` made requests that satisfy `Q`, and nobody else made any. -/
def Chronicle.OnlyAsked (i : ι) (Q : Request → Prop) (h h' : Chronicle ι) : Prop :=
  ∃ new, h'.past = h.past ++ new ∧ ∀ d ∈ new, d.session = i ∧ Q d.turn.request

namespace Chronicle

variable {i : ι} {Q : Request → Prop} {h h' : Chronicle ι}

theorem OnlyAsked.refl (h : Chronicle ι) : OnlyAsked i Q h h := ⟨[], by simp⟩

theorem OnlyAsked.note (hasked : OnlyAsked i Q h h') {turn : Turn} (hturn : Q turn.request)
    (s : Store) : OnlyAsked i Q h (h'.note i turn s) := by
  obtain ⟨new, hpast, hnew⟩ := hasked
  refine ⟨new ++ [⟨i, turn, h'.store, s⟩], ?_, fun d hd => ?_⟩
  · rw [past_note, hpast, List.append_assoc]
  · rcases List.mem_append.1 hd with hd | hd
    · exact hnew d hd
    · rw [List.mem_singleton.1 hd]
      exact ⟨rfl, hturn⟩

theorem OnlyAsked.mono {Q' : Request → Prop} (hasked : OnlyAsked i Q h h')
    (hQ : ∀ r, Q r → Q' r) : OnlyAsked i Q' h h' := by
  obtain ⟨new, hpast, hnew⟩ := hasked
  exact ⟨new, hpast, fun d hd => ⟨(hnew d hd).1, hQ _ (hnew d hd).2⟩⟩

/-- What can be read off requests of other kinds only is the same afterwards. -/
theorem OnlyAsked.filterMap_eq {γ : Type} (hasked : OnlyAsked i Q h h') {f : Deed ι → Option γ}
    (hf : ∀ d, Q d.turn.request → f d = none) : h'.past.filterMap f = h.past.filterMap f := by
  obtain ⟨new, hpast, hnew⟩ := hasked
  have hnone : new.filterMap f = [] := List.filterMap_eq_nil_iff.2 fun d hd => hf d (hnew d hd).2
  rw [hpast, List.filterMap_append, hnone, List.append_nil]

end Chronicle

namespace Flow

variable {α β : Type} {i : ι}

/-- Session `i` carries the flow out while nobody else makes a request and the store does not fail.
It begins where it stands at `st`, after the chronicle `h`, and when it is done `post` holds of the
result, with where it stands then and with the chronicle. -/
def Undisturbed (i : ι) (post : α → Standing → Chronicle ι → Prop) :
    Flow α → Standing → Chronicle ι → Prop
  | done a, st, h => post a st h
  | ask r k, st, h => ∀ cue a st' s, cue.isFault = false →
      serve r cue st h.store = some (a, st', s) →
        (k a).Undisturbed i post st' (h.note i ⟨r, a⟩ s)

variable {st : Standing} {h : Chronicle ι}

theorem Undisturbed.mono {post post' : α → Standing → Chronicle ι → Prop} {x : Flow α}
    (hx : x.Undisturbed i post st h) (hpost : ∀ a st h, post a st h → post' a st h) :
    x.Undisturbed i post' st h := by
  induction x generalizing st h with
  | done a => exact hpost a st h hx
  | ask r k ih =>
    intro cue a st' s hcue hserve
    exact ih a (hx cue a st' s hcue hserve)

theorem Undisturbed.bind {post : β → Standing → Chronicle ι → Prop} {x : Flow α} {f : α → Flow β}
    (hx : x.Undisturbed i (fun a st h => (f a).Undisturbed i post st h) st h) :
    (x >>= f).Undisturbed i post st h := by
  induction x generalizing st h with
  | done a => exact hx
  | ask r k ih =>
    intro cue a st' s hcue hserve
    exact ih a (hx cue a st' s hcue hserve)

/-- A session that nobody disturbs is alone. -/
theorem Alone.undisturbed {post : α → Standing → Store → Prop} {x : Flow α}
    (hx : x.Alone post st h.store) :
    x.Undisturbed i (fun a st h => post a st h.store) st h := by
  induction x generalizing st h with
  | done a => exact hx
  | ask r k ih =>
    intro cue a st' s hcue hserve
    exact ih a (hx cue a st' s hcue hserve)

/-- What a session does among others, it does when nobody disturbs it. -/
theorem Abides.undisturbed {law : Chronicle ι → Prop} {post : α → Standing → Chronicle ι → Prop}
    {x : Flow α} (hx : x.Abides i law False post st h) : x.Undisturbed i post st h := by
  induction x generalizing st h with
  | done a => exact hx
  | ask r k ih =>
    intro cue a st' s hcue hserve
    have hplain : cue.isFault → False := by simp [hcue]
    exact ih a (hx h .refl cue a st' s hplain hserve).2

/-- What the session did while it carried the flow out was to make requests of this kind. -/
theorem Undisturbed.asking {Q : Request → Prop} {post : α → Standing → Chronicle ι → Prop}
    {x : Flow α} {h₀ : Chronicle ι} (hx : x.Undisturbed i post st h) (hasks : x.Asks Q)
    (hfirst : Chronicle.OnlyAsked i Q h₀ h) :
    x.Undisturbed i (fun a st h => post a st h ∧ Chronicle.OnlyAsked i Q h₀ h) st h := by
  induction x generalizing st h with
  | done a => exact ⟨hx, hfirst⟩
  | ask r k ih =>
    intro cue a st' s hcue hserve
    exact ih a (hx cue a st' s hcue hserve) (hasks.2 a) (hfirst.note hasks.1 s)

end Flow

/-! ## Rules -/

namespace Action

variable {α β : Type} {i : ι} {st : Standing} {h : Chronicle ι}

/-- Session `i` carries the action out while nobody else makes a request and the store does not
fail, and `post` holds of the result. -/
def Undisturbed (i : ι) (post : Except Error α → Standing → Chronicle ι → Prop) (x : Action α)
    (st : Standing) (h : Chronicle ι) : Prop :=
  x.run.Undisturbed i post st h

variable {post : Except Error α → Standing → Chronicle ι → Prop}

theorem undisturbed_pure {a : α} (hpost : post (.ok a) st h) :
    Undisturbed i post (pure a) st h := hpost

theorem undisturbed_throw {e : Error} (hpost : post (.error e) st h) :
    Undisturbed i post (throw e) st h := hpost

theorem undisturbed_ite {c : Prop} [Decidable c] {x y : Action α}
    (hx : c → Undisturbed i post x st h) (hy : ¬ c → Undisturbed i post y st h) :
    Undisturbed i post (if c then x else y) st h := by
  split
  next hc => exact hx hc
  next hc => exact hy hc

theorem undisturbed_expect {value : Option α} {e : Error}
    (hsome : ∀ a, value = some a → post (.ok a) st h)
    (hnone : value = none → post (.error e) st h) :
    Undisturbed i post (expect value e) st h := by
  cases value with
  | none => exact hnone rfl
  | some a => exact hsome a rfl

/-- The rule for one action after another. -/
theorem undisturbed_bind {x : Action β} {f : β → Action α}
    (hx : Undisturbed i (fun res st h => match res with
      | .ok a => Undisturbed i post (f a) st h
      | .error e => post (.error e) st h) x st h) : Undisturbed i post (x >>= f) st h := by
  unfold Undisturbed
  rw [ExceptT.run_bind]
  refine Flow.Undisturbed.bind (Flow.Undisturbed.mono hx fun res st h hres => ?_)
  cases res <;> exact hres

/-- The rule for an action of which the end counts, and the kind of its requests. -/
theorem undisturbed_alone {Q : Request → Prop} {ends : Except Error α → Standing → Store → Prop}
    {x : Action α} (hasks : Asks Q x) (hx : Alone ends x st h.store)
    (hpost : ∀ res st h', ends res st h'.store → Chronicle.OnlyAsked i Q h h' → post res st h') :
    Undisturbed i post x st h :=
  ((Flow.Alone.undisturbed hx).asking hasks (.refl h)).mono
    fun res st h' hres => hpost res st h' hres.1 hres.2

/-- The rule for a question. -/
theorem undisturbed_read {q : Query} {post : Except Error q.Answer → Standing → Chronicle ι → Prop}
    (hpost : post (.ok (q.eval (st.view h.store))) st
      (h.note i ⟨.read q, .ok (q.eval (st.view h.store))⟩ h.store)) :
    Undisturbed i post (read q) st h := by
  refine Flow.Undisturbed.bind fun cue a st' s hcue hserve => ?_
  cases cue <;> cases hserve
  · exact hpost
  · cases hcue

/-- The rule for a call of a vendor service, which may answer as it likes. -/
theorem undisturbed_release {vendor : VendorId} {sim : Sim}
    {post : Except Error Release → Standing → Chronicle ι → Prop}
    (hpost : ∀ res, post res st (h.note i ⟨.release vendor sim, res⟩ h.store)) :
    Undisturbed i post (release vendor sim) st h := by
  intro cue res st' s _ hserve
  obtain ⟨rfl, rfl⟩ := serve_of_isElsewhere rfl hserve
  exact hpost res

/-- The rule for a call that activates, which a registry may answer as it likes. -/
theorem undisturbed_activate {registry : RegistryId} {iccid msisdn : String}
    {post : Except Error Unit → Standing → Chronicle ι → Prop}
    (hpost : ∀ res, post res st (h.note i ⟨.activate registry iccid msisdn, res⟩ h.store)) :
    Undisturbed i post (activate registry iccid msisdn) st h := by
  intro cue res st' s _ hserve
  obtain ⟨rfl, rfl⟩ := serve_of_isElsewhere rfl hserve
  exact hpost res

end Action

/-! ## Runs -/

/-- A session that has the store to itself, and what is left open when its requests are answered. -/
structure Visit (ι : Type) where
  /-- The session. -/
  session : ι
  /-- One cue for each of its requests. -/
  cues : List Cue

namespace Visit

/-- The moves of the session. -/
def moves (v : Visit ι) : List (Move ι) := v.cues.map (.turn v.session)

/-- The store does not fail. -/
def isSmooth (v : Visit ι) : Bool := v.cues.all fun cue => !cue.isFault

end Visit

namespace World

variable [DecidableEq ι] {α : ι → Type}

/-- The world after visits, one after the other; nothing where a session is not done with what it
has to do when its visit is over. -/
def runInTurn (w : World α) : List (Visit ι) → Option (World α)
  | [] => some w
  | v :: rest => (w.run v.moves).bind fun w =>
    if (w.rest v.session).isDone then w.runInTurn rest else none

theorem runInTurn_cons {w w' : World α} {v : Visit ι} {rest : List (Visit ι)}
    (hrun : w.runInTurn (v :: rest) = some w') :
    ∃ w₁, w.run v.moves = some w₁ ∧ (w₁.rest v.session).isDone ∧ w₁.runInTurn rest = some w' := by
  obtain ⟨w₁, hvisit, hrest⟩ := Option.bind_eq_some_iff.1 hrun
  by_cases hdone : (w₁.rest v.session).isDone
  · rw [if_pos hdone] at hrest
    exact ⟨w₁, hvisit, hdone, hrest⟩
  · rw [if_neg hdone] at hrest
    cases hrest

/-- Sessions one after the other are sessions in one of the orders that there are. -/
theorem exists_run_of_runInTurn {w w' : World α} {visits : List (Visit ι)}
    (hrun : w.runInTurn visits = some w') : ∃ moves, w.run moves = some w' := by
  induction visits generalizing w with
  | nil => exact ⟨[], hrun⟩
  | cons v rest ih =>
    obtain ⟨w₁, hvisit, -, hrest⟩ := runInTurn_cons hrun
    obtain ⟨moves, hmoves⟩ := ih hrest
    exact ⟨v.moves ++ moves, run_append hvisit hmoves⟩

/-- A session that makes all moves of a run is undisturbed, and the others stay where they are. -/
theorem undisturbed_of_run {i : ι} {post : α i → Standing → Chronicle ι → Prop} {cues : List Cue}
    {w w' : World α} (hw : (w.rest i).Undisturbed i post (w.standing i) w.toChronicle)
    (hcues : ∀ cue ∈ cues, cue.isFault = false) (hrun : w.run (cues.map (.turn i)) = some w') :
    (w'.rest i).Undisturbed i post (w'.standing i) w'.toChronicle ∧
      ∀ j, j ≠ i → w'.rest j = w.rest j ∧ w'.standing j = w.standing j := by
  induction cues generalizing w with
  | nil =>
    cases hrun
    exact ⟨hw, fun _ _ => ⟨rfl, rfl⟩⟩
  | cons cue rest ih =>
    obtain ⟨w₁, hstep, hrest⟩ := run_cons hrun
    obtain ⟨r, k, a, st, s, hask, -, -, hserve, rfl⟩ := step_turn hstep
    rw [hask] at hw
    have hnext := hw cue a st s (hcues cue (by simp)) hserve
    obtain ⟨hend, hothers⟩ := ih (w := w.proceed i ⟨r, a⟩ st s (k a))
      (by simpa [proceed] using hnext) (fun c hc => hcues c (by simp [hc])) hrest
    refine ⟨hend, fun j hj => ?_⟩
    rw [(hothers j hj).1, (hothers j hj).2]
    exact ⟨Function.update_of_ne hj _ _, Function.update_of_ne hj _ _⟩

/-- What every session keeps when it is undisturbed, sessions one after the other keep. -/
theorem runInTurn_induction {J : Chronicle ι → Prop} {x : (i : ι) → Flow (α i)}
    (hkeep : ∀ i h, J h → (x i).Undisturbed i (fun _ _ h' => J h') .outside h) {s : Store}
    (hstart : J (.start s)) {visits : List (Visit ι)} (hsmooth : ∀ v ∈ visits, v.isSmooth)
    {w : World α} (hrun : (World.start s x).runInTurn visits = some w) : J w.toChronicle := by
  -- A session has not begun or is done whenever the store goes to the next one.
  suffices hall : ∀ v : World α, J v.toChronicle →
      (∀ i, v.rest i = x i ∧ v.standing i = .outside ∨ (v.rest i).isDone) →
        v.runInTurn visits = some w → J w.toChronicle from
    hall _ hstart (fun _ => .inl ⟨rfl, rfl⟩) hrun
  clear hrun
  induction visits with
  | nil =>
    intro v hJ _ hrun
    cases hrun
    exact hJ
  | cons visit rest ih =>
    intro v hJ hsessions hrun
    obtain ⟨v₁, hvisit, hdone, hrest⟩ := runInTurn_cons hrun
    have hbegin : (v.rest visit.session).Undisturbed visit.session (fun _ _ h => J h)
        (v.standing visit.session) v.toChronicle := by
      rcases hsessions visit.session with ⟨hx, hst⟩ | hended
      · rw [hx, hst]
        exact hkeep _ _ hJ
      · obtain ⟨a, ha⟩ := Flow.exists_eq_done hended
        rw [ha]
        exact hJ
    have hcues : ∀ cue ∈ visit.cues, cue.isFault = false := by
      simpa [Visit.isSmooth] using hsmooth visit (by simp)
    obtain ⟨hend, hothers⟩ := undisturbed_of_run hbegin hcues hvisit
    obtain ⟨a, ha⟩ := Flow.exists_eq_done hdone
    rw [ha] at hend
    refine ih (fun u hu => hsmooth u (by simp [hu])) v₁ hend (fun j => ?_) hrest
    by_cases hj : j = visit.session
    · rw [hj]
      exact .inr hdone
    · rw [(hothers j hj).1, (hothers j hj).2]
      exact hsessions j

end World

end SimDepot
