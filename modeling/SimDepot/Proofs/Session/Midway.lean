import SimDepot.Proofs.Session.Endurance

/-!
# Sessions midway

Some requests take their time, and while one of them is under way other sessions go on: the store
is not what it was when its answer comes. `Flow.UpTo` says of a session that nobody disturbs how
things stand when it makes such a request, and what is left to do on the answer. By
`World.upTo_of_run` this is so in every run in which the session is undisturbed up to then.
`World.stays_of_run` says that whatever the others do leaves the session where it is, so that its
second part goes on from the store that it finds.

`Flow.FirstAsks` says of the request, and of what is left to do then, what holds whatever the session
was answered, and so however it was disturbed.
-/

namespace SimDepot

variable {ι : Type} {α β : Type} {i : ι}

namespace Flow

/-- The request that the flow makes next, if anything is left to do. -/
def next? : Flow α → Option Request
  | done _ => none
  | ask r _ => some r

theorem exists_eq_ask {x : Flow α} {r : Request} (h : x.next? = some r) : ∃ k, x = ask r k := by
  cases x with
  | done a => cases h
  | ask r' k =>
    cases h
    exact ⟨k, rfl⟩

/-- Session `i` carries the flow out while nobody else makes a request, and any statement may fail.
It begins where it stands at `st`, after the chronicle `h`. When it makes its first request that
satisfies `Q`, then `out` holds of this request and of what is left to do on the answer, with where
the session stands then and with the chronicle. -/
def UpTo (i : ι) (Q : Request → Bool)
    (out : (r : Request) → (r.Answer → Flow α) → Standing → Chronicle ι → Prop) :
    Flow α → Standing → Chronicle ι → Prop
  | done _, _, _ => True
  | ask r k, st, h =>
    if Q r then out r k st h
    else ∀ cue a st' s, serve r cue st h.store = some (a, st', s) →
      (k a).UpTo i Q out st' (h.note i ⟨r, a⟩ s)

variable {Q : Request → Bool}
  {out : (r : Request) → (r.Answer → Flow α) → Standing → Chronicle ι → Prop} {st : Standing}
  {h : Chronicle ι}

theorem upTo_ask {r : Request} {k : r.Answer → Flow α} (hr : Q r) (hout : out r k st h) :
    (ask r k).UpTo i Q out st h := by
  rwa [UpTo, if_pos hr]

/-- A part that makes no such request leaves it to the rest. -/
theorem UpTo.bind {x : Flow β} {f : β → Flow α} (hasks : x.Asks fun r => Q r = false)
    (hx : x.Endures i (fun a st h => (f a).UpTo i Q out st h) st h) :
    (x >>= f).UpTo i Q out st h := by
  induction x generalizing st h with
  | done a => exact hx
  | ask r k ih =>
    rw [bind_ask, UpTo, if_neg (by simp [hasks.1])]
    intro cue a st' s hserve
    exact ih a (hasks.2 a) (hx cue a st' s hserve)

/-! ### However a session is disturbed -/

theorem Asks.of_follows {P : Request → Prop} {x y : Flow α} {turns : List Turn} (hx : x.Asks P)
    (hfollows : x.Follows turns y) : y.Asks P ∧ ∀ t ∈ turns, P t.request := by
  induction hfollows with
  | refl x => exact ⟨hx, by simp⟩
  | ask _ ih =>
    obtain ⟨hy, hturns⟩ := ih (hx.2 _)
    refine ⟨hy, fun t ht => ?_⟩
    rcases List.mem_cons.1 ht with rfl | ht
    · exact hx.1
    · exact hturns t ht

/-- Whatever the flow is answered, `C` holds of its first request that satisfies `Q` and of what is
left to do on the answer. -/
def FirstAsks (Q : Request → Bool) (C : (r : Request) → (r.Answer → Flow α) → Prop) :
    Flow α → Prop
  | done _ => True
  | ask r k => if Q r then C r k else ∀ a, (k a).FirstAsks Q C

variable {C : (r : Request) → (r.Answer → Flow α) → Prop}

theorem firstAsks_ask {r : Request} {k : r.Answer → Flow α} (hr : Q r) (hC : C r k) :
    (ask r k).FirstAsks Q C := by
  rwa [FirstAsks, if_pos hr]

/-- A part that makes no such request leaves it to the rest. -/
theorem FirstAsks.bind {x : Flow β} {f : β → Flow α} (hasks : x.Asks fun r => Q r = false)
    (hf : ∀ b, (f b).FirstAsks Q C) : (x >>= f).FirstAsks Q C := by
  induction x with
  | done b => exact hf b
  | ask r k ih =>
    rw [bind_ask, FirstAsks, if_neg (by simp [hasks.1])]
    exact fun a => ih a (hasks.2 a)

/-- Of a flow that makes one such request at most, this one is still to come, or it was made. -/
theorem FirstAsks.of_follows (honce : ∀ r k, C r k → ∀ a, (k a).Asks fun r => Q r = false)
    {x y : Flow α} {turns : List Turn} (hx : x.FirstAsks Q C) (hfollows : x.Follows turns y) :
    (y.FirstAsks Q C ∧ ∀ t ∈ turns, Q t.request = false) ∨
      (y.Asks fun r => Q r = false) ∧ (turns.filter fun t => Q t.request).length = 1 := by
  induction hfollows with
  | refl x => exact .inl ⟨hx, by simp⟩
  | @ask r k a turns y hfollows ih =>
    rw [FirstAsks] at hx
    by_cases hr : Q r
    · rw [if_pos hr] at hx
      obtain ⟨hy, hturns⟩ := (honce r k hx a).of_follows hfollows
      have hnone : turns.filter (fun t => Q t.request) = [] :=
        List.filter_eq_nil_iff.2 fun t ht => by simp [hturns t ht]
      exact .inr ⟨hy, by simp [hr, hnone]⟩
    · rw [if_neg hr] at hx
      have hfalse : Q r = false := Bool.eq_false_of_not_eq_true hr
      rcases ih (hx a) with ⟨hy, hturns⟩ | ⟨hy, hone⟩
      · refine .inl ⟨hy, fun t ht => ?_⟩
        rcases List.mem_cons.1 ht with rfl | ht
        · exact hfalse
        · exact hturns t ht
      · exact .inr ⟨hy, by simpa [hfalse] using hone⟩

end Flow

/-- The session that makes a move. -/
def Move.session : Move ι → ι
  | .turn i _ => i
  | .death i => i

namespace World

variable [DecidableEq ι] {γ : ι → Type}

/-- How things stand when a session that makes all moves of a run makes a request that satisfies
`Q`, if it makes no second one. -/
theorem upTo_of_run {Q : Request → Bool}
    {out : (r : Request) → (r.Answer → Flow (γ i)) → Standing → Chronicle ι → Prop}
    (honce : ∀ r k st h, out r k st h → ∀ a, (k a).Asks fun r => Q r = false)
    {cues : List Cue} {w w' : World γ}
    (hw : (w.rest i).UpTo i Q out (w.standing i) w.toChronicle)
    (hrun : w.run (cues.map (.turn i)) = some w') {r : Request} {k : r.Answer → Flow (γ i)}
    (hask : w'.rest i = .ask r k) (hr : Q r) : out r k (w'.standing i) w'.toChronicle := by
  -- The request is still to come, or it was made and no other one comes.
  have hend : (w'.rest i).UpTo i Q out (w'.standing i) w'.toChronicle ∨
      (w'.rest i).Asks fun r => Q r = false := by
    refine run_induction (A := fun m => ∃ cue, m = .turn i cue)
      (P := fun v => (v.rest i).UpTo i Q out (v.standing i) v.toChronicle ∨
        (v.rest i).Asks fun r => Q r = false) (fun v m v' hv hm hstep => ?_) (.inl hw) (by simp)
      hrun
    obtain ⟨cue, rfl⟩ := hm
    obtain ⟨r', k', a, st, s, hrest, -, -, hserve, rfl⟩ := step_turn hstep
    simp only [proceed, Function.update_self]
    rw [hrest] at hv
    rcases hv with hupTo | hnone
    · rw [Flow.UpTo] at hupTo
      split at hupTo
      · exact .inr (honce r' k' _ _ hupTo a)
      · exact .inl (hupTo cue a st s hserve)
    · exact .inr (hnone.2 a)
  rw [hask] at hend
  rcases hend with hupTo | hnone
  · rwa [Flow.UpTo, if_pos hr] at hupTo
  · rw [hnone.1] at hr
    cases hr

/-- What others do leaves a session where it is. -/
theorem stays_of_run {w w' : World γ} {moves : List (Move ι)}
    (hothers : ∀ m ∈ moves, m.session ≠ i) (hrun : w.run moves = some w') :
    w'.rest i = w.rest i ∧ w'.standing i = w.standing i := by
  refine run_induction (A := fun m => m.session ≠ i)
    (P := fun v => v.rest i = w.rest i ∧ v.standing i = w.standing i) (fun v m v' hv hm hstep => ?_)
    ⟨rfl, rfl⟩ hothers hrun
  cases m with
  | death j =>
    cases hstep
    have hij : i ≠ j := Ne.symm hm
    simpa only [bury, Function.update_of_ne hij] using hv
  | turn j cue =>
    obtain ⟨r, k, a, st, s, -, -, -, -, rfl⟩ := step_turn hstep
    have hij : i ≠ j := Ne.symm hm
    simpa only [proceed, Function.update_of_ne hij] using hv

end World

/-! ## Rules -/

namespace Action

variable {st : Standing} {h : Chronicle ι}

/-- Session `i` carries the action out while nobody else makes a request, any statement may fail,
and `out` holds when it makes its first request that satisfies `Q`. -/
def UpTo (i : ι) (Q : Request → Bool) (out : (r : Request) → (r.Answer → Flow (Except Error α)) →
    Standing → Chronicle ι → Prop) (x : Action α) (st : Standing) (h : Chronicle ι) : Prop :=
  x.run.UpTo i Q out st h

variable {Q : Request → Bool} {out : (r : Request) → (r.Answer → Flow (Except Error α)) →
  Standing → Chronicle ι → Prop}

theorem upTo_throw {e : Error} : UpTo i Q out (throw e) st h := trivial

theorem upTo_ite {c : Prop} [Decidable c] {x y : Action α} (hx : c → UpTo i Q out x st h)
    (hy : ¬ c → UpTo i Q out y st h) : UpTo i Q out (if c then x else y) st h := by
  split
  next hc => exact hx hc
  next hc => exact hy hc

/-- The rule for a part that makes no such request: where it fails, that is the end. -/
theorem upTo_bind {x : Action β} {f : β → Action α} (hasks : Asks (fun r => Q r = false) x)
    (hx : Endures i (fun res st h => ∀ b, res = .ok b → UpTo i Q out (f b) st h) x st h) :
    UpTo i Q out (x >>= f) st h := by
  unfold UpTo
  rw [ExceptT.run_bind]
  refine Flow.UpTo.bind hasks (Flow.Endures.mono hx fun res st h hres => ?_)
  cases res with
  | ok b => exact hres b rfl
  | error e => trivial

theorem upTo_expect {value : Option β} {e : Error} {f : β → Action α}
    (hsome : ∀ b, value = some b → UpTo i Q out (f b) st h) :
    UpTo i Q out (expect value e >>= f) st h := by
  cases value with
  | none => trivial
  | some b => exact hsome b rfl

/-- Whatever the action is answered, `C` holds of its first request that satisfies `Q`. -/
def FirstAsks (Q : Request → Bool)
    (C : (r : Request) → (r.Answer → Flow (Except Error α)) → Prop) (x : Action α) : Prop :=
  x.run.FirstAsks Q C

variable {C : (r : Request) → (r.Answer → Flow (Except Error α)) → Prop}

theorem firstAsks_throw {e : Error} : FirstAsks Q C (throw e) := trivial

theorem firstAsks_ite {c : Prop} [Decidable c] {x y : Action α} (hx : FirstAsks Q C x)
    (hy : FirstAsks Q C y) : FirstAsks Q C (if c then x else y) := by
  split
  · exact hx
  · exact hy

/-- The rule for a part that makes no such request. -/
theorem firstAsks_bind {x : Action β} {f : β → Action α} (hasks : Asks (fun r => Q r = false) x)
    (hf : ∀ b, FirstAsks Q C (f b)) : FirstAsks Q C (x >>= f) := by
  unfold FirstAsks
  rw [ExceptT.run_bind]
  refine Flow.FirstAsks.bind hasks fun res => ?_
  cases res with
  | ok b => exact hf b
  | error e => trivial

end Action

end SimDepot
