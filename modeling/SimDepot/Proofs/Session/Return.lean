import SimDepot.Proofs.Session.Turn

/-!
# What part of a flow returned

The requests that a session made, with their answers, determine how far it is. `Flow.Returned` says
that the first part of a flow has come to its end with a result; `World.Orderly.post_of_returned`
says of a session what held of that result when it was there, however the session went on. Some
results can be read off a single answer: `Flow.SettledBy` says that a flow is at its end with a
result once this request was answered so.
-/

namespace SimDepot

namespace Flow

variable {α : Type}

/-- The flow makes these requests, gets these answers, and then this is left to do. -/
inductive Follows : Flow α → List Turn → Flow α → Prop
  /-- Nothing was requested. -/
  | refl (x : Flow α) : Follows x [] x
  /-- The first request, and those that follow on its answer. -/
  | ask {r : Request} {k : r.Answer → Flow α} {a : r.Answer} {turns : List Turn} {y : Flow α}
    (h : Follows (k a) turns y) : Follows (.ask r k) (⟨r, a⟩ :: turns) y

/-- With these requests, or the first of them, the flow has come to its end with the result `a`. -/
def Returned (x : Flow α) (turns : List Turn) (a : α) : Prop :=
  ∃ early late, turns = early ++ late ∧ x.Follows early (done a)

theorem Follows.snoc {x : Flow α} {turns : List Turn} {r : Request} {k : r.Answer → Flow α}
    (h : x.Follows turns (.ask r k)) (a : r.Answer) : x.Follows (turns ++ [⟨r, a⟩]) (k a) := by
  generalize hy : Flow.ask r k = y at h
  induction h with
  | refl =>
    subst hy
    exact .ask (.refl _)
  | ask _ ih => exact .ask (ih hy)

theorem Follows.eq_of_nil {x y : Flow α} (h : x.Follows [] y) : y = x := by
  cases h
  rfl

/-- A flow that came to its end makes no further request. -/
theorem Follows.eq_done {x y : Flow α} {early late : List Turn} {a : α}
    (h : x.Follows early (done a)) (h' : x.Follows (early ++ late) y) : late = [] ∧ y = done a := by
  induction early generalizing x with
  | nil =>
    cases h
    cases late with
    | nil =>
      cases h'
      exact ⟨rfl, rfl⟩
    | cons t late => cases h'
  | cons t early ih =>
    cases h with
    | ask h =>
      cases h' with
      | ask h' => exact ih h h'

theorem not_returned_of_follows_ask {x : Flow α} {turns : List Turn} {r : Request}
    {k : r.Answer → Flow α} (h : x.Follows turns (.ask r k)) (a : α) : ¬ x.Returned turns a := by
  rintro ⟨early, late, rfl, ha⟩
  cases (ha.eq_done h).2

/-- The result that the flow comes to when it makes these requests and gets these answers. -/
def replay : Flow α → List Turn → Option α
  | done a, _ => some a
  | ask _ _, [] => none
  | ask r k, turn :: rest =>
    if h : turn.request = r then (k (h ▸ turn.answer)).replay rest else none

/-- Whether a flow has come to its end can be computed. -/
theorem returned_iff {x : Flow α} {turns : List Turn} {a : α} :
    x.Returned turns a ↔ x.replay turns = some a := by
  induction x generalizing turns with
  | done b =>
    constructor
    · rintro ⟨early, late, rfl, h⟩
      cases h
      rfl
    · intro h
      cases h
      exact ⟨[], turns, rfl, .refl _⟩
  | ask r k ih =>
    constructor
    · rintro ⟨early, late, rfl, h⟩
      cases h with
      | @ask _ _ b early' _ h => exact (dif_pos rfl).trans (ih b |>.1 ⟨early', late, rfl, h⟩)
    · intro h
      cases turns with
      | nil => cases h
      | cons turn rest =>
        obtain ⟨r', b⟩ := turn
        simp only [replay] at h
        split at h
        next he =>
          subst he
          obtain ⟨early, late, rfl, hfollows⟩ := (ih b).2 h
          exact ⟨_, late, rfl, .ask hfollows⟩
        next => cases h

theorem returned_ask_iff {r : Request} {k : r.Answer → Flow α} {b : r.Answer} {turns : List Turn}
    {a : α} : (ask r k).Returned (⟨r, b⟩ :: turns) a ↔ (k b).Returned turns a := by
  simp [returned_iff, replay]

/-- A flow comes to its end with one result at most. -/
theorem Returned.unique {x : Flow α} {turns : List Turn} {a b : α} (ha : x.Returned turns a)
    (hb : x.Returned turns b) : a = b :=
  Option.some.inj ((returned_iff.1 ha).symm.trans (returned_iff.1 hb))

theorem exists_returned_ok {ε : Type} {x : Flow (Except ε α)} {turns : List Turn}
    (h : ((x.replay turns).bind Except.toOption).isSome) : ∃ a, x.Returned turns (.ok a) := by
  obtain ⟨a, ha⟩ := Option.isSome_iff_exists.1 h
  obtain ⟨res, hres, hok⟩ := Option.bind_eq_some_iff.1 ha
  cases res with
  | error e => cases hok
  | ok b => exact ⟨b, returned_iff.2 hres⟩

/-- Nothing is left to do. -/
def isDone : Flow α → Bool
  | done _ => true
  | ask .. => false

theorem exists_eq_done {x : Flow α} (h : x.isDone) : ∃ a, x = done a := by
  cases x with
  | done a => exact ⟨a, rfl⟩
  | ask r k => cases h

/-- Nothing is left to do, and all went well. -/
def isDoneOk {ε : Type} : Flow (Except ε α) → Bool
  | done (.ok _) => true
  | _ => false

theorem exists_eq_done_ok {ε : Type} {x : Flow (Except ε α)} (h : x.isDoneOk) :
    ∃ a, x = done (.ok a) := by
  cases x with
  | done res =>
    cases res with
    | ok a => exact ⟨a, rfl⟩
    | error e => cases h
  | ask r k => cases h

theorem eq_done_of_returned_nil {x : Flow α} {a : α} (h : x.Returned [] a) : x = done a := by
  obtain ⟨early, late, hsplit, hfollows⟩ := h
  obtain ⟨rfl, -⟩ := List.append_eq_nil_iff.1 hsplit.symm
  exact hfollows.eq_of_nil.symm

/-- A flow that goes on behind a part that has returned goes on with its result. -/
theorem Returned.exists_follows {β : Type} {x : Flow β} {f : β → Flow α} {turns : List Turn}
    {y : Flow α} {b : β} (hb : x.Returned turns b) (h : (x >>= f).Follows turns y) :
    ∃ late, (f b).Follows late y := by
  obtain ⟨early, late, rfl, hearly⟩ := hb
  refine ⟨late, ?_⟩
  generalize hz : done b = z at hearly
  induction hearly with
  | refl =>
    subst hz
    exact h
  | ask _ ih =>
    cases h with
    | ask h => exact ih h hz

/-! ### Answers that settle a flow -/

/-- Once the request of `t` was answered as in `t`, the flow is at its end with the result `a`. -/
def SettledBy (x : Flow α) (t : Turn) (a : α) : Prop :=
  ∀ turns y, x.Follows turns y → t ∈ turns → x.Returned turns a

variable {β : Type} {t : Turn} {a : α}

theorem settledBy_done (b : α) : (done b).SettledBy t a := by
  intro turns y hfollows hmem
  rw [(Follows.eq_done (.refl _) hfollows).1] at hmem
  cases hmem

theorem settledBy_ask_iff {r : Request} {k : r.Answer → Flow α} : (ask r k).SettledBy t a ↔
    ∀ b, (⟨r, b⟩ = t → k b = done a) ∧ (k b).SettledBy t a := by
  constructor
  · intro h b
    refine ⟨fun heq => eq_done_of_returned_nil (returned_ask_iff.1 ?_),
      fun turns y hfollows hmem => returned_ask_iff.1 ?_⟩
    · exact h [⟨r, b⟩] (k b) (.ask (.refl _)) (heq ▸ List.mem_singleton_self _)
    · exact h _ y (.ask hfollows) (List.mem_cons_of_mem _ hmem)
  · intro h turns y hfollows hmem
    cases hfollows with
    | refl => cases hmem
    | @ask _ _ b turns _ hrest =>
      rcases List.mem_cons.1 hmem with hfirst | hlater
      · rw [returned_ask_iff, (h b).1 hfirst.symm]
        exact ⟨[], turns, rfl, .refl _⟩
      · exact returned_ask_iff.2 ((h b).2 turns y hrest hlater)

/-- Where a flow does not make the request, what follows it decides. -/
theorem SettledBy.bind {x : Flow β} {f : β → Flow α} (hx : x.Asks (· ≠ t.request))
    (hf : ∀ b, (f b).SettledBy t a) : (x >>= f).SettledBy t a := by
  induction x with
  | done b => exact hf b
  | ask r k ih =>
    exact settledBy_ask_iff.2 fun b => ⟨fun heq => absurd (heq ▸ rfl) hx.1, ih b (hx.2 b)⟩

/-- Only what a flow asks for is answered. -/
theorem Follows.request {Q : Request → Prop} {x y : Flow α} {turns : List Turn} (hx : x.Asks Q)
    (h : x.Follows turns y) : ∀ t ∈ turns, Q t.request := by
  induction h with
  | refl => simp
  | ask _ ih => exact List.forall_mem_cons.2 ⟨hx.1, ih (hx.2 _)⟩

/-- Where a flow is settled by an answer, and what follows it does not make the request, the flow is
at its end once the request was answered so. -/
theorem SettledBy.returned {x : Flow β} {f : β → Flow α} {b : β} (hx : x.SettledBy t b)
    (hf : ∀ b, (f b).Asks (· ≠ t.request)) {turns : List Turn} {y : Flow α}
    (h : (x >>= f).Follows turns y) (hmem : t ∈ turns) : x.Returned turns b := by
  induction x generalizing turns with
  | done c => exact absurd rfl (h.request (hf c) t hmem)
  | ask r k ih =>
    cases h with
    | refl => cases hmem
    | @ask _ _ a turns _ hrest =>
      obtain ⟨hfirst, hlater⟩ := settledBy_ask_iff.1 hx a
      rcases List.mem_cons.1 hmem with heq | hmem
      · rw [returned_ask_iff, hfirst heq.symm]
        exact ⟨[], turns, rfl, .refl _⟩
      · exact returned_ask_iff.2 (ih a hlater hrest hmem)

end Flow

namespace Action

variable {α β : Type} {t : Turn} {res : Except Error β}

theorem settledBy_bind {x : Action α} {f : α → Action β} (hx : Asks (· ≠ t.request) x)
    (hf : ∀ a, (f a).run.SettledBy t res) : (x >>= f).run.SettledBy t res := by
  rw [ExceptT.run_bind]
  refine Flow.SettledBy.bind hx fun b => ?_
  cases b with
  | ok a => exact hf a
  | error e => exact Flow.settledBy_done _

theorem settledBy_writeOr {blame : StoreFailure → Error} {c : Command} {a : c.Answer} :
    (writeOr blame c).run.SettledBy ⟨.write c, .ok a⟩ (.ok a) := by
  refine Flow.settledBy_ask_iff.2 fun b => ⟨fun heq => ?_, Flow.settledBy_done _⟩
  cases heq
  rfl

end Action

/-- Only a session that begins a transaction comes to be in one. -/
theorem eq_outside_of_serve {r : Request} {cue : Cue} {st : Standing} {s s' : Store} {a : r.Answer}
    (hr : r ≠ .begin) (h : serve r cue .outside s = some (a, st, s')) : st = .outside := by
  refine Standing.eq_outside ?_ (isGone_serve h rfl)
  rw [isOpen_of_serve h]
  cases r <;> first | exact absurd rfl hr | (cases a <;> rfl)

namespace World

variable {ι : Type} [DecidableEq ι] {α : ι → Type} {β : Type}

/-- Session `i`, whose flow is `y` and then `f`, is still in `y`, or what `returns` says held when
`y` came to its end. -/
def InPart (law : Chronicle ι → Prop) (faulty : Prop) (i : ι) (y : Flow β) (f : β → Flow (α i))
    (returns : β → Standing → Chronicle ι → Prop) (w : World α) : Prop :=
  (∃ r k, y.Follows (w.turnsOf i) (.ask r k) ∧ w.rest i = Flow.ask r k >>= f ∧
    ((w.standing i).isGone = false → ∃ h, Drift i law (w.standing i) h w.toChronicle ∧
      (Flow.ask r k).Abides i law faulty returns (w.standing i) h)) ∨
  ∃ b, y.Returned (w.turnsOf i) b ∧ ∃ st h, h.Extends w.toChronicle ∧ returns b st h

variable {law : Chronicle ι → Prop} {faulty : Prop}
  {post : (i : ι) → α i → Standing → Chronicle ι → Prop} {i : ι} {y : Flow β} {f : β → Flow (α i)}
  {returns : β → Standing → Chronicle ι → Prop}

/-- The requests and the remaining flow of a session after its turn, when it is still in `y`. -/
theorem InPart.own {w : World α} {r : Request} {k : r.Answer → Flow β} {a : r.Answer}
    (hfollows : y.Follows (w.turnsOf i) (.ask r k)) {st : Standing} {s : Store}
    (hk : (k a).Abides i law faulty returns st (w.toChronicle.note i ⟨r, a⟩ s)) :
    (w.proceed i ⟨r, a⟩ st s (k a >>= f)).InPart law faulty i y f returns := by
  have hfollows' := hfollows.snoc a
  cases hka : k a with
  | done b =>
    rw [hka] at hk hfollows'
    refine .inr ⟨b, ⟨w.turnsOf i ++ [⟨r, a⟩], [], ?_, hfollows'⟩, st, _, .refl, hk⟩
    simp [proceed]
  | ask r' k' =>
    rw [hka] at hk hfollows'
    refine .inl ⟨r', k', ?_, ?_, fun _ => ⟨_, .refl, ?_⟩⟩
    · simpa [proceed] using hfollows'
    · simp [proceed]
    · simpa [proceed] using hk

/-- What happened stays, whatever follows. -/
theorem InPart.later {w w' : World α}
    (h : ∃ b, y.Returned (w.turnsOf i) b ∧ ∃ st h, h.Extends w.toChronicle ∧ returns b st h)
    (hturns : ∃ late, w'.turnsOf i = w.turnsOf i ++ late)
    (hext : w.toChronicle.Extends w'.toChronicle) : w'.InPart law faulty i y f returns := by
  obtain ⟨b, ⟨early, late, hsplit, hfollows⟩, st, h₀, hh₀, hret⟩ := h
  obtain ⟨more, hmore⟩ := hturns
  refine .inr ⟨b, ⟨early, late ++ more, ?_, hfollows⟩, st, h₀, hh₀.trans hext, hret⟩
  rw [hmore, hsplit, List.append_assoc]

theorem InPart.step {w w' : World α} (hw : w.Orderly law faulty post)
    (hp : w.InPart law faulty i y f returns) {m : Move ι} (hm : m.isFault → faulty)
    (hstep : w.step m = some w') : w'.InPart law faulty i y f returns := by
  have hlaw := (hw.step hm hstep).lawful
  cases m with
  | death j =>
    cases hstep
    rcases hp with ⟨r, k, hfollows, hrest, hconduct⟩ | hp
    · refine .inl ⟨r, k, hfollows, hrest, fun halive => ?_⟩
      by_cases hij : i = j
      · subst hij
        simp [bury, Standing.isGone] at halive
      · simp only [bury, Function.update_of_ne hij] at halive ⊢
        exact hconduct halive
    · exact .inr hp
  | turn j cue =>
    obtain ⟨r', k', a, st, s, hrest', halive, hfree, hserve, rfl⟩ := step_turn hstep
    rcases hp with ⟨r, k, hfollows, hrest, hconduct⟩ | hp
    · by_cases hji : j = i
      · subst hji
        rw [hrest, Flow.bind_ask, Flow.ask.injEq] at hrest'
        obtain ⟨rfl, hk⟩ := hrest'
        cases hk
        obtain ⟨h, hd, hx⟩ := hconduct halive
        exact InPart.own hfollows (hx _ hd cue a st s hm hserve).2
      · refine .inl ⟨r, k, ?_, ?_, fun halive' => ?_⟩
        · simpa [proceed, Chronicle.turnsOf_note_of_ne hji] using hfollows
        · simpa [proceed, Function.update_of_ne (Ne.symm hji)] using hrest
        · simp only [proceed, Function.update_of_ne (Ne.symm hji)] at halive' ⊢
          obtain ⟨h, hd, hx⟩ := hconduct halive'
          exact ⟨h, hd.note hji (fun hwriting =>
            (hw.serve_of_lock hji hwriting hfree hserve).1) hlaw, hx⟩
    · refine InPart.later hp ?_ (.note .refl j _ s)
      by_cases hji : j = i
      · subst hji
        exact ⟨[⟨r', a⟩], by simp [proceed]⟩
      · exact ⟨[], by simp [proceed, Chronicle.turnsOf_note_of_ne hji]⟩

/-- When the flow of a session begins with `y`, and `y` has returned, then what abiding by the law
makes of its result held at that time. -/
theorem Orderly.post_of_returned {s : Store} {x : (i : ι) → Flow (α i)}
    (hw : (World.start s x).Orderly law faulty post) (hx : x i = y >>= f)
    (hy : y.Abides i law faulty returns .outside (.start s)) {moves : List (Move ι)}
    (hmoves : ∀ m ∈ moves, m.isFault → faulty) {w : World α}
    (hrun : (World.start s x).run moves = some w) {b : β} (hb : y.Returned (w.turnsOf i) b) :
    ∃ st h, h.Extends w.toChronicle ∧ returns b st h := by
  have hstart : (World.start s x).InPart law faulty i y f returns := by
    cases y with
    | done b => exact .inr ⟨b, ⟨[], [], rfl, .refl _⟩, .outside, _, .refl, hy⟩
    | ask r k => exact .inl ⟨r, k, .refl _, hx, fun _ => ⟨_, .refl, hy⟩⟩
  have hend := run_induction
    (P := fun v => v.Orderly law faulty post ∧ v.InPart law faulty i y f returns)
    (fun v m v' hv hm hstep => ⟨hv.1.step hm hstep, InPart.step hv.1 hv.2 hm hstep⟩)
    ⟨hw, hstart⟩ hmoves hrun
  rcases hend.2 with ⟨r, k, hfollows, -, -⟩ | ⟨b', hb', hpost⟩
  · exact absurd hb (Flow.not_returned_of_follows_ask hfollows b)
  · rw [hb.unique hb']
    exact hpost

/-- What a session has left to do is what follows on its requests, as they were answered. -/
theorem follows_of_run {s : Store} {x : (i : ι) → Flow (α i)} {moves : List (Move ι)} {w : World α}
    (hrun : (World.start s x).run moves = some w) (i : ι) :
    (x i).Follows (w.turnsOf i) (w.rest i) := by
  have hstart : (x i).Follows ((World.start s x).turnsOf i) ((World.start s x).rest i) := .refl _
  refine run_induction (P := fun v => (x i).Follows (v.turnsOf i) (v.rest i)) (A := fun _ => True)
    (fun v m v' hv _ hstep => ?_) hstart (by simp) hrun
  cases m with
  | death j =>
    cases hstep
    exact hv
  | turn j cue =>
    obtain ⟨r, k, a, st, s', hrest, -, -, -, rfl⟩ := step_turn hstep
    by_cases hji : j = i
    · subst hji
      rw [hrest] at hv
      simpa [proceed] using hv.snoc a
    · simpa [proceed, Chronicle.turnsOf_note_of_ne hji, Function.update_of_ne (Ne.symm hji)]
        using hv

/-- A session that has nothing to do makes no request. -/
theorem turnsOf_eq_nil {s : Store} {x : (i : ι) → Flow (α i)} {a : α i} (hx : x i = .done a)
    {moves : List (Move ι)} {w : World α} (hrun : (World.start s x).run moves = some w) :
    w.turnsOf i = [] := by
  have hfollows := follows_of_run hrun i
  rw [hx] at hfollows
  exact (Flow.Follows.eq_done (.refl _) hfollows).1

/-- A session that has begun no transaction, and whose process is alive, is outside of
transactions. -/
theorem outside_of_ne_begin {s : Store} {x : (i : ι) → Flow (α i)} {moves : List (Move ι)}
    {w : World α} (hrun : (World.start s x).run moves = some w)
    (hturns : ∀ t ∈ w.turnsOf i, t.request ≠ .begin) (halive : (w.standing i).isGone = false) :
    w.standing i = .outside := by
  refine run_induction (A := fun _ => True) (P := fun v => (∀ t ∈ v.turnsOf i, t.request ≠ .begin) →
    (v.standing i).isGone = false → v.standing i = .outside)
    (fun v m v' hv _ hstep hturns halive => ?_) (fun _ _ => rfl) (by simp) hrun hturns halive
  cases m with
  | death j =>
    cases hstep
    by_cases hij : i = j
    · subst hij
      simp [bury, Standing.isGone] at halive
    · simp only [bury, Function.update_of_ne hij] at halive ⊢
      exact hv hturns halive
  | turn j cue =>
    obtain ⟨r, k, a, st, s', -, hbefore, -, hserve, rfl⟩ := step_turn hstep
    by_cases hji : j = i
    · subst hji
      simp only [proceed, Chronicle.turnsOf_note_self, List.forall_mem_append,
        List.forall_mem_singleton] at hturns
      rw [hv hturns.1 hbefore] at hserve
      simpa [proceed] using eq_outside_of_serve hturns.2 hserve
    · simp only [proceed, Chronicle.turnsOf_note_of_ne hji,
        Function.update_of_ne (Ne.symm hji)] at hturns halive ⊢
      exact hv hturns halive

end World

end SimDepot
