import SimDepot.Proofs.Session.Rule
import SimDepot.Proofs.Store.Effect
import SimDepot.Rehearsal.Database

/-!
# Rehearsals and sessions

A rehearsal runs one flow after the other on a database. Where the database holds what was stored
and nothing else, `Shows.exists_serve` says that every answer it gives can be given to a session,
and `exists_run_of_issues` that what comes of a flow in a rehearsal comes of it as a session. The
lock that another connection holds shows as a failure of the store.

A session is in one transaction at most. A database has transactions within transactions too; a flow
that begins one is not rehearsed as a session runs it.
-/

namespace SimDepot

namespace Strays

@[simp] theorem isIn_none (id : SimId) (columns : List StateColumn) :
    none.isIn id columns = false := by
  simp [isIn, none, text?]

@[simp] theorem failure?_none (id : SimId) (columns : List StateColumn) :
    none.failure? id columns = .none := by
  simp [failure?, none, text?]

@[simp] theorem batchFailure?_none (id : BatchId) : none.batchFailure? id = .none := rfl

@[simp] theorem groupFailure?_none (sims : List Sim) : none.groupFailure? sims = .none := by
  simp [groupFailure?]

@[simp] theorem clear_none (id : SimId) (columns : List StateColumn) :
    none.clear id columns = none := rfl

end Strays

namespace Rehearsal

/-! ## Statements -/

/-- There are tables, no stray texts, and nothing is frozen. -/
structure Contents.IsPlain (c : Contents) : Prop where
  /-- No state holds a stray text. -/
  strays : c.strays = .none
  /-- Commands change every SIM. -/
  frozenSims : c.frozenSims = []
  /-- Commands change every batch. -/
  frozenBatches : c.frozenBatches = []
  /-- The tables have been made. -/
  hasTables : c.hasTables = true

namespace Contents.IsPlain

variable {c : Contents}

theorem visible (hc : c.IsPlain) (q : Query) : c.visible q = c.store := by
  have hsims : (c.visible q).sims = c.store.sims :=
    Table.eq_of_rows (by simp [Contents.visible, Table.restrict, hc.strays]) rfl
  show { c.store with sims := (c.visible q).sims } = c.store
  rw [hsims]

theorem checked (hc : c.IsPlain) (q : Query) (answer : q.Answer) :
    c.checked q answer = .ok answer := by
  have hnone : ∀ {α : Type} (rows : List α),
      rows.findSome? (fun _ => (none : Option StoreFailure)) = none :=
    fun rows => List.findSome?_eq_none_iff.2 fun _ _ => rfl
  cases q with
  | sim q => cases answer <;> simp [Contents.checked, hc.strays]
  | batch id => cases answer <;> simp [Contents.checked, hc.strays]
  | pendingSims registry => simp [Contents.checked, hc.strays, hnone]
  | batches registry => simp [Contents.checked, hc.strays, hnone]
  | poolGroups pool => simp [Contents.checked, hc.strays]
  | _ => rfl

/-- A question is answered as the store answers it. -/
theorem read (hc : c.IsPlain) (q : Query) : c.read q = .ok (q.eval c.store) := by
  rw [Contents.read, hc.hasTables, hc.visible, hc.checked]
  rfl

/-- A command does what it does to the store, and leaves the rest as it is. -/
theorem write (hc : c.IsPlain) (cmd : Command) :
    c.write cmd = (cmd.exec c.store).map fun (store, answer) => ({ c with store }, answer) := by
  cases cmd with
  | changeSim id change =>
    simp [Contents.write, hc.hasTables, hc.strays, hc.frozenSims, Command.exec, Except.map]
  | closeBatch id size status time =>
    simp [Contents.write, hc.hasTables, hc.strays, hc.frozenBatches, Command.exec, Except.map]
  | _ => simp [Contents.write, hc.hasTables]

end Contents.IsPlain

/-! ## Requests -/

namespace Database

/-- A statement fails and leaves the database as it is, or is carried out. -/
theorem execute_eq {α : Type} (db : Database)
    (statement : Contents → Except Refusal (Contents × α)) :
    (∃ failure, db.execute statement = (.error failure, db)) ∨
      ∃ contents a, statement db.contents = .ok (contents, a) ∧
        db.execute statement = (.ok a, { db with contents }) := by
  unfold execute
  split
  next table _ => exact .inl ⟨_, rfl⟩
  next =>
    split
    next => exact .inl ⟨_, rfl⟩
    next =>
      cases hstatement : statement db.contents with
      | error refusal => exact .inl ⟨_, rfl⟩
      | ok made => exact .inr ⟨made.1, made.2, rfl, rfl⟩

/-- The database holds what a session sees that stands towards the store `s` as `st` says. -/
structure Shows (db : Database) (st : Standing) (s : Store) : Prop where
  /-- It holds what was stored and nothing else. -/
  plain : db.contents.IsPlain
  /-- The store is as the session sees it. -/
  store_eq : db.contents.store = st.view s
  /-- The one transaction that is open, if there is one, has saved what lasts. -/
  saved : st = .outside ∧ db.saved = [] ∨
    st.isOpen ∧ ∃ c : Contents, c.IsPlain ∧ c.store = s ∧ db.saved = [c]

namespace Shows

variable {db : Database} {st : Standing} {s : Store}

/-- What a command does to the database it does for the session. -/
theorem write (h : db.Shows st s) {cmd : Command} {contents : Contents} {a : cmd.Answer}
    (hwrite : db.contents.write cmd = .ok (contents, a)) :
    ∃ st' s', st.write cmd s = (.ok a, st', s') ∧ { db with contents }.Shows st' s' := by
  rw [h.plain.write, h.store_eq] at hwrite
  cases hexec : cmd.exec (st.view s) with
  | error refusal =>
    rw [hexec] at hwrite
    cases hwrite
  | ok made =>
    obtain ⟨made, b⟩ := made
    rw [hexec] at hwrite
    cases hwrite
    have hplain : ({ db.contents with store := made } : Contents).IsPlain :=
      ⟨h.plain.strays, h.plain.frozenSims, h.plain.frozenBatches, h.plain.hasTables⟩
    rcases h.saved with ⟨rfl, hsaved⟩ | ⟨hopen, hsaved⟩
    · exact ⟨.outside, made, by rw [Standing.write, hexec], hplain, rfl, .inl ⟨rfl, hsaved⟩⟩
    · refine ⟨.writing made, s, ?_, hplain, rfl, .inr ⟨rfl, hsaved⟩⟩
      cases st with
      | outside | gone => cases hopen
      | inside | writing draft => rw [Standing.write, hexec]

/-- Taking a transaction back, or nothing where there is none, leaves what lasts. -/
theorem rollback (h : db.Shows st s) : db.rollback.Shows .outside s := by
  rcases h.saved with ⟨rfl, hsaved⟩ | ⟨-, c, hc, hstore, hsaved⟩
  · have hback : db.rollback = db := by simp [Database.rollback, hsaved]
    rw [hback]
    exact h
  · have hback : db.rollback = { db with contents := c, saved := [] } := by
      simp [Database.rollback, hsaved]
    rw [hback]
    exact ⟨hc, hstore, .inl ⟨rfl, rfl⟩⟩

/-- Whatever the database answers, a session can be answered that; but a session does not begin a
transaction in one. -/
theorem exists_serve (h : db.Shows st s) {r : Request} (hbegin : r = .begin → st.isOpen = false) :
    ∃ cue st' s', serve r cue st s = some ((answer r db).1, st', s') ∧
      (answer r db).2.Shows st' s' := by
  cases r with
  | read q =>
    refine ⟨.plain, st, s, ?_, h⟩
    rw [answer, h.plain.read, h.store_eq]
    rfl
  | write cmd =>
    rcases execute_eq db (fun c => c.write cmd) with ⟨failure, hfail⟩ | ⟨contents, a, hwrite, hdone⟩
    · refine ⟨.fault failure, st, s, ?_, ?_⟩ <;> rw [answer, hfail]
      · rfl
      · exact h
    · obtain ⟨st', s', hst, hshows⟩ := h.write hwrite
      refine ⟨.plain, st', s', ?_, ?_⟩ <;> rw [answer, hdone]
      · exact congrArg some hst
      · exact hshows
  | begin =>
    rcases h.saved with ⟨rfl, hsaved⟩ | ⟨hopen, -⟩
    · refine ⟨.plain, .inside, s, rfl, h.plain, h.store_eq, .inr ⟨rfl, ?_⟩⟩
      exact ⟨db.contents, h.plain, h.store_eq, by rw [answer, begin, hsaved]⟩
    · rw [hbegin rfl] at hopen
      cases hopen
  | commit =>
    refine ⟨.plain, .outside, st.view s, rfl, h.plain, h.store_eq, .inl ⟨rfl, ?_⟩⟩
    rcases h.saved with ⟨-, hsaved⟩ | ⟨-, c, -, -, hsaved⟩ <;>
      simp [answer, Database.commit, hsaved]
  | rollback => exact ⟨.plain, .outside, s, rfl, h.rollback⟩
  | abandon => exact ⟨.plain, .outside, s, rfl, h.rollback⟩
  | now => exact ⟨.time .epoch, st, s, rfl, h⟩
  | pause milliseconds => exact ⟨.plain, st, s, rfl, h.plain, h.store_eq, h.saved⟩
  | activate registry iccid msisdn => exact ⟨.call _, st, s, rfl, h⟩
  | suspend registry iccid => exact ⟨.call _, st, s, rfl, h⟩
  | release vendor sim => exact ⟨.release _, st, s, rfl, h⟩
  | probe registry => exact ⟨.health false, st, s, rfl, h⟩

theorem isGone_eq_false (h : db.Shows st s) : st.isGone = false := by
  rcases h.saved with ⟨rfl, -⟩ | ⟨hopen, -⟩
  · rfl
  · cases st with
    | gone => cases hopen
    | _ => rfl

/-! ## Flows -/

variable {α : Type} {P : Command → Prop}

/-- What is left of a flow comes to the same result in a rehearsal and as a session alone. -/
theorem exists_run {post : α → Bool → Prop} {x : Flow α} {w : World fun _ : Unit => α}
    (h : db.Shows (w.standing ()) w.store) (hx : x.Obeys P post (w.standing ()).isOpen)
    (hrest : w.rest () = x) :
    ∃ moves w', w.run moves = some w' ∧ w'.rest () = .done (x.run answer db).1 ∧
      post (x.run answer db).1 (w'.standing ()).isOpen ∧
      (x.run answer db).2.Shows (w'.standing ()) w'.store := by
  induction x generalizing db w with
  | done a => exact ⟨[], w, rfl, hrest, hx, h⟩
  | ask r k ih =>
    obtain ⟨cue, st', s', hserve, hshows⟩ := h.exists_serve hx.2.1
    have hfree : w.isLockedFor () = false := by
      cases hlock : w.writer <;> simp [World.isLockedFor, hlock]
    have hstep : w.step (.turn () cue) = some (w.proceed () ⟨r, (answer r db).1⟩ st' s'
        (k (answer r db).1)) := by
      simp [World.step, hrest, h.isGone_eq_false, hfree, hserve]
    have hobeys := hx.2.2 (answer r db).1
    rw [← isOpen_of_serve hserve] at hobeys
    obtain ⟨moves, w', hrun, hdone, hpost, hend⟩ := ih (answer r db).1
      (w := w.proceed () ⟨r, (answer r db).1⟩ st' s' (k (answer r db).1))
      (by simpa [World.proceed] using hshows) (by simpa [World.proceed] using hobeys)
      (by simp [World.proceed])
    exact ⟨.turn () cue :: moves, w', Option.bind_eq_some_iff.2 ⟨_, hstep, hrun⟩, hdone, hpost,
      hend⟩

end Shows

/-- What comes of a flow in a rehearsal, and of the store, comes of it as a session alone. -/
theorem exists_run_of_issues {α : Type} {P : Command → Prop} {x : Flow α} (hx : x.Issues P false)
    {db : Database} (hplain : db.contents.IsPlain) (hsaved : db.saved = []) :
    ∃ moves w, (World.start db.contents.store fun _ : Unit => x).run moves = some w ∧
      w.rest () = .done (x.run answer db).1 ∧
      (x.run answer db).2.Shows .outside w.store := by
  have hstart : db.Shows .outside db.contents.store := ⟨hplain, rfl, .inl ⟨rfl, hsaved⟩⟩
  unfold Flow.Issues at hx
  obtain ⟨moves, w, hrun, hdone, hclosed, hshows⟩ :=
    Shows.exists_run (w := World.start db.contents.store fun _ => x) hstart hx rfl
  refine ⟨moves, w, hrun, hdone, ?_⟩
  rcases hshows.saved with ⟨hst, -⟩ | ⟨hopen, -⟩
  · rw [hst] at hshows
    exact hshows
  · rw [hopen] at hclosed
    cases hclosed

end Database

end Rehearsal

end SimDepot
