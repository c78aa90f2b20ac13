import SimDepot.Proofs.Lifecycle.Operation
import SimDepot.Proofs.Session.Progress
import SimDepot.Proofs.Session.Rehearsed

/-!
# Operations come to their ends

Operations begin no transaction within another one and leave none open, whatever they are answered.
So operations side by side never keep each other from coming to their ends, and what comes of an
operation in a rehearsal comes of it as a session.
-/

namespace SimDepot

/-- The discipline that allows everything. -/
def unrestricted : Discipline :=
  ⟨fun _ => True, fun _ _ => True, fun _ => trivial, fun _ _ => trivial⟩

theorem Operation.issues_any (o : Operation) (bindings : Bindings) :
    Action.Issues (fun _ => True) false (o.action bindings) :=
  o.issues_action (fun _ _ _ => trivial) fun _ _ _ => trivial

section Runs

variable {ι : Type} [DecidableEq ι] {s : Store} {ops : ι → Operation} {bindings : ι → Bindings}
  {moves : List (Move ι)} {w : World fun i => Except Error (ops i).Value}

theorem orderly_of_run
    (hrun : (World.start s fun i => ((ops i).action (bindings i)).run).run moves = some w) :
    w.Orderly unrestricted.law True fun _ _ st _ => st.isOpen = false := by
  have hstart : (World.start s fun i => ((ops i).action (bindings i)).run).Orderly
      unrestricted.law True fun _ _ st _ => st.isOpen = false :=
    Discipline.orderly_start trivial fun i =>
      (ops i).issues_action (fun _ _ _ _ _ _ _ _ _ => ⟨trivial, trivial⟩)
        fun _ _ _ _ _ _ _ _ _ => ⟨trivial, trivial⟩
  exact hstart.run (fun _ _ _ => trivial) hrun

/-- An operation that is done has left its transactions and does not hold the write lock, whatever
went wrong. -/
theorem not_isOpen_of_done
    (hrun : (World.start s fun i => ((ops i).action (bindings i)).run).run moves = some w) {i : ι}
    (halive : (w.standing i).isGone = false) {res : Except Error (ops i).Value}
    (hdone : w.rest i = .done res) : (w.standing i).isOpen = false ∧ w.writer ≠ some i := by
  have hw := orderly_of_run hrun
  obtain ⟨h, -, hopen⟩ := hw.post_of_done halive hdone
  refine ⟨hopen, fun hlock => ?_⟩
  have hwriting := (hw.exclusive i).1 hlock
  rw [Standing.not_isWriting_of_not_isOpen hopen] at hwriting
  cases hwriting

/-- However far operations have come, and whatever went wrong so far: if nothing goes wrong from
then on, all of them can come to their ends, those aside whose processes died. -/
theorem exists_run_all_ended [Fintype ι]
    (hrun : (World.start s fun i => ((ops i).action (bindings i)).run).run moves = some w) :
    ∃ moves' w', (∀ m ∈ moves', m.isSmooth) ∧ w.run moves' = some w' ∧ ∀ i, w'.HasEnded i :=
  (orderly_of_run hrun).exists_run_all_ended fun _ _ _ _ => Standing.not_isWriting_of_not_isOpen

end Runs

/-- What comes of an operation in a rehearsal, and of the store, comes of it as a session alone. -/
theorem exists_run_of_rehearsal (o : Operation) (bindings : Bindings) {db : Rehearsal.Database}
    (hplain : db.contents.IsPlain) (hsaved : db.saved = []) :
    ∃ moves w, (World.start db.contents.store fun _ : Unit => (o.action bindings).run).run moves =
        some w ∧
      w.rest () = .done ((o.action bindings).run.run Rehearsal.Database.answer db).1 ∧
      ((o.action bindings).run.run Rehearsal.Database.answer db).2.Shows .outside w.store :=
  Rehearsal.Database.exists_run_of_issues (o.issues_any bindings) hplain hsaved

end SimDepot
