import SimDepot.Proofs.Lifecycle.Order
import SimDepot.Proofs.Session.InTurn
import SimDepot.Proofs.Store.Reference

/-!
# Sound stores

Empty tables are sound, and every command that stores raw stock only keeps a store so: the states of
every SIM agree, references lead to rows that are there, and identities count up from one. So
whatever is asked of the depot, the store is sound, and `Store.Sound` is what operations may count
on that are asked of it later.
-/

namespace SimDepot

/-- A store as operations make it from empty tables. -/
structure Store.Sound (s : Store) : Prop where
  /-- The states of every SIM agree. -/
  ordered : ∀ r ∈ s.sims.rows, r.Ordered
  /-- References lead to rows that are there. -/
  referential : s.Referential
  /-- Identities of SIMs count up from one. -/
  nonneg : 0 ≤ s.sims.last
  /-- They end where a table ends. -/
  le_maxId : s.sims.last ≤ maxId

namespace Store

variable {s s' : Store}

theorem sound_empty : empty.Sound where
  ordered := by simp [empty, Table.empty]
  referential := referential_empty
  nonneg := by simp [empty, Table.empty]
  le_maxId := by simp [empty, Table.empty, maxId]

/-- SIMs are stored only while there are identities left. -/
theorem last_le_of_foldlM {drafts : List SimDraft} (hid : ∀ d ∈ drafts, d.id? = none)
    (h : drafts.foldlM addSim s = .ok s') (hs : s.sims.last ≤ maxId) : s'.sims.last ≤ maxId := by
  induction drafts generalizing s with
  | nil =>
    cases h
    exact hs
  | cons d rest ih =>
    rw [List.foldlM_cons] at h
    cases hadd : s.addSim d with
    | error refusal =>
      rw [hadd] at h
      cases h
    | ok s₁ =>
      rw [hadd] at h
      have hd : d.id? = none := hid d (List.mem_cons_self ..)
      -- With the last identity gone the SIM would have been refused.
      have hroom : s.sims.last < maxId := by
        by_contra hfull
        simp [addSim, insertRow, hd, Table.nextId?, hfull, bind, Except.bind] at hadd
      have hlast : s₁.sims.last = s.sims.last + 1 := (grown_of_addSim hd hadd).last
      exact ih (fun e he => hid e (List.mem_cons_of_mem _ he)) h (by omega)

/-- Every command that stores raw stock only keeps a store sound. -/
theorem Sound.exec (hs : s.Sound) {c : Command} (hc : c.StoresFresh) {a : c.Answer}
    (h : c.exec s = .ok (s', a)) : s'.Sound := by
  have hlast : 0 ≤ s'.sims.last ∧ s'.sims.last ≤ maxId := by
    have hnonneg := hs.nonneg
    rcases Command.exec_sims h with hsims | ⟨id, change, rfl, rfl⟩ | ⟨drafts, rfl, hadd⟩
    · rw [hsims]
      exact ⟨hnonneg, hs.le_maxId⟩
    · exact ⟨hnonneg, hs.le_maxId⟩
    · have hid : ∀ d ∈ drafts, d.id? = none := fun d hd => (hc drafts rfl d hd).id?
      have hgrown := (grown_of_addSims hid hadd).last
      exact ⟨by omega, last_le_of_foldlM hid (addSims_eq_ok_iff.1 hadd).1 hs.le_maxId⟩
  exact ⟨(keeps_orderly hc s s' a hs.ordered trivial h).1, hs.referential.exec h, hlast.1, hlast.2⟩

end Store

/-- The store is sound. -/
def soundly : Discipline where
  inv := Store.Sound
  rel _ _ := True
  refl _ := trivial
  trans _ _ := trivial

theorem keeps_soundly {c : Command} (hc : c.StoresFresh) : soundly.Keeps (fun _ => True) c :=
  fun _ _ _ hs _ h => ⟨hs.exec hc h, trivial⟩

theorem Operation.issues_soundly (o : Operation) (bindings : Bindings) :
    Action.Issues (soundly.Keeps fun _ => True) false (o.action bindings) :=
  o.issues_action (fun _ hc _ => keeps_soundly hc)
    fun _ _ _ => keeps_soundly (Command.storesFresh_changeSim _ _)

/-- From empty tables on the store is sound, in whatever order the requests of any operations are
answered, whatever services answer, whatever fails and whichever processes die. -/
theorem sound_of_run {ι : Type} [DecidableEq ι] (ops : ι → Operation) (bindings : ι → Bindings)
    {moves : List (Move ι)} {w : World fun i => Except Error (ops i).Value}
    (hrun : (World.start .empty fun i => ((ops i).action (bindings i)).run).run moves = some w) :
    w.store.Sound := by
  have hstart : (World.start .empty fun i => ((ops i).action (bindings i)).run).Orderly soundly.law
      True fun _ _ st _ => st.isOpen = false :=
    Discipline.orderly_start Store.sound_empty fun i => (ops i).issues_soundly (bindings i)
  exact (hstart.run (fun _ _ _ => trivial) hrun).lawful.1

/-- An operation that nobody disturbs leaves the store sound. -/
theorem Operation.undisturbed_sound {ι : Type} {i : ι} {h : Chronicle ι} (o : Operation)
    (bindings : Bindings) (hs : h.store.Sound) :
    Action.Undisturbed i (fun _ _ h' => h'.store.Sound) (o.action bindings) .outside h := by
  have hholds : soundly.Holds (fun _ => True) .outside h :=
    ⟨Discipline.sound_outside _, ⟨hs, fun _ _ => trivial⟩, trivial⟩
  have hissues : Flow.Issues (soundly.Keeps fun _ => True) Standing.outside.isOpen
      (o.action bindings).run := o.issues_soundly bindings
  have habides : Flow.Abides i soundly.law False _ (o.action bindings).run .outside h :=
    Discipline.abides_of_issues (fun _ _ _ h => h) hissues hholds
  exact habides.undisturbed.mono fun _ _ _ hend => hend.2.lawful.1

end SimDepot
