import Mathlib.Data.Fintype.Card
import SimDepot.Proofs.Session.Conduct

/-!
# Sessions come to their ends

However far sessions have come, and whatever went wrong so far, each can come to its end if nothing
goes wrong from then on: the one that holds the write lock first, then the others, one after the
other. No two of them wait for each other, as there is one lock only, and a session that is done
does not hold it.
-/

namespace SimDepot

variable {ι : Type}

/-- Whatever is requested, there is an answer that is no failure of the store. -/
theorem exists_serve (r : Request) (st : Standing) (s : Store) :
    ∃ cue a st' s', cue.isFault = false ∧ serve r cue st s = some (a, st', s') := by
  cases r with
  | now => exact ⟨.time .epoch, _, _, _, rfl, rfl⟩
  | activate _ _ _ => exact ⟨.call (.ok ()), _, _, _, rfl, rfl⟩
  | suspend _ _ => exact ⟨.call (.ok ()), _, _, _, rfl, rfl⟩
  | release _ _ => exact ⟨.release (.ok ⟨"", none⟩), _, _, _, rfl, rfl⟩
  | probe _ => exact ⟨.health true, _, _, _, rfl, rfl⟩
  | _ => exact ⟨.plain, _, _, _, rfl, rfl⟩

namespace Standing

variable {st : Standing}

theorem not_isGone_of_isWriting (h : st.isWriting) : st.isGone = false := by
  cases st with
  | writing draft => rfl
  | _ => cases h

end Standing

namespace World

variable [DecidableEq ι] {α : ι → Type} {law : Chronicle ι → Prop}
  {post : (i : ι) → α i → Standing → Chronicle ι → Prop}

/-- Nobody but session `i` holds the write lock. -/
def FreeFor (w : World α) (i : ι) : Prop := ∀ j, w.writer = some j → j = i

theorem FreeFor.isLockedFor {w : World α} {i : ι} (hw : w.FreeFor i) : w.isLockedFor i = false := by
  cases hlock : w.writer with
  | none => simp [World.isLockedFor, hlock]
  | some j => simp [World.isLockedFor, hlock, hw j hlock]

/-- A session that nobody keeps from writing can make its next request. -/
theorem exists_step {w : World α} {i : ι} (halive : (w.standing i).isGone = false)
    (hfree : w.FreeFor i) {r : Request} {k : r.Answer → Flow (α i)} (hrest : w.rest i = .ask r k) :
    ∃ m a st s, m.isSmooth ∧ st.isGone = false ∧
      w.step m = some (w.proceed i ⟨r, a⟩ st s (k a)) := by
  obtain ⟨cue, a, st, s, hcue, hserve⟩ := exists_serve r (w.standing i) w.store
  refine ⟨.turn i cue, a, st, s, by simp [Move.isSmooth, hcue], isGone_serve hserve halive, ?_⟩
  simp [step, hrest, halive, hfree.isLockedFor, hserve]

/-- Session `i` has come to its end, or its process died. -/
def HasEnded (w : World α) (i : ι) : Prop := (w.standing i).isGone ∨ ∃ a, w.rest i = .done a

/-- A session that nobody keeps from writing can come to its end. -/
theorem exists_run_ended {i : ι} {x : Flow (α i)} {w : World α} (hrest : w.rest i = x)
    (hfree : w.FreeFor i) :
    ∃ moves w', (∀ m ∈ moves, m.isSmooth) ∧ w.run moves = some w' ∧ w'.HasEnded i ∧
      ∀ j, j ≠ i → w'.rest j = w.rest j ∧ w'.standing j = w.standing j := by
  cases halive : (w.standing i).isGone with
  | true => exact ⟨[], w, by simp, rfl, .inl halive, fun _ _ => ⟨rfl, rfl⟩⟩
  | false =>
    induction x generalizing w with
    | done a => exact ⟨[], w, by simp, rfl, .inr ⟨a, hrest⟩, fun _ _ => ⟨rfl, rfl⟩⟩
    | ask r k ih =>
      obtain ⟨m, a, st, s, hm, hst, hstep⟩ := exists_step halive hfree hrest
      have hfree' : (w.proceed i ⟨r, a⟩ st s (k a)).FreeFor i := by
        intro j hj
        simp only [proceed] at hj
        split at hj
        · exact (Option.some.inj hj).symm
        · split at hj
          · cases hj
          · exact hfree j hj
      obtain ⟨moves, w', hmoves, hrun, hended, hothers⟩ :=
        ih a (by simp [proceed]) hfree' (by simpa [proceed] using hst)
      refine ⟨m :: moves, w', ?_, Option.bind_eq_some_iff.2 ⟨_, hstep, hrun⟩, hended,
        fun j hj => ?_⟩
      · intro m' hm'
        rcases List.mem_cons.1 hm' with rfl | hm'
        · exact hm
        · exact hmoves m' hm'
      · obtain ⟨hrest', hstanding'⟩ := hothers j hj
        rw [hrest', hstanding']
        simp [proceed, Function.update_of_ne hj]

/-- However far the sessions of an orderly world have come, all can come to their ends, if those
that are done hold no lock. -/
theorem Orderly.exists_run_all_ended [Fintype ι] {faulty : Prop} {w : World α}
    (hw : w.Orderly law faulty post)
    (hpost : ∀ i a st h, post i a st h → st.isWriting = false) :
    ∃ moves w', (∀ m ∈ moves, m.isSmooth) ∧ w.run moves = some w' ∧ ∀ i, w'.HasEnded i := by
  -- By induction on the sessions that have not ended yet.
  obtain ⟨unfinished, hfinished⟩ : ∃ s : Finset ι, ∀ i, i ∉ s → w.HasEnded i :=
    ⟨Finset.univ, fun i hi => absurd (Finset.mem_univ i) hi⟩
  induction hcard : unfinished.card generalizing w unfinished with
  | zero =>
    rw [Finset.card_eq_zero] at hcard
    exact ⟨[], w, by simp, rfl, fun i => hfinished i (by simp [hcard])⟩
  | succ n ih =>
    -- The next session is the one that holds the lock, if there is one: it has not ended.
    obtain ⟨i, hi, hfree⟩ : ∃ i ∈ unfinished, w.FreeFor i := by
      cases hlock : w.writer with
      | none =>
        obtain ⟨i, hi⟩ := Finset.card_pos.1 (by omega : 0 < unfinished.card)
        exact ⟨i, hi, fun j hj => by rw [hlock] at hj; cases hj⟩
      | some i =>
        refine ⟨i, ?_, fun j hj => by rw [hlock] at hj; exact (Option.some.inj hj).symm⟩
        have hwriting := (hw.exclusive i).1 hlock
        by_contra hi
        rcases hfinished i hi with hgone | ⟨a, ha⟩
        · simp [Standing.not_isGone_of_isWriting hwriting] at hgone
        · obtain ⟨h, -, hp⟩ := hw.post_of_done (Standing.not_isGone_of_isWriting hwriting) ha
          rw [hpost i a _ h hp] at hwriting
          cases hwriting
    obtain ⟨moves, w', hmoves, hrun, hended, hothers⟩ := exists_run_ended rfl hfree
    have hw' := hw.run (fun m hm => by simp [Move.not_isFault_of_isSmooth (hmoves m hm)]) hrun
    have hfinished' : ∀ j, j ∉ unfinished.erase i → w'.HasEnded j := by
      intro j hj
      by_cases hji : j = i
      · subst hji
        exact hended
      · obtain ⟨hrest, hstanding⟩ := hothers j hji
        rw [HasEnded, hrest, hstanding]
        exact hfinished j fun hmem => hj (Finset.mem_erase.2 ⟨hji, hmem⟩)
    obtain ⟨moves', w'', hmoves', hrun', hall⟩ := ih hw' (unfinished.erase i) hfinished'
      (by rw [Finset.card_erase_of_mem hi]; omega)
    refine ⟨moves ++ moves', w'', fun m hm => ?_, run_append hrun hrun', hall⟩
    rcases List.mem_append.1 hm with hm | hm
    · exact hmoves m hm
    · exact hmoves' m hm

end World

end SimDepot
