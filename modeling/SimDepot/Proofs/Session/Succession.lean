import Mathlib.Algebra.BigOperators.Group.Finset.Basic
import SimDepot.Proofs.Session.InTurn

/-!
# What sessions add up to

Sessions that have the store to themselves, one after the other, can be accounted for one by one.
What a session is good for is read off its result and the requests that it made. Where every session
raises a number by what it is good for, the number is in the end what it was at first and the sum
over the sessions that were visited; `World.runInTurn_tally` says so. It does not count that a
session that is done may be visited again, as it does nothing then.
-/

namespace SimDepot

variable {ι : Type}

namespace Flow

variable {α : Type} {i : ι} {st : Standing} {h : Chronicle ι}

/-- What comes of a session, and what else comes of it. -/
theorem Undisturbed.and {post post' : α → Standing → Chronicle ι → Prop} {x : Flow α}
    (hx : x.Undisturbed i post st h) (hx' : x.Undisturbed i post' st h) :
    x.Undisturbed i (fun a st h => post a st h ∧ post' a st h) st h := by
  induction x generalizing st h with
  | done a => exact ⟨hx, hx'⟩
  | ask r k ih =>
    intro cue a st' s hcue hserve
    exact ih a (hx cue a st' s hcue hserve) (hx' cue a st' s hcue hserve)

/-- What holds of every answer of a store that does not fail holds of all that a session was
answered. -/
theorem Undisturbed.answered [DecidableEq ι] {Q : Turn → Prop}
    (hQ : ∀ r cue a st st' s s', cue.isFault = false → serve r cue st s = some (a, st', s') →
      Q ⟨r, a⟩)
    {post : α → Standing → Chronicle ι → Prop} {x : Flow α} (hx : x.Undisturbed i post st h)
    (hfirst : ∀ turn ∈ h.turnsOf i, Q turn) :
    x.Undisturbed i (fun a st h => post a st h ∧ ∀ turn ∈ h.turnsOf i, Q turn) st h := by
  induction x generalizing st h with
  | done a => exact ⟨hx, hfirst⟩
  | ask r k ih =>
    intro cue a st' s hcue hserve
    refine ih a (hx cue a st' s hcue hserve) fun turn hturn => ?_
    rw [Chronicle.turnsOf_note_self, List.mem_append, List.mem_singleton] at hturn
    rcases hturn with hturn | rfl
    · exact hfirst turn hturn
    · exact hQ r cue a st st' h.store s hcue hserve

end Flow

variable [DecidableEq ι]

/-- What a session requested was requested before, or is of the kind that it made since. -/
theorem Chronicle.OnlyAsked.of_mem_turnsOf {i : ι} {Q : Request → Prop} {h h' : Chronicle ι}
    (hasked : OnlyAsked i Q h h') {turn : Turn} (hturn : turn ∈ h'.turnsOf i) :
    turn ∈ h.turnsOf i ∨ Q turn.request := by
  obtain ⟨new, hpast, hnew⟩ := hasked
  rw [turnsOf, deedsOf, hpast, List.filter_append, List.map_append, List.mem_append] at hturn
  refine hturn.imp_right fun hturn => ?_
  obtain ⟨d, hd, rfl⟩ := List.mem_map.1 hturn
  exact (hnew d (List.mem_filter.1 hd).1).2

/-- The sessions that have the store to themselves at some time. -/
def Visit.sessions (visits : List (Visit ι)) : Finset ι := (visits.map (·.session)).toFinset

namespace World

variable {α : ι → Type}

/-- A session that is done makes no moves. -/
theorem run_of_done {w w' : World α} {i : ι} (hdone : (w.rest i).isDone) {cues : List Cue}
    (hrun : w.run (cues.map (.turn i)) = some w') : w' = w := by
  cases cues with
  | nil =>
    cases hrun
    rfl
  | cons cue rest =>
    obtain ⟨w₁, hstep, -⟩ := run_cons hrun
    obtain ⟨r, k, a, st, s, hask, -⟩ := step_turn hstep
    rw [hask] at hdone
    cases hdone

/-- The moves of one session are no requests of another one. -/
theorem turnsOf_of_run {w w' : World α} {i j : ι} (hj : j ≠ i) {cues : List Cue}
    (hrun : w.run (cues.map (.turn i)) = some w') : w'.turnsOf j = w.turnsOf j := by
  induction cues generalizing w with
  | nil =>
    cases hrun
    rfl
  | cons cue rest ih =>
    obtain ⟨w₁, hstep, hrest⟩ := run_cons hrun
    obtain ⟨r, k, a, st, s, -, -, -, -, rfl⟩ := step_turn hstep
    exact (ih hrest).trans (Chronicle.turnsOf_note_of_ne hj.symm w.toChronicle ⟨r, a⟩ s)

/-- What a session that is done is good for, as its result and its requests say. -/
def tally (w : World α) (credit : (i : ι) → α i → List Turn → Nat) (i : ι) : Nat :=
  match w.rest i with
  | .done a => credit i a (w.turnsOf i)
  | .ask .. => 0

variable {credit : (i : ι) → α i → List Turn → Nat}

theorem tally_of_done {w : World α} {i : ι} {a : α i} (h : w.rest i = .done a) :
    w.tally credit i = credit i a (w.turnsOf i) := by
  rw [tally, h]

/-- The moves of one session do not change what another one is good for. -/
theorem tally_of_run {w w' : World α} {i j : ι} (hj : j ≠ i) {cues : List Cue}
    (hrun : w.run (cues.map (.turn i)) = some w') (hrest : w'.rest j = w.rest j) :
    w'.tally credit j = w.tally credit j := by
  rw [tally, tally, hrest, turnsOf_of_run hj hrun]

/-- Where every session keeps `J` and raises a number by what it is good for, the number is in the
end what it was at first and the sum over the sessions that were visited. -/
theorem runInTurn_tally {J : Chronicle ι → Prop} {f : Store → Nat} {x : (i : ι) → Flow (α i)}
    (hraise : ∀ i h, J h → h.turnsOf i = [] → (x i).Undisturbed i (fun a _ h' =>
      J h' ∧ f h'.store = f h.store + credit i a (h'.turnsOf i)) .outside h)
    {s : Store} (hstart : J (.start s)) {visits : List (Visit ι)}
    (hsmooth : ∀ v ∈ visits, v.isSmooth) {w : World α}
    (hrun : (World.start s x).runInTurn visits = some w) :
    J w.toChronicle ∧
      f w.store = f s + ∑ i ∈ Visit.sessions visits, w.tally credit i := by
  -- The sessions that were visited so far are done, and the others have not begun.
  suffices hall : ∀ (past : Finset ι) (v : World α), J v.toChronicle →
      (∀ i ∈ past, (v.rest i).isDone) →
      (∀ i, i ∉ past → v.rest i = x i ∧ v.standing i = .outside ∧ v.turnsOf i = []) →
      f v.store = f s + ∑ i ∈ past, v.tally credit i →
      v.runInTurn visits = some w → J w.toChronicle ∧
        f w.store = f s + ∑ i ∈ past ∪ Visit.sessions visits, w.tally credit i by
    have hend := hall ∅ _ hstart (by simp) (fun _ _ => ⟨rfl, rfl, rfl⟩) (by simp [World.start]) hrun
    rwa [Finset.empty_union] at hend
  clear hrun
  induction visits with
  | nil =>
    intro past v hJ _ _ hsum hrun
    cases hrun
    exact ⟨hJ, by simpa [Visit.sessions] using hsum⟩
  | cons visit rest ih =>
    intro past v hJ hended hfresh hsum hrun
    obtain ⟨v₁, hvisit, hdone, hrest⟩ := runInTurn_cons hrun
    have hlater := ih fun u hu => hsmooth u (List.mem_cons_of_mem _ hu)
    have hsessions : past ∪ Visit.sessions (visit :: rest) =
        insert visit.session past ∪ Visit.sessions rest := by
      rw [Visit.sessions, List.map_cons, List.toFinset_cons, Finset.union_insert,
        Finset.insert_union, Visit.sessions]
    rw [hsessions]
    by_cases hagain : visit.session ∈ past
    · -- The session is visited again.
      obtain rfl := run_of_done (hended _ hagain) hvisit
      rw [Finset.insert_eq_of_mem hagain]
      exact hlater past v₁ hJ hended hfresh hsum hrest
    · -- The session begins, and the visit sees it through.
      obtain ⟨hx, hst, hturns⟩ := hfresh _ hagain
      have hbegin := hraise visit.session v.toChronicle hJ hturns
      rw [← hx, ← hst] at hbegin
      have hcues : ∀ cue ∈ visit.cues, cue.isFault = false := by
        simpa [Visit.isSmooth] using hsmooth visit (List.mem_cons_self ..)
      obtain ⟨hend, hothers⟩ := undisturbed_of_run hbegin hcues hvisit
      obtain ⟨a, ha⟩ := Flow.exists_eq_done hdone
      rw [ha] at hend
      obtain ⟨hJ₁, hraised⟩ := hend
      refine hlater (insert visit.session past) v₁ hJ₁ (fun j hj => ?_) (fun j hj => ?_) ?_ hrest
      · by_cases hself : j = visit.session
        · rw [hself]
          exact hdone
        · rw [(hothers j hself).1]
          exact hended j (Finset.mem_of_mem_insert_of_ne hj hself)
      · rw [Finset.mem_insert, not_or] at hj
        rw [(hothers j hj.1).1, (hothers j hj.1).2, turnsOf_of_run hj.1 hvisit]
        exact hfresh j hj.2
      · have hkept : ∑ j ∈ past, v₁.tally credit j = ∑ j ∈ past, v.tally credit j :=
          Finset.sum_congr rfl fun j hj => by
            have hself : j ≠ visit.session := fun h => hagain (h ▸ hj)
            exact tally_of_run hself hvisit (hothers j hself).1
        rw [Finset.sum_insert hagain, hkept, tally_of_done ha, hraised, hsum]
        omega

end World

end SimDepot
