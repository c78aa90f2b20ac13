import SimDepot.Proofs.Session.InTurn

/-!
# Sessions alone, as they are answered

What services answer is not up to the depot. `Flow.ComesWith` says what can come of a session alone
when its requests are answered as `Q` demands, and which chronicle it can leave. However it comes to
its end it does as it does undisturbed, and it can come to an end so if every request has an answer
that `Q` admits.
-/

namespace SimDepot

variable {α : Type}

namespace Flow

/-- A session alone on the store `s`, whose requests are answered as `Q` demands, can come to the
result `a` and leave the chronicle `h`. -/
def ComesWith (Q : Turn → Prop) (x : Flow α) (s : Store) (a : α) (h : Chronicle Unit) : Prop :=
  ∃ (moves : List (Move Unit)) (w : World fun _ : Unit => α), (∀ m ∈ moves, m.isSmooth) ∧
    (World.start s fun _ => x).run moves = some w ∧ w.rest () = .done a ∧ w.toChronicle = h ∧
      ∀ d ∈ h.past, Q d.turn

variable {Q : Turn → Prop} {x : Flow α} {s : Store}

/-- However a session alone comes to its end, it does as it does undisturbed. -/
theorem post_of_comesWith {post : α → Standing → Chronicle Unit → Prop}
    (hx : x.Undisturbed () post .outside (.start s)) {a : α} {h : Chronicle Unit}
    (hcomes : x.ComesWith Q s a h) : ∃ st, post a st h := by
  obtain ⟨moves, w, hsmooth, hrun, hdone, rfl, -⟩ := hcomes
  have hend : (w.rest ()).Undisturbed () post (w.standing ()) w.toChronicle :=
    kept_of_run (P := fun x st h => x.Undisturbed () post st h) (fun h => h _ _ _ _) hx hsmooth hrun
  rw [hdone] at hend
  exact ⟨w.standing (), hend⟩

/-- A session alone can come to its end where every request can be answered as is demanded. -/
theorem exists_comesWith (hQ : ∀ r st s, ∃ cue a st' s', cue.isFault = false ∧
    serve r cue st s = some (a, st', s') ∧ Q ⟨r, a⟩) (x : Flow α) (s : Store) :
    ∃ a h, x.ComesWith Q s a h := by
  suffices hall : ∀ v : World fun _ : Unit => α, v.rest () = x → (v.standing ()).isGone = false →
      (∀ d ∈ v.past, Q d.turn) → ∃ moves w, (∀ m ∈ moves, m.isSmooth) ∧
        v.run moves = some w ∧ (w.rest ()).isDone ∧ ∀ d ∈ w.past, Q d.turn by
    obtain ⟨moves, w, hsmooth, hrun, hdone, hturns⟩ :=
      hall (World.start s fun _ => x) rfl rfl (by simp [World.start])
    obtain ⟨a, ha⟩ := exists_eq_done hdone
    exact ⟨a, w.toChronicle, moves, w, hsmooth, hrun, ha, rfl, hturns⟩
  induction x with
  | done a => exact fun v hrest _ hturns => ⟨[], v, by simp, rfl, by rw [hrest]; rfl, hturns⟩
  | ask r k ih =>
    intro v hrest halive hturns
    obtain ⟨cue, a, st, s', hcue, hserve, hanswer⟩ := hQ r (v.standing ()) v.store
    have hfree : v.FreeFor () := fun _ _ => rfl
    have hstep : v.step (.turn () cue) = some (v.proceed () ⟨r, a⟩ st s' (k a)) := by
      simp [World.step, hrest, halive, hfree.isLockedFor, hserve]
    have hnext : ∀ d ∈ (v.note () ⟨r, a⟩ s').past, Q d.turn := by
      intro d hd
      rcases List.mem_append.1 hd with hd | hd
      · exact hturns d hd
      · rw [List.mem_singleton.1 hd]
        exact hanswer
    obtain ⟨moves, w, hsmooth, hrun, hend⟩ := ih a (v.proceed () ⟨r, a⟩ st s' (k a))
      (by simp [World.proceed]) (by simpa [World.proceed] using isGone_serve hserve halive) hnext
    refine ⟨.turn () cue :: moves, w, fun m hm => ?_, Option.bind_eq_some_iff.2 ⟨_, hstep, hrun⟩,
      hend⟩
    rcases List.mem_cons.1 hm with rfl | hm
    · simp [Move.isSmooth, hcue]
    · exact hsmooth m hm

end Flow

end SimDepot
