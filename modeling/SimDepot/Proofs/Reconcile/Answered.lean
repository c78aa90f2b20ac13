import SimDepot.Proofs.Reconcile.Supply
import SimDepot.Proofs.Session.Answered

/-!
# Sessions alone, with what vendors answer

What vendor services answer is not up to the depot. `Flow.ComesToBy` says what can come of a session
alone when all answers of vendors are as `Q` demands, and which chronicle it can leave. Where `Q`
leaves one answer to every call, at most one thing can come of a session of which nothing else is
open; `Flow.LeadsTo` says that exactly this does.
-/

namespace SimDepot

variable {α : Type}

namespace Flow

/-- A session alone on the store `s`, whose calls of vendor services are answered as `Q` demands,
can come to the result `a` and leave the chronicle `h`. -/
def ComesToBy (Q : ReleaseCall → Prop) (x : Flow α) (s : Store) (a : α) (h : Chronicle Unit) :
    Prop :=
  ∃ (moves : List (Move Unit)) (w : World fun _ : Unit => α), (∀ m ∈ moves, m.isSmooth) ∧
    (World.start s fun _ => x).run moves = some w ∧ w.rest () = .done a ∧ w.toChronicle = h ∧
      ∀ call ∈ h.releaseCalls, Q call

variable {Q : ReleaseCall → Prop} {x : Flow α} {s : Store}

theorem ComesToBy.mono {Q' : ReleaseCall → Prop} {a : α} {h : Chronicle Unit}
    (hcomes : x.ComesToBy Q s a h) (hQ : ∀ call, Q call → Q' call) : x.ComesToBy Q' s a h := by
  obtain ⟨moves, w, hsmooth, hrun, hdone, hchronicle, hcalls⟩ := hcomes
  exact ⟨moves, w, hsmooth, hrun, hdone, hchronicle, fun call hcall => hQ call (hcalls call hcall)⟩

/-- To say so of the calls is to say so of the turns. -/
theorem comesToBy_iff {a : α} {h : Chronicle Unit} : x.ComesToBy Q s a h ↔
    x.ComesWith (fun turn => ∀ call, turn.releaseCall? = some call → Q call) s a h := by
  have hcalls : (∀ call ∈ h.releaseCalls, Q call) ↔
      ∀ d ∈ h.past, ∀ call, d.turn.releaseCall? = some call → Q call := by
    simp only [Chronicle.releaseCalls, List.mem_filterMap]
    exact ⟨fun hQ d hd call hcall => hQ call ⟨d, hd, hcall⟩,
      fun hQ call ⟨d, hd, hcall⟩ => hQ d hd call hcall⟩
  simp only [ComesToBy, ComesWith, hcalls]

/-- However a session alone comes to its end, it does as it does undisturbed. -/
theorem post_of_comesToBy {post : α → Standing → Chronicle Unit → Prop}
    (hx : x.Undisturbed () post .outside (.start s)) {a : α} {h : Chronicle Unit}
    (hcomes : x.ComesToBy Q s a h) : ∃ st, post a st h :=
  post_of_comesWith hx (comesToBy_iff.1 hcomes)

/-- Whatever is requested, there is an answer as vendors may give it that is no failure of the
store. -/
theorem exists_serve_by (hQ : ∀ vendor sim, ∃ answer, Q ⟨vendor, sim, answer⟩) (r : Request)
    (st : Standing) (s : Store) :
    ∃ cue a st' s', cue.isFault = false ∧ serve r cue st s = some (a, st', s') ∧
      ∀ call, Turn.releaseCall? ⟨r, a⟩ = some call → Q call := by
  by_cases hr : ∃ vendor sim, r = .release vendor sim
  · obtain ⟨vendor, sim, rfl⟩ := hr
    obtain ⟨answer, hanswer⟩ := hQ vendor sim
    refine ⟨.release answer, answer, st, s, rfl, rfl, fun call hcall => ?_⟩
    rw [← Option.some.inj hcall]
    exact hanswer
  · obtain ⟨cue, a, st', s', hcue, hserve⟩ := exists_serve r st s
    refine ⟨cue, a, st', s', hcue, hserve, fun call hcall => ?_⟩
    rw [Turn.releaseCall?_eq_none fun vendor sim heq => hr ⟨vendor, sim, heq⟩] at hcall
    cases hcall

/-- A session alone can always come to its end. -/
theorem exists_comesToBy (hQ : ∀ vendor sim, ∃ answer, Q ⟨vendor, sim, answer⟩) (x : Flow α)
    (s : Store) : ∃ a h, x.ComesToBy Q s a h := by
  obtain ⟨a, h, hcomes⟩ : ∃ a h,
      x.ComesWith (fun turn => ∀ call, turn.releaseCall? = some call → Q call) s a h :=
    exists_comesWith (exists_serve_by hQ) x s
  exact ⟨a, h, comesToBy_iff.2 hcomes⟩

end Flow

/-- What vendors answer, where this depends on the SIM only that they are given. -/
abbrev Answers := VendorId → Sim → Except Error Release

/-- The call is answered so. -/
def Answers.Give (answers : Answers) (call : ReleaseCall) : Prop :=
  call.answer = answers call.vendor call.sim

namespace Flow

/-- A session alone on the store `s`, whose vendors answer so, comes to its end; its result is `a`
and `s'` lasts then, however it does. -/
structure LeadsTo (answers : Answers) (x : Flow α) (s : Store) (a : α) (s' : Store) : Prop where
  /-- It can come to this. -/
  reachable : ∃ h, x.ComesToBy answers.Give s a h
  /-- It comes to nothing else. -/
  unique : ∀ b h, x.ComesToBy answers.Give s b h → b = a ∧ h.store = s'

theorem LeadsTo.eq {answers : Answers} {x : Flow α} {s t t' : Store} {a b : α}
    (h : x.LeadsTo answers s a t) (h' : x.LeadsTo answers s b t') : a = b ∧ t = t' := by
  obtain ⟨h₁, hcomes⟩ := h.reachable
  obtain ⟨-, rfl⟩ := h.unique a h₁ hcomes
  exact h'.unique a h₁ hcomes

/-- The rule for a session that is determined by what vendors answer. -/
theorem leadsTo_of_undisturbed {answers : Answers} {x : Flow α} {s s' : Store} {a : α}
    (hx : x.Undisturbed () (fun b _ h =>
      (∀ call ∈ h.releaseCalls, answers.Give call) → b = a ∧ h.store = s') .outside (.start s)) :
    x.LeadsTo answers s a s' := by
  have hunique : ∀ b h, x.ComesToBy answers.Give s b h → b = a ∧ h.store = s' := by
    intro b h hcomes
    obtain ⟨-, hpost⟩ := post_of_comesToBy hx hcomes
    obtain ⟨_, _, _, _, _, rfl, hcalls⟩ := hcomes
    exact hpost hcalls
  obtain ⟨b, h, hcomes⟩ :=
    exists_comesToBy (Q := answers.Give) (fun vendor sim => ⟨answers vendor sim, rfl⟩) x s
  obtain ⟨rfl, -⟩ := hunique b h hcomes
  exact ⟨⟨h, hcomes⟩, hunique⟩

end Flow

end SimDepot
