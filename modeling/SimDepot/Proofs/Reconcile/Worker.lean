import Mathlib.Data.List.Infix
import SimDepot.Reconcile.Worker

/-!
# When the worker ends

A worker ends at one of two events: when a pass is over and the signal was sent by then, or when it
takes notice of news while it waits. News is the signal, or that the handle has gone without one,
and `Stop` tells the three cases apart. So a worker whose handle is kept until the signal is sent
ends only when it is told to, while one that is deserted ends all the same. Once the signal has been
sent, the worker begins one more pass at most: the tick may win against the signal once.

What comes of the passes plays no part in it (`run_serve`).
-/

namespace SimDepot.Worker

variable {w w' : Worker} {e : WorkerEvent} {es early : List WorkerEvent}

/-! ## One event -/

/-- All that an event can do. -/
theorem step_cases (h : w.step e = some w') :
    (e = .tick ∧ w.phase = .waiting ∧ w' = { w with phase := .passing }) ∨
    (e = .passEnds ∧ w.phase = .passing ∧
      w' = { w with phase := if w.signalled then .ended else .waiting }) ∨
    (e = .signal ∧ w.abandoned = false ∧ w' = { w with signalled := true }) ∨
    (e = .abandon ∧ w' = { w with abandoned := true }) ∨
    (e = .news ∧ w.phase = .waiting ∧ (w.signalled ∨ w.abandoned) ∧
      w' = { w with phase := .ended }) := by
  cases e <;> simp_all [step]

theorem signalled_of_step (h : w.step e = some w') :
    w'.signalled ↔ w.signalled ∨ e = .signal := by
  obtain ⟨rfl, -, rfl⟩ | ⟨rfl, -, rfl⟩ | ⟨rfl, -, rfl⟩ | ⟨rfl, rfl⟩ | ⟨rfl, -, -, rfl⟩ :=
    step_cases h <;> simp

theorem abandoned_of_step (h : w.step e = some w') :
    w'.abandoned ↔ w.abandoned ∨ e = .abandon := by
  obtain ⟨rfl, -, rfl⟩ | ⟨rfl, -, rfl⟩ | ⟨rfl, -, rfl⟩ | ⟨rfl, rfl⟩ | ⟨rfl, -, -, rfl⟩ :=
    step_cases h <;> simp

/-- A worker that has ended stays so, and one that has not ends at the end of a pass if the signal
was sent, or at news. -/
theorem ended_of_step (h : w.step e = some w') : w'.phase = .ended ↔
    w.phase = .ended ∨ (e = .passEnds ∧ w.signalled) ∨ e = .news := by
  obtain ⟨rfl, hphase, rfl⟩ | ⟨rfl, hphase, rfl⟩ | ⟨rfl, -, rfl⟩ | ⟨rfl, rfl⟩ |
    ⟨rfl, hphase, -, rfl⟩ := step_cases h <;> simp_all

/-- How many passes a worker can still begin that was sent the signal. -/
def passesLeft (w : Worker) : Nat := if w.phase = .waiting then 1 else 0

/-- The pass that a worker begins after the signal is its last. -/
theorem passesLeft_of_step (hsignal : w.signalled) (h : w.step e = some w') :
    (if e = .tick then 1 else 0) + w'.passesLeft ≤ w.passesLeft := by
  obtain ⟨rfl, hphase, rfl⟩ | ⟨rfl, hphase, rfl⟩ | ⟨rfl, -, rfl⟩ | ⟨rfl, rfl⟩ |
    ⟨rfl, hphase, -, rfl⟩ := step_cases h <;> simp_all [passesLeft]

/-! ## Runs -/

theorem run_cons_eq_some_iff : w.run (e :: es) = some w' ↔
    ∃ v, w.step e = some v ∧ v.run es = some w' :=
  Option.bind_eq_some_iff

theorem run_append_eq_some_iff : w.run (early ++ es) = some w' ↔
    ∃ v, w.run early = some v ∧ v.run es = some w' := by
  induction early generalizing w with
  | nil => simp [run]
  | cons e rest ih =>
    simp only [List.cons_append, run_cons_eq_some_iff, ih]
    exact ⟨fun ⟨u, hu, v, hv, hlate⟩ => ⟨v, ⟨u, hu, hv⟩, hlate⟩,
      fun ⟨v, ⟨u, hu, hv⟩, hlate⟩ => ⟨u, hu, v, hv, hlate⟩⟩

theorem run_snoc (h : w.run (es ++ [e]) = some w') :
    ∃ v, w.run es = some v ∧ v.step e = some w' := by
  obtain ⟨v, hv, hlast⟩ := run_append_eq_some_iff.1 h
  obtain ⟨_, hstep, ⟨⟩⟩ := run_cons_eq_some_iff.1 hlast
  exact ⟨v, hv, hstep⟩

theorem signalled_of_run (h : started.run es = some w) : w.signalled ↔ .signal ∈ es := by
  induction es using List.reverseRecOn generalizing w with
  | nil =>
    cases h
    simp [started]
  | append_singleton es e ih =>
    obtain ⟨v, hv, hstep⟩ := run_snoc h
    rw [signalled_of_step hstep, ih hv, List.mem_append, List.mem_singleton, eq_comm (a := e)]

theorem abandoned_of_run (h : started.run es = some w) : w.abandoned ↔ .abandon ∈ es := by
  induction es using List.reverseRecOn generalizing w with
  | nil =>
    cases h
    simp [started]
  | append_singleton es e ih =>
    obtain ⟨v, hv, hstep⟩ := run_snoc h
    rw [abandoned_of_step hstep, ih hv, List.mem_append, List.mem_singleton, eq_comm (a := e)]

/-- After the signal a worker begins no more passes than it has left. -/
theorem count_tick_le (hsignal : w.signalled) (h : w.run es = some w') :
    es.count .tick ≤ w.passesLeft := by
  induction es generalizing w with
  | nil => exact Nat.zero_le _
  | cons e rest ih =>
    obtain ⟨v, hstep, hrest⟩ := run_cons_eq_some_iff.1 h
    have hlater := ih ((signalled_of_step hstep).2 (.inl hsignal)) hrest
    have hnow := passesLeft_of_step hsignal hstep
    simp only [List.count_cons, beq_iff_eq]
    omega

/-- What makes a worker end at an event, after the events before it. -/
inductive Stop (early : List WorkerEvent) : WorkerEvent → Prop
  /-- A pass is over, and the signal was sent by then. -/
  | done (h : .signal ∈ early) : Stop early .passEnds
  /-- The worker takes notice of the signal. -/
  | told (h : .signal ∈ early) : Stop early .news
  /-- The worker takes notice that its handle has gone without a signal. -/
  | deserted (h : .signal ∉ early) (hgone : .abandon ∈ early) : Stop early .news

theorem stop_iff {v : Worker} (hv : started.run es = some v) (h : v.step e = some w) :
    Stop es e ↔ (e = .passEnds ∧ v.signalled) ∨ e = .news := by
  have hsignal := signalled_of_run hv
  have habandon := abandoned_of_run hv
  constructor
  · rintro (hs | hs | ⟨hs, hgone⟩)
    · exact .inl ⟨rfl, hsignal.2 hs⟩
    · exact .inr rfl
    · exact .inr rfl
  · rintro (⟨rfl, hs⟩ | rfl)
    · exact .done (hsignal.1 hs)
    · -- News is there because of the signal or because of the handle.
      obtain ⟨⟨⟩, -⟩ | ⟨⟨⟩, -⟩ | ⟨⟨⟩, -⟩ | ⟨⟨⟩, -⟩ | ⟨-, -, hnews, -⟩ := step_cases h
      by_cases hs : .signal ∈ es
      · exact .told hs
      · exact .deserted hs (habandon.1 (hnews.resolve_left fun h => hs (hsignal.1 h)))

/-- A worker has ended if and only if something made it end. -/
theorem ended_iff (h : started.run es = some w) :
    w.phase = .ended ↔ ∃ early e, early ++ [e] <+: es ∧ Stop early e := by
  induction es using List.reverseRecOn generalizing w with
  | nil =>
    cases h
    simp [started]
  | append_singleton es e ih =>
    obtain ⟨v, hv, hstep⟩ := run_snoc h
    rw [ended_of_step hstep, ih hv, ← stop_iff hv hstep]
    constructor
    · rintro (⟨early, e', hprefix, hstop⟩ | hstop)
      · exact ⟨early, e', hprefix.trans (List.prefix_append _ _), hstop⟩
      · exact ⟨es, e, List.prefix_rfl, hstop⟩
    · rintro ⟨early, e', hprefix, hstop⟩
      rcases List.prefix_concat_iff.1 hprefix with heq | hprefix
      · obtain ⟨hsame, hlast⟩ := List.append_inj' heq rfl
        exact .inr (hsame ▸ List.singleton_inj.1 hlast ▸ hstop)
      · exact .inl ⟨early, e', hprefix, hstop⟩

/-- A worker that is deserted can end without having been told to. -/
theorem exists_run_ended_of_abandoned (hgone : w.abandoned) :
    ∃ more w', .signal ∉ more ∧ w.run more = some w' ∧ w'.phase = .ended := by
  obtain ⟨phase, signalled, abandoned⟩ := w
  cases hgone
  cases phase with
  | waiting => exact ⟨[.news], _, by simp, by simp [run, step]; rfl, rfl⟩
  | passing =>
    cases signalled with
    | false => exact ⟨[.passEnds, .news], _, by simp, by simp [run, step]; rfl, rfl⟩
    | true => exact ⟨[.passEnds], _, by simp, by simp [run, step]; rfl, rfl⟩
  | ended => exact ⟨[], _, by simp, rfl, rfl⟩

/-! ## Passes -/

/-- However the requests of its passes are answered, a worker goes through the same events. -/
theorem run_serve {σ : Type} (bindings : Bindings) (tuning : Tuning) (handler : Flow.Handler σ)
    (s : σ) (h : w.run es = some w') : ((w.serve bindings tuning es).run handler s).1 = w' := by
  induction es generalizing w s with
  | nil =>
    cases h
    rfl
  | cons e rest ih =>
    obtain ⟨v, hstep, hrest⟩ := run_cons_eq_some_iff.1 h
    simp only [serve, hstep]
    split
    · rw [Flow.run_bind]
      exact ih _ hrest
    · exact ih _ hrest

/-! ## The whole -/

/-- A worker ends where something made it end, so only if it was told to, as long as its handle is
kept until the signal is sent; if the handle goes without a signal, the worker can end nevertheless.
Once the signal was sent it begins at most one more pass. All this is so whatever comes of the
passes. -/
theorem worker_ends_of_run (h : started.run es = some w) :
    (w.phase = .ended ↔ ∃ early e, early ++ [e] <+: es ∧ Stop early e) ∧
    ((∀ early, early ++ [.abandon] <+: es → .signal ∈ early) →
      w.phase = .ended → .signal ∈ es) ∧
    (.abandon ∈ es → .signal ∉ es →
      ∃ more w', .signal ∉ es ++ more ∧ started.run (es ++ more) = some w' ∧ w'.phase = .ended) ∧
    (∀ early late, es = early ++ .signal :: late → late.count .tick ≤ 1) ∧
    ∀ (bindings : Bindings) (tuning : Tuning) (σ : Type) (handler : Flow.Handler σ) (s : σ),
      ((started.serve bindings tuning es).run handler s).1 = w := by
  refine ⟨ended_iff h, fun hkept hended => ?_, fun hgone hquiet => ?_, ?_,
    fun bindings tuning σ handler s => run_serve bindings tuning handler s h⟩
  · obtain ⟨early, e, hprefix, hstop⟩ := (ended_iff h).1 hended
    have hearly : early <+: es := (List.prefix_append _ _).trans hprefix
    rcases hstop with hs | hs | ⟨hs, hgone⟩
    · exact hearly.subset hs
    · exact hearly.subset hs
    · obtain ⟨before, after, rfl⟩ := List.append_of_mem hgone
      have hbefore : before ++ [.abandon] <+: es :=
        List.IsPrefix.trans ⟨after, by simp⟩ hearly
      exact absurd (List.mem_append_left _ (hkept before hbefore)) hs
  · obtain ⟨more, w', hmore, hrun, hended⟩ :=
      exists_run_ended_of_abandoned ((abandoned_of_run h).2 hgone)
    exact ⟨more, w', by simp [hquiet, hmore], run_append_eq_some_iff.2 ⟨w, h, hrun⟩, hended⟩
  · rintro early late rfl
    obtain ⟨v, -, hlate⟩ := run_append_eq_some_iff.1 h
    obtain ⟨u, hstep, hrest⟩ := run_cons_eq_some_iff.1 hlate
    refine (count_tick_le ((signalled_of_step hstep).2 (.inr rfl)) hrest).trans ?_
    rw [passesLeft]
    split <;> simp

/-- The handle goes after the first pass, and the worker ends: nobody has told it to. -/
theorem worker_ends_of_desertion :
    started.run [.tick, .passEnds, .abandon, .news] = some ⟨.ended, false, true⟩ ∧
    (∃ early e, early ++ [e] <+: [.tick, .passEnds, .abandon, .news] ∧ Stop early e) ∧
    .signal ∉ [WorkerEvent.tick, .passEnds, .abandon, .news] :=
  ⟨rfl, (worker_ends_of_run (w := ⟨.ended, false, true⟩) rfl).1.1 rfl, by decide⟩

end SimDepot.Worker
