import SimDepot.Proofs.Session.Rule
import SimDepot.Reconcile.Pass

/-!
# Passes, one SIM at a time

A pass asks the store and releases SIMs, one after the other, and counts those it released.
`Topping` gathers what a law has to allow for that, with an invariant that knows the count;
`Topping.abides_pass` is then the rule for passes. It says that the reports of a pass that succeeds
count what was released, and that a pool is reported as failed only for an error that is to blame.
-/

namespace SimDepot

variable {ι : Type}

/-- How many SIMs a step released. -/
def Reconcile.ReleaseStep.count : Reconcile.ReleaseStep → Nat
  | released => 1
  | alreadyReleased | exhausted => 0

namespace Reconcile

open SimDepot.Action SimDepot.Flow

/-- What makes the passes of session `i` abide by a law: `J n` holds when `n` SIMs were released so
far, and `Blames` tells for which errors a pool may be reported as failed. -/
structure Topping (bindings : Bindings) (i : ι) (law : Chronicle ι → Prop) (faulty : Prop)
    (J : Nat → Chronicle ι → Prop) (Blames : Error → Chronicle ι → Prop) : Prop where
  /-- A question releases nothing, and it fails only where the store does. -/
  read : ∀ {n h} (q : Query), J n h → Action.Abides i law faulty
    (fun _ st h => st = .outside ∧ J n h) (fun _ st h => st = .outside ∧ J n h ∧ faulty)
    (Action.read q) .outside h
  /-- The release of the next SIM is counted if it is made. -/
  next : ∀ {n h} (pool : Pool), J n h → Action.Abides i law faulty
    (fun step st h => st = .outside ∧ J (n + step.count) h)
    (fun e st h => st = .outside ∧ J n h ∧ Blames e h) (releaseNext bindings pool) .outside h
  /-- Where the store fails, any error is to blame. -/
  fault : faulty → ∀ e h, Blames e h
  /-- What was to blame stays to blame. -/
  later : ∀ {e h h'}, Blames e h → h.Extends h' → Blames e h'

/-- The reports count what was released since there were `n`, and what failed is to blame. -/
structure Accounts (J : Nat → Chronicle ι → Prop) (Blames : Error → Chronicle ι → Prop) (n : Nat)
    (reports : List PoolReport) (h : Chronicle ι) : Prop where
  /-- What was released is counted. -/
  count : J (n + (PassReport.mk reports).released) h
  /-- What failed is to blame. -/
  blamed : ∀ report ∈ reports, ∀ e, report.outcome = .failed e → Blames e h

namespace Topping

variable {bindings : Bindings} {i : ι} {law : Chronicle ι → Prop} {faulty : Prop}
  {J : Nat → Chronicle ι → Prop} {Blames : Error → Chronicle ι → Prop} {n : Nat} {h : Chronicle ι}

/-- The rule for a run over a pool that has begun to release. -/
theorem abides_topUp (ht : Topping bindings i law faulty J Blames) {report : PoolReport}
    (hJ : J (n + report.released) h) (hfine : ∀ e, report.outcome ≠ .failed e) {budget : Nat} :
    (topUp bindings report budget).Abides i law faulty
      (fun report st h => st = .outside ∧ J (n + report.released) h ∧
        ∀ e, report.outcome = .failed e → Blames e h) .outside h := by
  induction budget generalizing report h with
  | zero => exact ⟨rfl, hJ, fun e he => absurd he (hfine e)⟩
  | succ budget ih =>
    refine Flow.Abides.bind (Flow.Abides.mono (ht.next report.pool hJ) fun res st h hres => ?_)
    match res with
    | .ok .released =>
      obtain ⟨rfl, hJ'⟩ := hres
      exact ih (by simpa [ReleaseStep.count, Nat.add_assoc] using hJ') hfine
    | .ok .alreadyReleased =>
      obtain ⟨rfl, hJ'⟩ := hres
      exact ih (by simpa [ReleaseStep.count] using hJ') hfine
    | .ok .exhausted =>
      obtain ⟨rfl, hJ'⟩ := hres
      exact ⟨rfl, by simpa [ReleaseStep.count] using hJ', nofun⟩
    | .error e =>
      obtain ⟨rfl, hJ', hblame⟩ := hres
      refine ⟨rfl, hJ', fun e' he' => ?_⟩
      cases he'
      exact hblame

/-- The rule for the run over a pool. -/
theorem abides_pool (ht : Topping bindings i law faulty J Blames) (hJ : J n h) {tuning : Tuning}
    {pool : Pool} :
    (Reconcile.pool bindings tuning pool).Abides i law faulty
      (fun report st h => st = .outside ∧ J (n + report.released) h ∧
        ∀ e, report.outcome = .failed e → Blames e h) .outside h := by
  have hfigures : Action.Abides i law faulty (fun _ st h => st = .outside ∧ J n h)
      (fun _ st h => st = .outside ∧ J n h ∧ faulty) (PoolFigures.read pool) .outside h :=
    abides_bind ((ht.read _ hJ).mono (fun _ _ _ h => h) fun _ _ _ h => h)
  refine Flow.Abides.bind (Flow.Abides.mono hfigures fun res st h hres => ?_)
  cases res with
  | error e =>
    obtain ⟨rfl, hJ', hfaulty⟩ := hres
    exact ⟨rfl, hJ', fun e' _ => ht.fault hfaulty e' _⟩
  | ok figures =>
    obtain ⟨rfl, hJ'⟩ := hres
    dsimp only
    split
    · exact ⟨rfl, hJ', nofun⟩
    · refine ht.abides_topUp ?_ fun e => by simp
      exact hJ'

theorem released_cons (report : PoolReport) (reports : List PoolReport) :
    (PassReport.mk (report :: reports)).released =
      report.released + (PassReport.mk reports).released := rfl

theorem released_append (early late : List PoolReport) :
    (PassReport.mk (early ++ late)).released =
      (PassReport.mk early).released + (PassReport.mk late).released := by
  induction early with
  | nil => exact (Nat.zero_add _).symm
  | cons report rest ih => rw [List.cons_append, released_cons, released_cons, ih, Nat.add_assoc]

/-- Accounts of a later time go on from those of an earlier one. -/
theorem accounts_append (ht : Topping bindings i law faulty J Blames) {h' : Chronicle ι}
    {early late : List PoolReport} (hearly : Accounts J Blames n early h)
    (hlate : Accounts J Blames (n + (PassReport.mk early).released) late h')
    (he : h.Extends h') : Accounts J Blames n (early ++ late) h' where
  count := by
    rw [released_append, ← Nat.add_assoc]
    exact hlate.count
  blamed report hreport e hfailed := by
    rcases List.mem_append.1 hreport with hreport | hreport
    · exact ht.later (hearly.blamed report hreport e hfailed) he
    · exact hlate.blamed report hreport e hfailed

/-- The rule for the pools of a registry. -/
theorem abides_poolsOf (ht : Topping bindings i law faulty J Blames) (hJ : J n h) {tuning : Tuning}
    {registry : RegistryId} {profiles : List String} :
    (poolsOf bindings tuning registry profiles).Abides i law faulty
      (fun reports st h => st = .outside ∧ Accounts J Blames n reports h) .outside h := by
  induction profiles generalizing n h with
  | nil => exact ⟨rfl, hJ, by simp⟩
  | cons profile rest ih =>
    refine Flow.Abides.bind (Flow.Abides.mono (ht.abides_pool hJ) ?_)
    rintro report st h₁ ⟨rfl, hJ₁, hblame⟩
    have hone : Accounts J Blames n [report] h₁ := by
      refine ⟨hJ₁, fun r hr e hfailed => ?_⟩
      obtain rfl := List.mem_singleton.1 hr
      exact hblame e hfailed
    refine Flow.Abides.bind (Flow.Abides.mono ((ih hone.count).extending .refl) ?_)
    rintro reports st h₂ ⟨⟨rfl, hrest⟩, he⟩
    exact ⟨rfl, ht.accounts_append hone hrest he⟩

/-- The rule for the pools of registries. -/
theorem abides_registries (ht : Topping bindings i law faulty J Blames) (hJ : J n h)
    {tuning : Tuning} {entries : List Entry} :
    Action.Abides i law faulty (fun reports st h => st = .outside ∧ Accounts J Blames n reports h)
      (fun _ st h => st = .outside ∧ (∃ m, J m h) ∧ faulty) (registries bindings tuning entries)
      .outside h := by
  induction entries generalizing n h with
  | nil => exact abides_pure ⟨rfl, hJ, by simp⟩
  | cons entry rest ih =>
    refine abides_bind ((ht.read _ hJ).mono ?_ fun _ _ _ ⟨hst, hJ, hf⟩ => ⟨hst, ⟨n, hJ⟩, hf⟩)
    rintro profiles st h₁ ⟨rfl, hJ₁⟩
    refine abides_bind (Flow.Abides.bind (Flow.Abides.mono (ht.abides_poolsOf hJ₁) ?_))
    rintro early st h₂ ⟨rfl, hearly⟩
    refine abides_bind (Flow.Abides.mono ((ih hearly.count).extending .refl) ?_)
    rintro (e | late) st h₃ ⟨hres, he⟩
    · exact hres
    · obtain ⟨rfl, hlate⟩ := hres
      exact abides_pure ⟨rfl, ht.accounts_append hearly hlate he⟩

/-- The rule for passes. -/
theorem abides_pass (ht : Topping bindings i law faulty J Blames) (hJ : J n h) {tuning : Tuning} :
    Action.Abides i law faulty
      (fun report st h => st = .outside ∧ Accounts J Blames n report.pools h)
      (fun _ st h => st = .outside ∧ (∃ m, J m h) ∧ faulty) (pass bindings tuning) .outside h := by
  refine abides_bind ((ht.read _ hJ).mono ?_ fun _ _ _ ⟨hst, hJ, hf⟩ => ⟨hst, ⟨n, hJ⟩, hf⟩)
  rintro entries st h₁ ⟨rfl, hJ₁⟩
  exact abides_bind ((ht.abides_registries hJ₁).mono (fun reports st h hres => hres)
    fun _ _ _ h => h)

end Topping

end Reconcile

end SimDepot
