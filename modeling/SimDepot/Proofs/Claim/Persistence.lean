import SimDepot.Proofs.Claim.Exhaustion
import SimDepot.Proofs.Claim.Solitary
import SimDepot.Proofs.Session.Endurance
import SimDepot.Proofs.Store.Revision

/-!
# Claims on a store that fails

Any statement of an attempt to claim a SIM may fail: the one that begins the transaction, the
question for what is ready, the claim itself, the look at the SIM, and the end of the transaction.
Wherever it fails, this ends the attempt, and the transaction is left, so that nothing lasts of it.
`Stock.endures_tryClaim` is this case analysis, once for all.

A claim tries again after contention, and only then. `Stock.Persisted` has the three ways in which
this ends, with the failures that were met and the attempts that were made;
`Stock.endures_claimWithin` is the induction on the attempts that are left.
-/

namespace SimDepot

variable {ι : Type} {i : ι}

/-- The failure of the store that a request was answered with. -/
def Turn.failure? : Turn → Option StoreFailure
  | ⟨.read _, .error failure⟩ | ⟨.write _, .error failure⟩ | ⟨.begin, .error failure⟩
  | ⟨.commit, .error failure⟩ | ⟨.rollback, .error failure⟩ => some failure
  | _ => none

namespace Chronicle

variable {h h' : Chronicle ι}

/-- The failures of the store so far, in order. -/
def failures (h : Chronicle ι) : List StoreFailure := h.past.filterMap (·.turn.failure?)

/-- The number of times that somebody asked for a transaction. -/
def begun (h : Chronicle ι) : Nat := h.past.countP (·.turn.request = .begin)

@[simp] theorem failures_start (s : Store) : (start s : Chronicle ι).failures = [] := rfl

@[simp] theorem begun_start (s : Store) : (start s : Chronicle ι).begun = 0 := rfl

@[simp] theorem failures_note (turn : Turn) (s : Store) :
    (h.note i turn s).failures = h.failures ++ turn.failure?.toList := by
  cases hturn : turn.failure? <;> simp [failures, hturn]

@[simp] theorem begun_note (turn : Turn) (s : Store) :
    (h.note i turn s).begun = h.begun + if turn.request = .begin then 1 else 0 := by
  simp [begun, List.countP_append, List.countP_singleton]

theorem Extends.begun_le (he : h.Extends h') : h.begun ≤ h'.begun := by
  induction he with
  | refl => exact le_rfl
  | note _ _ _ _ ih =>
    rw [begun_note]
    omega

end Chronicle

namespace Stock

open SimDepot.Action

variable {pool : Pool} {s s' : Store} {h h₁ h' : Chronicle ι}

/-! ## Attempts -/

/-- How an attempt to claim a SIM of a pool ends when nobody else is at work. -/
inductive Attempted (pool : Pool) (h h' : Chronicle ι) : Except Error ClaimAttempt → Prop
  /-- A statement failed, and nothing has changed. -/
  | failed {failure : StoreFailure} (hfailures : h'.failures = h.failures ++ [failure])
      (hstore : h'.store = h.store) : Attempted pool h h' (.error (.store failure))
  /-- The first SIM that was ready is claimed. -/
  | claimed {c : Sim} (hfirst : FirstReady pool h.store c) (hfailures : h'.failures = h.failures)
      (hstore : h'.store = (h.store.changeSim c.id .claim).1) :
      Attempted pool h h' (.ok (.claimed (c.change .claim)))
  /-- Nothing was ready. -/
  | nothingReady (hnone : ∀ r ∈ h.store.sims.rows, r.pool = pool → r.isReady = false)
      (hfailures : h'.failures = h.failures) (hstore : h'.store = h.store) :
      Attempted pool h h' (.ok .nothingReady)

/-- The rule for an attempt. -/
theorem endures_tryClaim (pool : Pool) :
    Action.Endures i (fun res st h' => st = .outside ∧ h'.begun = h.begun + 1 ∧
      Attempted pool h h' res) (tryClaim pool) .outside h := by
  refine endures_inTransaction (endures_bind (endures_read ?_ fun failure => ?_)) fun failure => ?_
  · rw [Standing.view_inside, Chronicle.store_note]
    cases hfind : Query.eval h.store (.sim (.ready pool)) with
    | none =>
      have hnone : ∀ r ∈ h.store.sims.rows, r.pool = pool → r.isReady = false := by
        intro r hr hpool
        simpa [SimQuery.holds, hpool] using List.find?_eq_none.1 hfind r hr
      refine endures_bind (endures_rollback (endures_pure ⟨rfl, ?_, .nothingReady hnone ?_ rfl⟩)
        fun failure => ⟨rfl, ?_, .failed ?_ rfl⟩)
      all_goals simp [Turn.failure?]
    | some c =>
      have hc := firstReady_of_eval hfind
      have hadmits : SimChange.claim.admits c.toSimData := hc.ready
      have hone : (h.store.changeSim c.id .claim).2 = 1 :=
        Store.changeSim_eq_one_iff.2 ⟨c, hc.mem, rfl, hadmits⟩
      have hagain := Store.eval_withId_changeSim hc.mem hadmits
      refine endures_bind (endures_write_within rfl (fun s n hexec => ?_)
        fun _ => ⟨rfl, ?_, .failed ?_ rfl⟩)
      have hchange : h.store.changeSim c.id .claim = (s, n) := Except.ok.inj hexec
      rw [hchange] at hone hagain
      obtain rfl : n = 1 := hone
      -- The SIM is claimed by now, as far as the transaction goes.
      refine endures_bind (endures_bind (endures_read ?_ fun _ => ⟨rfl, ?_, .failed ?_ rfl⟩))
      rw [Standing.view_writing, hagain]
      refine endures_bind (endures_commit (endures_pure ⟨rfl, ?_, .claimed hc ?_ ?_⟩)
        fun _ => ⟨rfl, ?_, .failed ?_ rfl⟩)
      all_goals simp [Turn.failure?]
      exact (congrArg Prod.fst hchange).symm
  · refine ⟨rfl, ?_, .failed ?_ rfl⟩ <;> simp [Turn.failure?]
  · refine ⟨rfl, ?_, .failed ?_ rfl⟩ <;> simp [Turn.failure?]

/-! ## A claim -/

/-- What a claim comes to when nobody else is at work and nothing goes wrong. -/
inductive Decides (pool : Pool) (s : Store) : Except Error Sim → Store → Prop
  /-- The first SIM that is ready is claimed. -/
  | claimed {c : Sim} (hfirst : FirstReady pool s c) :
      Decides pool s (.ok (c.change .claim)) (s.changeSim c.id .claim).1
  /-- Nothing is ready. -/
  | nothingReady (hnone : ∀ r ∈ s.sims.rows, r.pool = pool → r.isReady = false) :
      Decides pool s (.error (.notFound (.readySim pool))) s

theorem Decides.unique {res res' : Except Error Sim} {s₁ s₂ : Store} (h : Decides pool s res s₁)
    (h' : Decides pool s res' s₂) : res' = res ∧ s₂ = s₁ := by
  cases h with
  | claimed hfirst =>
    cases h' with
    | claimed hfirst' =>
      obtain rfl := hfirst.unique hfirst'
      exact ⟨rfl, rfl⟩
    | nothingReady hnone =>
      have hnot := hnone _ hfirst.mem hfirst.pool_eq
      rw [hfirst.ready] at hnot
      cases hnot
  | nothingReady hnone =>
    cases h' with
    | claimed hfirst =>
      have hnot := hnone _ hfirst.mem hfirst.pool_eq
      rw [hfirst.ready] at hnot
      cases hnot
    | nothingReady _ => exact ⟨rfl, rfl⟩

theorem Decides.store_of_error {e : Error} (h : Decides pool s (.error e) s') : s' = s := by
  cases h
  rfl

theorem Decides.revised_of_ok {r : Sim} (h : Decides pool s (.ok r) s') : ∃ c, FirstReady pool s c ∧
    r = { c with provisionState := .provisioned } ∧ s.Revised c r s' := by
  cases h with
  | @claimed c hfirst => exact ⟨c, hfirst, rfl, Store.revised_changeSim hfirst.mem hfirst.ready⟩

theorem decides_of_comesTo {res : Except Error Sim}
    (hcomes : (claim pool).run.ComesTo s res s') : Decides pool s res s' := by
  have hclaim : Action.Alone (fun res _ s' => Decides pool s res s') (claim pool) .outside s :=
    alone_claim (fun c hc => .claimed hc) .nothingReady
  obtain ⟨-, hdecides⟩ := Flow.post_of_comesTo hclaim hcomes
  exact hdecides

theorem comesTo_iff_of_decides {res res' : Except Error Sim} {s₂ : Store}
    (hdecides : Decides pool s res s') :
    (claim pool).run.ComesTo s res' s₂ ↔ res' = res ∧ s₂ = s' := by
  refine ⟨fun hcomes => hdecides.unique (decides_of_comesTo hcomes), ?_⟩
  rintro ⟨rfl, rfl⟩
  obtain ⟨res₁, s₁, hcomes⟩ := Flow.exists_comesTo (claim pool).run s
  obtain ⟨rfl, rfl⟩ := hdecides.unique (decides_of_comesTo hcomes)
  exact hcomes

/-- How a claim with `left` attempts ends when nobody else is at work: attempts that met contention
come first. -/
inductive Persisted (pool : Pool) (left : Nat) (h h' : Chronicle ι) : Except Error Sim → Prop
  /-- There was nothing but contention. -/
  | gaveUp (contended : List StoreFailure) (hcontended : ∀ f ∈ contended, f.isContention)
      (hleft : contended.length = left) (hfailures : h'.failures = h.failures ++ contended)
      (hbegun : h'.begun = h.begun + contended.length) (hstore : h'.store = h.store) :
      Persisted pool left h h' (.error (.system (.claimGivenUp pool claimAttempts)))
  /-- The last attempt failed otherwise. -/
  | failed (contended : List StoreFailure) {failure : StoreFailure}
      (hcontended : ∀ f ∈ contended, f.isContention) (hleft : contended.length < left)
      (hfailure : failure.isContention = false)
      (hfailures : h'.failures = h.failures ++ (contended ++ [failure]))
      (hbegun : h'.begun = h.begun + (contended.length + 1)) (hstore : h'.store = h.store) :
      Persisted pool left h h' (.error (.store failure))
  /-- Nothing went wrong in the last attempt, and it decided the claim. -/
  | decided (contended : List StoreFailure) {res : Except Error Sim}
      (hcontended : ∀ f ∈ contended, f.isContention) (hleft : contended.length < left)
      (hfailures : h'.failures = h.failures ++ contended)
      (hbegun : h'.begun = h.begun + (contended.length + 1))
      (hdecides : Decides pool h.store res h'.store) : Persisted pool left h h' res

/-- One more attempt, which met contention, may come first. -/
theorem Persisted.again {left : Nat} {failure : StoreFailure} {res : Except Error Sim}
    (hp : Persisted pool left h₁ h' res) (hcontention : failure.isContention)
    (hfailures₁ : h₁.failures = h.failures ++ [failure]) (hbegun₁ : h₁.begun = h.begun + 1)
    (hstore₁ : h₁.store = h.store) : Persisted pool (left + 1) h h' res := by
  have hmore (contended : List StoreFailure) (hcontended : ∀ f ∈ contended, f.isContention) :
      ∀ f ∈ failure :: contended, f.isContention := List.forall_mem_cons.2 ⟨hcontention, hcontended⟩
  cases hp with
  | gaveUp contended hcontended hleft hfailures hbegun hstore =>
    refine .gaveUp _ (hmore contended hcontended) (by simp [hleft]) ?_ ?_ (hstore.trans hstore₁)
    · rw [hfailures, hfailures₁, List.append_assoc, List.singleton_append]
    · rw [hbegun, hbegun₁, List.length_cons]
      omega
  | failed contended hcontended hleft hfailure hfailures hbegun hstore =>
    refine .failed _ (hmore contended hcontended) (by simpa using hleft) hfailure ?_ ?_
      (hstore.trans hstore₁)
    · rw [hfailures, hfailures₁, List.append_assoc, List.singleton_append, List.cons_append]
    · rw [hbegun, hbegun₁, List.length_cons]
      omega
  | decided contended hcontended hleft hfailures hbegun hdecides =>
    refine .decided _ (hmore contended hcontended) (by simpa using hleft) ?_ ?_ (hstore₁ ▸ hdecides)
    · rw [hfailures, hfailures₁, List.append_assoc, List.singleton_append]
    · rw [hbegun, hbegun₁, List.length_cons]
      omega

/-- The rule for the attempts that are left of a claim. -/
theorem endures_claimWithin (pool : Pool) (number left : Nat) :
    Action.Endures i (fun res st h' => st = .outside ∧ Persisted pool left h h' res)
      (claimWithin pool number left) .outside h := by
  induction left generalizing number h with
  | zero => exact ⟨rfl, .gaveUp [] (by simp) rfl (by simp) rfl rfl⟩
  | succ left ih =>
    refine endures_bind (endures_attempt ((endures_tryClaim pool).mono ?_))
    rintro res _ h₁ ⟨rfl, hbegun, hattempted⟩
    cases hattempted with
    | @failed failure hfailures hstore =>
      refine endures_ite
        (fun hcontention => endures_bind (endures_pause ((ih (number + 1)).mono ?_)))
        fun hcontention => endures_throw ⟨rfl, ?_⟩
      · rintro res st h' ⟨hst, hpersisted⟩
        exact ⟨hst, hpersisted.again hcontention (by simp [hfailures, Turn.failure?])
          (by simp [hbegun]) hstore⟩
      · exact .failed [] (by simp) (by simp) (by simpa using hcontention)
          (by simpa using hfailures) (by simpa using hbegun) hstore
    | claimed hfirst hfailures hstore =>
      refine endures_pure ⟨rfl, .decided [] (by simp) (by simp)
        (by simpa using hfailures) (by simpa using hbegun) ?_⟩
      rw [hstore]
      exact .claimed hfirst
    | nothingReady hnone hfailures hstore =>
      refine endures_throw ⟨rfl, .decided [] (by simp) (by simp)
        (by simpa using hfailures) (by simpa using hbegun) ?_⟩
      rw [hstore]
      exact .nothingReady hnone

theorem Persisted.begun_le {left : Nat} {res : Except Error Sim}
    (hp : Persisted pool left h h' res) : h'.begun ≤ h.begun + left := by
  cases hp <;> omega

/-- A claim while nobody else is at work, on a store of which any statement may fail at any time.
There are 32 attempts at most, and the claim can always come to its end. If it ends with an error,
the store is as it was; if it returns a SIM, then this is the first one that was ready, claimed by
now, and nothing else has changed. As long as there was contention only, and less than 32 times,
there was one attempt more, and the claim ends just as if there had been none; after 32 times it is
given up. Any other failure is the last one, and the claim reports it without another attempt. -/
theorem claim_ends_of_run (s : Store) (pool : Pool) {cues : List Cue}
    {w : World fun _ : Unit => Except Error Sim}
    (hrun : (World.start s fun _ => (claim pool).run).run (cues.map (.turn ())) = some w) :
    w.begun ≤ 32 ∧
    (∃ moves w' res, (∀ m ∈ moves, m.isSmooth) ∧ w.run moves = some w' ∧
      w'.rest () = .done res) ∧
    ∀ res, w.rest () = .done res →
      (∀ e, res = .error e → w.store = s) ∧
      (∀ r', res = .ok r' → ∃ c, FirstReady pool s c ∧
        r' = { c with provisionState := .provisioned } ∧ s.Revised c r' w.store) ∧
      ((∀ f ∈ w.failures, f.isContention) → w.failures.length < 32 →
        w.begun = w.failures.length + 1 ∧
          ∀ res' s', (claim pool).run.ComesTo s res' s' ↔ res' = res ∧ s' = w.store) ∧
      ((∀ f ∈ w.failures, f.isContention) → 32 ≤ w.failures.length →
        w.begun = 32 ∧ res = .error (.system (.claimGivenUp pool 32))) ∧
      (∀ f ∈ w.failures, f.isContention = false →
        res = .error (.store f) ∧ w.begun = w.failures.length ∧
          ∃ contended, w.failures = contended ++ [f] ∧ ∀ g ∈ contended, g.isContention) := by
  have hend : (w.rest ()).Endures () (fun res st h' => st = .outside ∧
      Persisted pool claimAttempts (.start s) h' res) (w.standing ()) w.toChronicle :=
    World.endures_of_run (w := World.start s fun _ => (claim pool).run)
      (endures_claimWithin pool 1 claimAttempts) hrun
  refine ⟨?_, ?_, fun res hdone => ?_⟩
  · obtain ⟨res, st, h', hextends, -, hpersisted⟩ := hend.exists_post
    exact hextends.begun_le.trans (hpersisted.begun_le.trans (by simp [claimAttempts]))
  · exact World.exists_run_done (World.not_isGone_of_deathless (fun _ => rfl) (by simp) hrun ())
  rw [hdone] at hend
  obtain ⟨-, hpersisted⟩ := hend
  cases hpersisted with
  | gaveUp contended hcontended hleft hfailures hbegun hstore =>
    rw [Chronicle.failures_start, List.nil_append] at hfailures
    rw [Chronicle.begun_start, Nat.zero_add] at hbegun
    rw [hfailures]
    refine ⟨fun _ _ => hstore, fun _ hok => (nomatch hok), fun _ hless => ?_, fun _ _ => ⟨?_, rfl⟩,
      fun f hf hother => ?_⟩
    · exact absurd hleft hless.ne
    · exact hbegun.trans hleft
    · rw [hcontended f hf] at hother
      cases hother
  | @failed contended failure hcontended hleft hfailure hfailures hbegun hstore =>
    rw [Chronicle.failures_start, List.nil_append] at hfailures
    rw [Chronicle.begun_start, Nat.zero_add] at hbegun
    rw [hfailures]
    have hlast : failure ∈ contended ++ [failure] := by simp
    have hnot : ¬ ∀ f ∈ contended ++ [failure], f.isContention := fun hall => by
      have hcontention := hall failure hlast
      rw [hfailure] at hcontention
      cases hcontention
    refine ⟨fun _ _ => hstore, fun _ hok => (nomatch hok), fun hall => absurd hall hnot,
      fun hall => absurd hall hnot, fun f hf hother => ?_⟩
    rcases List.mem_append.1 hf with hf | hf
    · rw [hcontended f hf] at hother
      cases hother
    · obtain rfl := List.mem_singleton.1 hf
      exact ⟨rfl, by simpa using hbegun, contended, rfl, hcontended⟩
  | decided contended hcontended hleft hfailures hbegun hdecides =>
    rw [Chronicle.failures_start, List.nil_append] at hfailures
    rw [Chronicle.begun_start, Nat.zero_add] at hbegun
    rw [hfailures]
    refine ⟨?_, ?_, fun _ _ => ⟨hbegun, fun res' s' => comesTo_iff_of_decides hdecides⟩,
      fun _ hmore => absurd hleft hmore.not_gt, fun f hf hother => ?_⟩
    · rintro e rfl
      exact hdecides.store_of_error
    · rintro r' rfl
      exact hdecides.revised_of_ok
    · rw [hcontended f hf] at hother
      cases hother

/-! ### A busy store -/

/-- The store is busy when the first attempt is to be made to last, and not any more when it is made
again. -/
def busyCues : List Cue :=
  [.plain, .plain, .plain, .plain, .fault (.refused .execution .locked), .plain, .plain,
    .plain, .plain, .plain, .plain, .plain]

/-- The depot when the only SIM is claimed at last. -/
def claimedLate : World fun _ : Unit => Except Error Sim :=
  ((World.start oneReady fun _ => (claim ⟨1, "P"⟩).run).run (busyCues.map (.turn ()))).get
    (by decide +kernel)

/-- The second attempt claims the SIM, and the first one has left nothing. -/
theorem claim_ends_of_busyCues :
    (World.start oneReady fun _ => (claim ⟨1, "P"⟩).run).run (busyCues.map (.turn ())) =
        some claimedLate ∧
      claimedLate.failures = [.refused .execution .locked] ∧ claimedLate.begun = 2 ∧
      ∃ r', claimedLate.rest () = .done (.ok r') ∧
        oneReady.Revised readyCard { readyCard with provisionState := .provisioned }
          claimedLate.store ∧
        (claim ⟨1, "P"⟩).run.ComesTo oneReady (.ok r') claimedLate.store := by
  have hrun : (World.start oneReady fun _ => (claim ⟨1, "P"⟩).run).run (busyCues.map (.turn ())) =
      some claimedLate := (Option.some_get _).symm
  have hfailures : claimedLate.failures = [.refused .execution .locked] := by decide +kernel
  obtain ⟨r', hdone⟩ := Flow.exists_eq_done_ok
    (by decide +kernel : (claimedLate.rest ()).isDoneOk)
  obtain ⟨-, -, hends⟩ := claim_ends_of_run oneReady ⟨1, "P"⟩ hrun
  obtain ⟨-, hok, hcontended, -⟩ := hends _ hdone
  rw [hfailures] at hcontended
  obtain ⟨hbegun, hcomes⟩ := hcontended (by decide) (by decide)
  obtain ⟨c, hfirst, rfl, hrevised⟩ := hok r' rfl
  obtain rfl : c = readyCard := by simpa [oneReady] using hfirst.mem
  exact ⟨hrun, hfailures, hbegun, _, hdone, hrevised, (hcomes _ _).2 ⟨rfl, rfl⟩⟩

end Stock

end SimDepot
