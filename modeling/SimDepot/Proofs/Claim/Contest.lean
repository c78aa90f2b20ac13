import SimDepot.Proofs.Session.Rule
import SimDepot.Proofs.Store.Effect
import SimDepot.Stock.Claim

/-!
# Claims that compete

A claim chooses a SIM, and others may claim it before it does. `Contest` gathers what a law has to
allow, and what an invariant of the attempts has to say, for a claim to abide by the law:
`Contest.abides_claim` is then the rule for claims. An attempt ends in one of four ways, and each is
one field: the SIM that was chosen is still ready and gets claimed, somebody else claimed it,
nothing was ready, or the store failed.
-/

namespace SimDepot

variable {ι : Type}

namespace Stock

open SimDepot.Action SimDepot.Flow

/-- The SIM `c` is the first one of a pool that is ready to use. -/
structure FirstReady (pool : Pool) (s : Store) (c : Sim) : Prop where
  /-- It is stored. -/
  mem : c ∈ s.sims.rows
  /-- It is one of the pool. -/
  pool_eq : c.pool = pool
  /-- It is ready to use. -/
  ready : c.isReady
  /-- No SIM of the pool with a smaller identity is. -/
  first : ∀ r ∈ s.sims.rows, r.pool = pool → r.id < c.id → r.isReady = false

theorem FirstReady.released {pool : Pool} {s : Store} {c : Sim} (h : FirstReady pool s c) :
    c.vendorState = .released := by
  have hready := h.ready
  simp only [SimData.isReady, Bool.and_eq_true, beq_iff_eq] at hready
  exact hready.1

/-- While session `i` was asking, the SIM `c` of a pool was the first one that is ready to use. -/
structure Chosen (pool : Pool) (i : ι) (law : Chronicle ι → Prop) (h h₁ : Chronicle ι) (c : Sim) :
    Prop extends FirstReady pool h₁.store c where
  /-- What happened before. -/
  meantime : Meantime i law .outside h h₁

/-- What makes the claims of session `i` abide by a law: `J n` holds when the attempt with the
number `n` begins, and `post` is what is wanted of the result. -/
structure Contest (pool : Pool) (i : ι) (law : Chronicle ι → Prop) (faulty : Prop)
    (J : Nat → Chronicle ι → Prop) (post : Except Error Sim → Chronicle ι → Prop) : Prop where
  /-- The session may leave what lasts as it is. -/
  quiet : Quiet i law
  /-- The invariant is within the law. -/
  lawful : ∀ {n h}, J n h → law h
  /-- Nothing that others do breaks the invariant. -/
  keep : ∀ {n h h'}, J n h → Meantime i law .outside h h' → J n h'
  /-- The SIM that was chosen is ready, and the session claims it. -/
  claimed : ∀ {n h h₁ h₂ c r}, J n h → Chosen pool i law h h₁ c → Meantime i law .outside h₁ h₂ →
    r ∈ h₂.store.sims.rows → r.id = c.id → r.isReady →
    law (h₂.note i ⟨.commit, .ok ()⟩ (h₂.store.changeSim r.id .claim).1) ∧
      post (.ok (r.change .claim))
        (h₂.note i ⟨.commit, .ok ()⟩ (h₂.store.changeSim r.id .claim).1)
  /-- The SIM that was chosen is not ready any more. -/
  lost : ∀ {n h h₁ h₂ c}, J n h → Chosen pool i law h h₁ c → Meantime i law .outside h₁ h₂ →
    (∀ r ∈ h₂.store.sims.rows, r.id = c.id → r.isReady = false) → J (n + 1) h₂
  /-- Nothing was ready. -/
  nothingReady : ∀ {n h h'}, J n h → (∀ r ∈ h.store.sims.rows, r.pool = pool → r.isReady = false) →
    Meantime i law .outside h h' → post (.error (.notFound (.readySim pool))) h'
  /-- The store failed, and the claim may be tried again. -/
  again : faulty → ∀ {n h}, J n h → J (n + 1) h
  /-- The store failed for good. -/
  failed : faulty → ∀ {n h failure}, J n h → post (.error (.store failure)) h
  /-- All attempts were made. -/
  givenUp : ∀ {h}, J (claimAttempts + 1) h →
    post (.error (.system (.claimGivenUp pool claimAttempts))) h

namespace Contest

variable {pool : Pool} {i : ι} {law : Chronicle ι → Prop} {faulty : Prop}
  {J : Nat → Chronicle ι → Prop} {post : Except Error Sim → Chronicle ι → Prop}

/-- How the attempt with the number `n` ends where the store does not fail. -/
def Ends (J : Nat → Chronicle ι → Prop) (post : Except Error Sim → Chronicle ι → Prop)
    (pool : Pool) (n : Nat) (attempt : ClaimAttempt) (st : Standing) (h : Chronicle ι) : Prop :=
  st = .outside ∧
    match attempt with
    | .claimed sim => post (.ok sim) h
    | .nothingReady => post (.error (.notFound (.readySim pool))) h
    | .lost => J (n + 1) h

/-- How the attempt with the number `n` ends where the store fails. -/
def Fails (J : Nat → Chronicle ι → Prop) (faulty : Prop) (n : Nat) (e : Error) (st : Standing)
    (h : Chronicle ι) : Prop :=
  st = .outside ∧ faulty ∧ (∃ failure, e = .store failure) ∧ J n h

/-- How a transaction fails that is part of the attempt with the number `n`. -/
abbrev FailsWithin (i : ι) (law : Chronicle ι → Prop) (J : Nat → Chronicle ι → Prop)
    (faulty : Prop) (n : Nat) (e : Error) (st : Standing) (h : Chronicle ι) : Prop :=
  law h ∧ ∀ h', Meantime i law st h h' → Fails J faulty n e .outside h'

theorem failsWithin (hc : Contest pool i law faulty J post) {n : Nat} {h h₁ : Chronicle ι}
    (hJ : J n h) (hm : Meantime i law .outside h h₁) (hfaulty : faulty) (failure : StoreFailure)
    {st : Standing} : FailsWithin i law J faulty n (.store failure) st h₁ :=
  ⟨hc.lawful (hc.keep hJ hm), fun _ hm' =>
    ⟨rfl, hfaulty, ⟨failure, rfl⟩, hc.keep hJ (hm.trans hm'.outside)⟩⟩

/-- An attempt whose change was made: the lock is held until the change lasts. -/
theorem abides_finish (hc : Contest pool i law faulty J post) {n : Nat} {h h₁ h₂ : Chronicle ι}
    {c r : Sim} (hJ : J n h) (hchosen : Chosen pool i law h h₁ c)
    (hm : Meantime i law .outside h₁ h₂) (hr : r ∈ h₂.store.sims.rows) (hid : r.id = c.id)
    (hready : r.isReady) :
    Action.Abides i law faulty (Ends J post pool n) (FailsWithin i law J faulty n) (do
      let sim ← withId r.id
      commit
      return ClaimAttempt.claimed sim) (.writing (h₂.store.changeSim r.id .claim).1) h₂ := by
  have hJ₂ := hc.keep hJ (hchosen.meantime.trans hm)
  have hlaw₂ := hc.lawful hJ₂
  have hadmits : SimChange.claim.admits r.toSimData := hready
  refine abides_bind (abides_bind (abides_read hc.quiet hlaw₂ ?_ ?_))
  · intro h₃ hm₃
    rw [Standing.view_writing, Store.eval_withId_changeSim hr hadmits]
    refine abides_pure (abides_bind (abides_commit hc.quiet (hm₃.lawful hlaw₂) ?_ ?_))
    · intro h₄ hm₄
      have hstore : h₄.store = h₂.store := (hm₃.trans hm₄).store_eq rfl
      rw [← hstore] at hr ⊢
      obtain ⟨hlaw, hpost⟩ :=
        hc.claimed hJ hchosen (hm.trans (hm₃.trans hm₄).outside) hr hid hready
      exact ⟨hlaw, abides_pure ⟨rfl, hpost⟩⟩
    · intro hfaulty h₄ failure hm₄
      exact hc.failsWithin hJ₂ (hm₃.trans hm₄).outside hfaulty failure
  · intro hfaulty h₃ failure hm₃
    exact hc.failsWithin hJ₂ hm₃.outside hfaulty failure

/-- An attempt that has chosen the SIM `c`. -/
theorem abides_take (hc : Contest pool i law faulty J post) {n : Nat} {h h₁ : Chronicle ι} {c : Sim}
    (hJ : J n h) (hchosen : Chosen pool i law h h₁ c) :
    Action.Abides i law faulty (Ends J post pool n) (FailsWithin i law J faulty n) (do
      let claimed ← write (.changeSim c.id .claim)
      if claimed ≠ 1 then
        rollback
        return .lost
      else
        let sim ← withId c.id
        commit
        return .claimed sim) .inside h₁ := by
  have hJ₁ := hc.keep hJ hchosen.meantime
  refine abides_bind (abides_change hc.quiet (hc.lawful hJ₁) ?_ ?_)
  · intro h₂ hm₂
    have hm := hm₂.outside
    by_cases hone : (h₂.store.changeSim c.id .claim).2 = 1
    · -- The guard found the SIM ready.
      obtain ⟨r, hr, hid, hready⟩ := Store.changeSim_eq_one_iff.1 hone
      rw [if_neg (by simpa using hone), ← hid]
      exact hc.abides_finish hJ hchosen hm hr hid hready
    · have hnone : ∀ r ∈ h₂.store.sims.rows, r.id = c.id → r.isReady = false := by
        intro r hr hid
        rw [← Bool.not_eq_true]
        exact fun hready => hone (Store.changeSim_eq_one_iff.2 ⟨r, hr, hid, hready⟩)
      have hJ₂ := hc.lost hJ hchosen hm hnone
      rw [if_pos hone]
      refine abides_bind (abides_rollback hc.quiet (hc.lawful hJ₂) ?_ ?_)
      · intro h₃ hm₃
        exact abides_pure ⟨rfl, hc.keep hJ₂ hm₃.outside⟩
      · intro hfaulty h₃ failure hm₃
        exact hc.failsWithin hJ₁ (hm.trans hm₃.outside) hfaulty failure
  · intro hfaulty h₂ failure hm₂
    exact hc.failsWithin hJ₁ hm₂.outside hfaulty failure

/-- One attempt abides by the law. -/
theorem abides_tryClaim (hc : Contest pool i law faulty J post) {n : Nat} {h : Chronicle ι}
    (hJ : J n h) :
    Action.Abides i law faulty (Ends J post pool n) (Fails J faulty n) (tryClaim pool) .outside
      h := by
  refine abides_inTransaction hc.quiet (hc.lawful hJ) ?_ ?_
  · intro h₁ hm₁
    have hJ₁ := hc.keep hJ hm₁
    refine abides_bind (abides_read hc.quiet (hc.lawful hJ₁) ?_ ?_)
    · intro h₂ hm₂
      have hJ₂ := hc.keep hJ₁ hm₂.outside
      rw [Standing.view_inside]
      cases hfind : Query.eval h₂.store (.sim (.ready pool)) with
      | none =>
        refine abides_bind (abides_rollback hc.quiet (hc.lawful hJ₂) ?_ ?_)
        · intro h₃ hm₃
          refine abides_pure ⟨rfl, hc.nothingReady hJ₂ (fun r hr hpool => ?_) hm₃.outside⟩
          have hnot := List.find?_eq_none.1 hfind r hr
          simpa [SimQuery.holds, hpool] using hnot
        · intro hfaulty h₃ failure hm₃
          exact hc.failsWithin hJ₂ hm₃.outside hfaulty failure
      | some c =>
        have hholds : c.pool = pool ∧ c.isReady := by
          simpa [SimQuery.holds] using List.find?_some hfind
        refine hc.abides_take hJ ⟨⟨List.mem_of_find?_eq_some hfind, hholds.1, hholds.2, ?_⟩,
          hm₁.trans hm₂.outside⟩
        intro r hr hpool hlt
        have hnot := Table.eq_false_of_lt_find? hfind hr hlt
        simpa [SimQuery.holds, hpool] using hnot
    · intro hfaulty h₂ failure hm₂
      exact hc.failsWithin hJ₁ hm₂.outside hfaulty failure
  · intro hfaulty h₁ failure hm₁
    exact ⟨rfl, hfaulty, ⟨failure, rfl⟩, hc.keep hJ hm₁⟩

/-- Attempts one after the other abide by the law. -/
theorem abides_claimWithin (hc : Contest pool i law faulty J post) {left n : Nat}
    (hn : n + left = claimAttempts + 1) {h : Chronicle ι} (hJ : J n h) :
    Action.Abides i law faulty (fun sim st h => st = .outside ∧ post (.ok sim) h)
      (fun e st h => st = .outside ∧ post (.error e) h) (claimWithin pool n left) .outside h := by
  induction left generalizing n h with
  | zero =>
    obtain rfl : n = claimAttempts + 1 := by omega
    exact abides_throw ⟨rfl, hc.givenUp hJ⟩
  | succ left ih =>
    refine abides_bind (abides_attempt ((hc.abides_tryClaim hJ).mono ?_ ?_))
    · rintro attempt st h ⟨rfl, hend⟩
      cases attempt with
      | claimed sim => exact abides_pure ⟨rfl, hend⟩
      | nothingReady => exact abides_throw ⟨rfl, hend⟩
      | lost => exact ih (by omega) hend
    · rintro e st h ⟨rfl, hfaulty, ⟨failure, rfl⟩, hJ'⟩
      dsimp only
      split
      · -- The lock was held elsewhere: the claim waits and tries again.
        refine abides_bind (abides_pause hc.quiet (hc.lawful hJ') fun h' hm => ?_)
        exact ih (by omega) (hc.again hfaulty (hc.keep hJ' hm))
      · exact abides_throw ⟨rfl, hc.failed hfaulty hJ'⟩

/-- The rule for claims. -/
theorem abides_claim (hc : Contest pool i law faulty J post) {h : Chronicle ι} (hJ : J 1 h) :
    Action.Abides i law faulty (fun sim st h => st = .outside ∧ post (.ok sim) h)
      (fun e st h => st = .outside ∧ post (.error e) h) (claim pool) .outside h :=
  hc.abides_claimWithin (by rw [Nat.add_comm]) hJ

end Contest

end Stock

end SimDepot
