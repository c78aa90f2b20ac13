import SimDepot.Proofs.Claim.Contest
import SimDepot.Proofs.Session.Alone

/-!
# A claim without competitors

Where nobody else is at work and nothing goes wrong, the first attempt of a claim decides it: the
claim gets the first SIM of its pool that is ready to use, and learns that nothing is ready only
where this is so. Of what is stored of a SIM nothing else counts.
-/

namespace SimDepot.Stock

open SimDepot.Action

variable {pool : Pool} {s : Store}

/-- Of the SIMs of a pool only one is the first one that is ready. -/
theorem FirstReady.unique {c c' : Sim} (h : FirstReady pool s c) (h' : FirstReady pool s c') :
    c = c' := by
  refine Table.id_inj h.mem h'.mem (le_antisymm ?_ ?_)
  · by_contra hlt
    have hnot := h.first c' h'.mem h'.pool_eq (not_le.1 hlt)
    rw [h'.ready] at hnot
    cases hnot
  · by_contra hlt
    have hnot := h'.first c h.mem h.pool_eq (not_le.1 hlt)
    rw [h.ready] at hnot
    cases hnot

/-- The question for what is ready finds the first SIM of the pool that is. -/
theorem firstReady_of_eval {c : Sim} (h : Query.eval s (.sim (.ready pool)) = some c) :
    FirstReady pool s c := by
  have hholds : c.pool = pool ∧ c.isReady := by
    simpa [SimQuery.holds] using List.find?_some h
  refine ⟨List.mem_of_find?_eq_some h, hholds.1, hholds.2, fun r hr hpool hlt => ?_⟩
  have hnot := Table.eq_false_of_lt_find? h hr hlt
  simpa [SimQuery.holds, hpool] using hnot

/-- The attempt of a claim that found the SIM `c` ready takes this SIM. -/
theorem alone_take {post : Except Error ClaimAttempt → Standing → Store → Prop} {c : Sim}
    (hc : c ∈ s.sims.rows) (hready : c.isReady)
    (h : post (.ok (.claimed (c.change .claim))) .outside (s.changeSim c.id .claim).1) :
    Action.Alone post (do
      let claimed ← write (.changeSim c.id .claim)
      if claimed ≠ 1 then
        rollback
        return .lost
      else
        let sim ← withId c.id
        commit
        return .claimed sim) .inside s := by
  have hadmits : SimChange.claim.admits c.toSimData := hready
  have hone : (s.changeSim c.id .claim).2 = 1 :=
    Store.changeSim_eq_one_iff.2 ⟨c, hc, rfl, hadmits⟩
  refine alone_bind (alone_write_within rfl (fun s' n hexec => ?_) nofun)
  have hchange : s.changeSim c.id .claim = (s', n) := Except.ok.inj hexec
  rw [hchange] at hone h
  obtain rfl : n = 1 := hone
  refine alone_bind (alone_bind (alone_read ?_))
  have hfind := Store.eval_withId_changeSim hc hadmits
  rw [hchange] at hfind
  rw [Standing.view_writing, hfind]
  exact alone_bind (alone_commit h)

/-- The rule for a claim. -/
theorem alone_claim {post : Except Error Sim → Standing → Store → Prop}
    (hfirst : ∀ c, FirstReady pool s c →
      post (.ok (c.change .claim)) .outside (s.changeSim c.id .claim).1)
    (hnone : (∀ r ∈ s.sims.rows, r.pool = pool → r.isReady = false) →
      post (.error (.notFound (.readySim pool))) .outside s) :
    Action.Alone post (claim pool) .outside s := by
  refine alone_bind (alone_attempt (alone_inTransaction (alone_bind (alone_read ?_))))
  rw [Standing.view_inside]
  cases hfind : Query.eval s (.sim (.ready pool)) with
  | none =>
    refine alone_bind (alone_rollback (alone_pure (hnone fun r hr hpool => ?_)))
    have hnot := List.find?_eq_none.1 hfind r hr
    simpa [SimQuery.holds, hpool] using hnot
  | some c =>
    have hc := firstReady_of_eval hfind
    exact alone_take hc.mem hc.ready (alone_pure (hfirst c hc))

/-- A claim alone gets a SIM exactly when it is the first one of the pool that is ready. -/
theorem claimed_iff_of_comesTo {res : Except Error Sim} {s' : Store}
    (h : (claim pool).run.ComesTo s res s') {r : Sim} (hr : r ∈ s.sims.rows) :
    (∃ sim, res = .ok sim ∧ sim.id = r.id) ↔ FirstReady pool s r := by
  have hclaim : Action.Alone (fun res _ _ =>
      (∃ sim, res = .ok sim ∧ sim.id = r.id) ↔ FirstReady pool s r) (claim pool) .outside s := by
    refine alone_claim (fun c hc => ⟨?_, fun hfirst => ?_⟩) fun hnone => ⟨?_, fun hfirst => ?_⟩
    · rintro ⟨_, hsim, hid⟩
      cases hsim
      rw [← Table.id_inj hc.mem hr hid]
      exact hc
    · refine ⟨c.change .claim, rfl, ?_⟩
      rw [Sim.id_change, hc.unique hfirst]
    · rintro ⟨_, hsim, -⟩
      cases hsim
    · have hnot := hnone r hr hfirst.pool_eq
      rw [hfirst.ready] at hnot
      cases hnot
  obtain ⟨-, hiff⟩ := Flow.post_of_comesTo hclaim h
  exact hiff

end SimDepot.Stock
