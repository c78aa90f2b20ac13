import SimDepot.Proofs.Claim.Persistence
import SimDepot.Proofs.Stock.Update

/-!
# Claims and updates on a store that fails

Any statement of a claim or of an update may fail. What succeeds has done what it was to do all the
same: an update that returns a SIM changed it as it was, and a claim that returns a SIM took the
first one that was ready. A claim that fails has changed nothing, for all that it tries again.
-/

namespace SimDepot.Stock

open SimDepot.Action

variable {ι : Type} {i : ι} {h : Chronicle ι}

/-- The rule for an update of a SIM that is stored: where it returns a SIM, it has changed it. -/
theorem endures_update {r : Sim} (hr : r ∈ h.store.sims.rows) (change : SimChange) :
    Action.Endures i (fun res st h' => ∀ sim, res = .ok sim → st = .outside ∧
        change.admits r.toSimData ∧ sim = r.change change ∧ sim ∈ h'.store.sims.rows ∧
          h'.store = (h.store.changeSim r.id change).1)
      (update r.id change) .outside h := by
  refine endures_bind (endures_write (fun s n hexec => ?_) fun _ _ h => nomatch h)
  refine endures_bind (endures_read (endures_bind (endures_expect (fun sim hfind => ?_)
    fun _ _ h => nomatch h)) fun _ _ h => nomatch h)
  refine endures_ite (fun _ => endures_throw fun _ h => nomatch h) fun hchanged => endures_pure ?_
  rintro _ ⟨⟩
  obtain ⟨rfl, hn⟩ : (h.store.changeSim r.id change).1 = s ∧
      (h.store.changeSim r.id change).2 = n := Prod.mk.inj (Except.ok.inj hexec)
  have hone : (h.store.changeSim r.id change).2 = 1 :=
    (Store.changeSim_cases _ _ _).resolve_left (hn ▸ hchanged)
  obtain ⟨r', hr', hid, hadmits⟩ := Store.changeSim_eq_one_iff.1 hone
  obtain rfl := Table.id_inj hr' hr hid
  have hchangedSim := Store.eval_withId_changeSim hr hadmits
  rw [Standing.view_outside, Chronicle.store_note, hchangedSim, Option.some.injEq] at hfind
  exact ⟨rfl, hadmits, hfind.symm, hfind ▸ Store.change_mem_changeSim hr hadmits, rfl⟩

/-- What comes of an attempt to claim a SIM of a pool, and of a whole claim: the first SIM that was
ready was taken, or nothing has changed. -/
def Took {α : Type} (pool : Pool) (s : Store) (claimed : Sim → α) (res : Except Error α)
    (s' : Store) : Prop :=
  (∃ c, FirstReady pool s c ∧ res = .ok (claimed (c.change .claim)) ∧
      s' = (s.changeSim c.id .claim).1) ∨
    (∀ sim, res ≠ .ok (claimed sim)) ∧ s' = s

/-- The rule for a claim. -/
theorem endures_claim (pool : Pool) :
    Action.Endures i (fun res st h' => st = .outside ∧ Took pool h.store id res h'.store)
      (claim pool) .outside h := by
  refine (endures_claimWithin pool 1 claimAttempts).mono ?_
  rintro res st h' ⟨hst, hpersisted⟩
  refine ⟨hst, ?_⟩
  cases hpersisted with
  | gaveUp _ _ _ _ _ hstore => exact .inr ⟨fun _ => nofun, hstore⟩
  | failed _ _ _ _ _ _ hstore => exact .inr ⟨fun _ => nofun, hstore⟩
  | decided _ _ _ _ _ hdecides =>
    generalize h'.store = s' at hdecides ⊢
    cases hdecides with
    | claimed hfirst => exact .inl ⟨_, hfirst, rfl, rfl⟩
    | nothingReady _ => exact .inr ⟨fun _ => nofun, rfl⟩

end SimDepot.Stock
