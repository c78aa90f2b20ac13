import SimDepot.Proofs.Claim.Solitary
import SimDepot.Proofs.Lifecycle.Calls
import SimDepot.Proofs.Session.InTurn
import SimDepot.Proofs.Stock.Update

/-!
# Look-ups, claims and updates that nobody disturbs

An operation that hands a SIM out is made of a look-up or a claim, of updates and of the call of a
registry. Here is what a look-up finds in the store that it has to itself, what a claim and an update
make of it, and that none of them calls a service.
-/

namespace SimDepot.Stock

open SimDepot.Action

variable {ι : Type} {i : ι} {h : Chronicle ι}

/-- A SIM is looked up by its card number in the store as it stands. -/
theorem undisturbed_withIccid (iccid : String) :
    Action.Undisturbed i (fun res st h' => st = .outside ∧
        Chronicle.OnlyAsked i (fun r => r.isCall = false) h h' ∧ h'.store = h.store ∧
        ((∃ r ∈ h.store.sims.rows, r.iccid = iccid ∧ res = .ok r) ∨
          (∀ r ∈ h.store.sims.rows, r.iccid ≠ iccid) ∧
            res = .error (.notFound (.simWithIccid iccid))))
      (withIccid iccid) .outside h := by
  have halone : Alone (fun res st s => st = .outside ∧ s = h.store ∧
      ((∃ r ∈ h.store.sims.rows, r.iccid = iccid ∧ res = .ok r) ∨
        (∀ r ∈ h.store.sims.rows, r.iccid ≠ iccid) ∧
          res = .error (.notFound (.simWithIccid iccid))))
      (withIccid iccid) .outside h.store := by
    refine alone_find (fun r hfind => ⟨rfl, rfl, .inl ⟨r, List.mem_of_find?_eq_some hfind, ?_, rfl⟩⟩)
      fun hfind => ⟨rfl, rfl, .inr ⟨fun r hr => ?_, rfl⟩⟩
    · simpa [SimQuery.holds] using List.find?_some hfind
    · simpa [SimQuery.holds] using List.find?_eq_none.1 hfind r hr
  exact undisturbed_alone (asks_find fun _ hr => hr) halone
    fun _ _ _ hdone hasked => ⟨hdone.1, hasked, hdone.2⟩

/-- A claim takes the first SIM that is ready, if there is one. -/
theorem undisturbed_claim (pool : Pool) :
    Action.Undisturbed i (fun res st h' => st = .outside ∧
        Chronicle.OnlyAsked i (fun r => r.isCall = false) h h' ∧
        ((∃ c, FirstReady pool h.store c ∧ res = .ok (c.change .claim) ∧
            h'.store = (h.store.changeSim c.id .claim).1) ∨
          (∀ r ∈ h.store.sims.rows, r.pool = pool → r.isReady = false) ∧
            res = .error (.notFound (.readySim pool)) ∧ h'.store = h.store))
      (claim pool) .outside h := by
  have halone : Alone (fun res st s => st = .outside ∧
      ((∃ c, FirstReady pool h.store c ∧ res = .ok (c.change .claim) ∧
          s = (h.store.changeSim c.id .claim).1) ∨
        (∀ r ∈ h.store.sims.rows, r.pool = pool → r.isReady = false) ∧
          res = .error (.notFound (.readySim pool)) ∧ s = h.store))
      (claim pool) .outside h.store :=
    alone_claim (fun c hc => ⟨rfl, .inl ⟨c, hc, rfl, rfl⟩⟩) fun hnone => ⟨rfl, .inr ⟨hnone, rfl, rfl⟩⟩
  exact undisturbed_alone (asks_claim fun _ hr _ => hr) halone
    fun _ _ _ ⟨hst, hres⟩ hasked => ⟨hst, hasked, hres⟩

/-- An update of a SIM that is stored. -/
theorem undisturbed_update {r : Sim} (hr : r ∈ h.store.sims.rows) (change : SimChange) :
    Action.Undisturbed i (fun res st h' => st = .outside ∧
        Chronicle.OnlyAsked i (fun r => r.isCall = false) h h' ∧
        Updated r change h.store res h'.store)
      (update r.id change) .outside h :=
  undisturbed_alone (asks_update fun _ hr => hr) (alone_update_stored hr change)
    fun _ _ _ ⟨hst, hres⟩ hasked => ⟨hst, hasked, hres⟩

/-- An update that the SIM admits. -/
theorem undisturbed_admitted {r : Sim} (hr : r ∈ h.store.sims.rows) {change : SimChange}
    (hadmits : change.admits r.toSimData) :
    Action.Undisturbed i (fun res st h' => st = .outside ∧
        Chronicle.OnlyAsked i (fun r => r.isCall = false) h h' ∧
        res = .ok (r.change change) ∧ h'.store = (h.store.changeSim r.id change).1)
      (update r.id change) .outside h := by
  refine (undisturbed_update hr change).mono ?_
  rintro res st h' ⟨hst, hasked, ⟨-, hres, hstore⟩ | ⟨hnot, -, -⟩⟩
  · exact ⟨hst, hasked, hres, hstore⟩
  · rw [hadmits] at hnot
    cases hnot

end SimDepot.Stock
