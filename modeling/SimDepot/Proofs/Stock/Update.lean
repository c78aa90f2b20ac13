import SimDepot.Proofs.Session.Alone
import SimDepot.Proofs.Store.Effect
import SimDepot.Stock.Lookup
import SimDepot.Stock.Update

/-!
# Look-ups and updates without competitors

Where nobody else is at work and nothing goes wrong, a SIM is looked up in the store as it stands,
and within a transaction in the store that the transaction would leave. An update changes the SIM
that it is meant for, if the SIM is stored and admits the change, and returns it as it is then.
Otherwise nothing changes, and the error tells which of the two is missing.
-/

namespace SimDepot.Stock

open SimDepot.Action

/-- The rule for a look-up. -/
theorem alone_find {q : SimQuery} {missing : Missing} {st : Standing} {s : Store}
    {post : Except Error Sim → Standing → Store → Prop}
    (hfound : ∀ r, Query.eval (st.view s) (.sim q) = some r → post (.ok r) st s)
    (hmissing : Query.eval (st.view s) (.sim q) = none → post (.error (.notFound missing)) st s) :
    Action.Alone post (find q missing) st s :=
  alone_bind (alone_read (alone_expect hfound hmissing))

/-- The rule for an update. -/
theorem alone_update {s : Store} {id : SimId} {change : SimChange}
    {post : Except Error Sim → Standing → Store → Prop}
    (hchanged : ∀ r ∈ s.sims.rows, r.id = id → change.admits r.toSimData →
      post (.ok (r.change change)) .outside (s.changeSim id change).1)
    (hrejected : ∀ r ∈ s.sims.rows, r.id = id → change.admits r.toSimData = false →
      post (.error (.notUpdated (.rejected id change.label))) .outside s)
    (hmissing : (∀ r ∈ s.sims.rows, r.id ≠ id) →
      post (.error (.notFound (.simToUpdate id change.label))) .outside s) :
    Action.Alone post (update id change) .outside s := by
  obtain ⟨s', n, hchange⟩ : ∃ s' n, s.changeSim id change = (s', n) := ⟨_, _, rfl⟩
  have hexec : Command.exec s (.changeSim id change) = .ok (s', n) := congrArg Except.ok hchange
  refine alone_bind (alone_write_ok hexec (alone_bind (alone_read ?_)))
  rw [Standing.view_outside]
  by_cases hstored : ∃ r ∈ s.sims.rows, r.id = id
  · obtain ⟨r, hr, rfl⟩ := hstored
    cases hadmits : change.admits r.toSimData with
    | true =>
      have hone := Store.changeSim_eq_one_iff.2 ⟨r, hr, rfl, hadmits⟩
      have hfind := Store.eval_withId_changeSim hr hadmits
      have hpost := hchanged r hr rfl hadmits
      rw [hchange] at hone hfind hpost
      obtain rfl : n = 1 := hone
      rw [hfind]
      exact hpost
    | false =>
      have hfind : Query.eval s (.sim (.withId r.id)) = some r :=
        Table.withId?_eq_some_iff.2 ⟨hr, rfl⟩
      rw [Store.changeSim_of_not_admits hr hadmits] at hchange
      cases hchange
      rw [hfind]
      exact hrejected r hr rfl hadmits
  · have habsent : ∀ r ∈ s.sims.rows, r.id ≠ id := fun r hr hid => hstored ⟨r, hr, hid⟩
    have hfind : Query.eval s (.sim (.withId id)) = none := Table.withId?_eq_none_iff.2 habsent
    rw [Store.changeSim_of_absent habsent] at hchange
    cases hchange
    rw [hfind]
    exact hmissing habsent

/-- What comes of an update of the SIM `r`: it is changed, or it does not admit the change and the
store stays as it is. -/
def Updated (r : Sim) (change : SimChange) (s : Store) (res : Except Error Sim) (s' : Store) :
    Prop :=
  change.admits r.toSimData ∧ res = .ok (r.change change) ∧ s' = (s.changeSim r.id change).1 ∨
    change.admits r.toSimData = false ∧
      res = .error (.notUpdated (.rejected r.id change.label)) ∧ s' = s

/-- The rule for an update of a SIM that is stored. -/
theorem alone_update_stored {s : Store} {r : Sim} (hr : r ∈ s.sims.rows) (change : SimChange) :
    Action.Alone (fun res st s' => st = .outside ∧ Updated r change s res s')
      (update r.id change) .outside s := by
  refine alone_update (fun r' hr' hid hadmits => ?_) (fun r' hr' hid hnot => ?_) fun habsent => ?_
  · obtain rfl := Table.id_inj hr' hr hid
    exact ⟨rfl, .inl ⟨hadmits, rfl, rfl⟩⟩
  · obtain rfl := Table.id_inj hr' hr hid
    exact ⟨rfl, .inr ⟨hnot, rfl, rfl⟩⟩
  · exact absurd rfl (habsent r hr)

end SimDepot.Stock
