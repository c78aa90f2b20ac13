import SimDepot.Proofs.Claim.Exhaustion
import SimDepot.Proofs.Stock.Update
import SimDepot.Proofs.Store.Revision

/-!
# The guarded updates of one SIM

There are seven updates of one SIM. Each has a guard on the SIM as it stands, and sets the columns
that it is about; `Setter.Allows` and `Setter.Sets` say which. All of them go through one helper,
which is told by the number of changed rows, and by a second look at the SIM, what came of the
update.

`Stock.setter_ends` says what that is, on every store and for every identity. The effect of an
update meets the guard of the same update, except for the release of a profile, which is recorded
only once; so all the others may be made again.
-/

namespace SimDepot

open SimDepot.Action

namespace Stock

/-- A guarded update of one SIM, with its arguments. -/
inductive Setter
  /-- `Stock.setEid`. -/
  | eid (eid : String)
  /-- `Stock.setMsisdn`. -/
  | msisdn (msisdn : String)
  /-- `Stock.setRegistryState`. -/
  | registryState (state : RegistryState)
  /-- `Stock.markSuspended`. -/
  | suspension
  /-- `Stock.setVendorState`. -/
  | vendorState (state : VendorState)
  /-- `Stock.setReleased`. -/
  | release (matchingId : String)
  /-- `Stock.setProvisionState`. -/
  | provisionState (state : ProvisionState)

namespace Setter

/-- The update of the SIM with an identity. -/
def action (id : SimId) : Setter → Action Sim
  | .eid e => setEid id e
  | .msisdn m => setMsisdn id m
  | .registryState state => setRegistryState id state
  | .suspension => markSuspended id
  | .vendorState state => setVendorState id state
  | .release m => setReleased id m
  | .provisionState state => setProvisionState id state

/-- What messages say is updated. -/
def subject : Setter → String
  | .eid _ => "EID"
  | .msisdn _ => "MSISDN"
  | .registryState _ => "registry state"
  | .suspension => "suspension"
  | .vendorState _ => "vendor state"
  | .release _ => "vendor state and matching id"
  | .provisionState _ => "provision state"

/-- The guard: the SIM is in a state in which the update may be made. -/
def Allows (r : Sim) : Setter → Prop
  | .eid e => r.eid = none ∨ r.eid = some e
  | .msisdn _ => True
  | .registryState .activated => r.vendorState = .released
  | .registryState .notActivated => True
  | .suspension => True
  | .vendorState .available => r.provisionState = .available ∧ r.registryState = .notActivated
  | .vendorState .released => r.matchingId ≠ none
  | .release _ => r.vendorState = .available
  | .provisionState .provisioned => r.vendorState = .released
  | .provisionState .available => r.registryState = .notActivated

/-- The effect: the update makes `r'` of the SIM `r`. -/
def Sets (r r' : Sim) : Setter → Prop
  | .eid e => r' = { r with eid := some e }
  | .msisdn m => r' = { r with msisdn := some m }
  | .registryState .activated => r' = { r with registryState := .activated, suspendedAt := none }
  | .registryState .notActivated => r' = { r with registryState := .notActivated }
  | .suspension => ∃ time, r' = { r with registryState := .notActivated, suspendedAt := some time }
  | .vendorState .available => r' = { r with vendorState := .available, matchingId := none }
  | .vendorState .released => r' = { r with vendorState := .released }
  | .release m =>
    r' = { r with vendorState := .released, matchingId := some m }
  | .provisionState state => r' = { r with provisionState := state }

/-- What comes of the update when the SIM `r` is what the same update left: it succeeds, and nothing
changes but the time of a suspension. -/
def Repeats (r : Sim) (s : Store) (res : Except Error Sim) (s' : Store) : Setter → Prop
  | .suspension => ∃ time, res = .ok { r with suspendedAt := some time } ∧
    s.Revised r { r with suspendedAt := some time } s'
  | _ => res = .ok r ∧ s' = s

/-! ## The change behind an update -/

/-- The change of the SIM when the clock shows `time`. -/
def change (time : Timestamp) : Setter → SimChange
  | .eid e => .setEid e
  | .msisdn m => .setMsisdn m
  | .registryState state => .setRegistryState state
  | .suspension => .suspend time
  | .vendorState state => .setVendorState state
  | .release m => .release m
  | .provisionState state => .setProvisionState state

variable {s s' : Store} {id : SimId} {r r' : Sim} {setter : Setter} {time : Timestamp}
  {res : Except Error Sim}

@[simp] theorem label_change (setter : Setter) (time : Timestamp) :
    (setter.change time).label = setter.subject := by
  cases setter <;> rfl

theorem admits_change_iff (time : Timestamp) :
    (setter.change time).admits r.toSimData ↔ setter.Allows r := by
  cases setter with
  | registryState state | vendorState state | provisionState state =>
    cases state <;> simp [change, SimChange.admits, Allows, Option.isSome_iff_ne_none]
  | _ => simp [change, SimChange.admits, Allows]

theorem sets_change (setter : Setter) (time : Timestamp) (r : Sim) :
    setter.Sets r (r.change (setter.change time)) := by
  cases setter with
  | registryState state | vendorState state => cases state <;> rfl
  | suspension => exact ⟨time, rfl⟩
  | _ => rfl

/-- Unless it is a release, the update may be made again. -/
theorem Allows.again (hallows : setter.Allows r) (honce : ∀ m, setter ≠ release m) :
    setter.Allows (r.change (setter.change time)) := by
  cases setter with
  | eid e => exact .inr rfl
  | registryState state | vendorState state | provisionState state => cases state <;> exact hallows
  | release m => exact absurd rfl (honce m)
  | _ => trivial

/-- The update takes nothing from what it set already, apart from the time of a suspension. -/
theorem change_change (htimeless : setter ≠ suspension) (time time' : Timestamp) (r : Sim) :
    (r.change (setter.change time)).change (setter.change time') =
      r.change (setter.change time) := by
  cases setter with
  | registryState state | vendorState state => cases state <;> rfl
  | suspension => exact absurd rfl htimeless
  | _ => rfl

/-- An identity of the chip that is recorded stays. -/
theorem Sets.eid_eq (hsets : setter.Sets r r') (hallows : setter.Allows r) {e : String}
    (heid : r.eid = some e) : r'.eid = some e := by
  cases setter with
  | eid e' =>
    rcases hallows with hnone | hsame
    · rw [hnone] at heid
      cases heid
    · rw [show r'.eid = some e' from hsets ▸ rfl, ← hsame, heid]
  | registryState state | vendorState state =>
    cases state <;> exact (congrArg (fun r : Sim => r.eid) hsets).trans heid
  | suspension =>
    obtain ⟨time, rfl⟩ := hsets
    exact heid
  | _ => exact (congrArg (fun r : Sim => r.eid) hsets).trans heid

/-! ## The steps -/

/-- The clock is read before the update, and only for a suspension. -/
theorem alone_action {post : Except Error Sim → Standing → Store → Prop}
    (h : ∀ time, Action.Alone post (update id (setter.change time)) .outside s) :
    Action.Alone post (setter.action id) .outside s := by
  cases setter with
  | suspension => exact alone_bind (alone_now h)
  | _ => exact h .epoch

/-- The update finds no SIM, or it comes to an end as its change does. -/
theorem updated_of_comesTo (hcomes : (setter.action id).run.ComesTo s res s') :
    ((∀ r ∈ s.sims.rows, r.id ≠ id) ∧
        res = .error (.notFound (.simToUpdate id setter.subject)) ∧ s' = s) ∨
      ∃ r ∈ s.sims.rows, r.id = id ∧ ∃ time, Updated r (setter.change time) s res s' := by
  have halone : Action.Alone (fun res _ s' =>
      ((∀ r ∈ s.sims.rows, r.id ≠ id) ∧
        res = .error (.notFound (.simToUpdate id setter.subject)) ∧ s' = s) ∨
      ∃ r ∈ s.sims.rows, r.id = id ∧ ∃ time, Updated r (setter.change time) s res s')
      (setter.action id) .outside s := by
    refine alone_action fun time => alone_update (fun r hr hid hadmits => ?_)
      (fun r hr hid hnot => ?_) fun habsent => ?_
    · exact .inr ⟨r, hr, hid, time, .inl ⟨hadmits, rfl, by rw [hid]⟩⟩
    · exact .inr ⟨r, hr, hid, time, .inr ⟨hnot, by rw [hid], rfl⟩⟩
    · exact .inl ⟨habsent, by rw [label_change], rfl⟩
  obtain ⟨-, hend⟩ := Flow.post_of_comesTo halone hcomes
  exact hend

/-- What is left by the update of a SIM that is stored. -/
theorem updated_of_mem (hr : r ∈ s.sims.rows)
    (hcomes : (setter.action r.id).run.ComesTo s res s') :
    ∃ time, Updated r (setter.change time) s res s' := by
  rcases updated_of_comesTo hcomes with ⟨habsent, -⟩ | ⟨r', hr', hid, hupdated⟩
  · exact absurd rfl (habsent r hr)
  · rwa [← Table.id_inj hr' hr hid]

/-- The same update once more, unless it is a release. -/
theorem repeats_of_updated (honce : ∀ m, setter ≠ release m) (hr : r ∈ s.sims.rows)
    (hallows : setter.Allows r)
    (hcomes : (setter.action r.id).run.ComesTo (s.changeSim r.id (setter.change time)).1 res s') :
    setter.Repeats (r.change (setter.change time)) (s.changeSim r.id (setter.change time)).1
      res s' := by
  have hadmits : (setter.change time).admits r.toSimData := (admits_change_iff time).2 hallows
  have hafter := (Store.revised_changeSim hr hadmits).mem_after
  obtain ⟨time', ⟨hagain, rfl, rfl⟩ | ⟨hnot, -⟩⟩ := updated_of_mem hafter hcomes
  swap
  · rw [(admits_change_iff time').2 (hallows.again honce)] at hnot
    cases hnot
  have hrevised := Store.revised_changeSim hafter hagain
  by_cases htimeless : setter = suspension
  · subst htimeless
    exact ⟨time', rfl, hrevised⟩
  have hsame := change_change htimeless time time' r
  rw [hsame] at hrevised
  cases setter with
  | suspension => exact absurd rfl htimeless
  | _ => exact ⟨congrArg _ hsame, hrevised.eq_of_self⟩

/-- After a release no release is made, be it that the first one was made or not. -/
theorem denied_after_release {m other : String} (hr : r ∈ s.sims.rows)
    (hcomes : ((release m).action r.id).run.ComesTo s res s') {res₂ : Except Error Sim} {s₂ : Store}
    (hcomes₂ : ((release other).action r.id).run.ComesTo s' res₂ s₂) :
    (∃ why, res₂ = .error (.notUpdated why)) ∧ s₂ = s' := by
  have hreleased : ∃ q ∈ s'.sims.rows, q.id = r.id ∧ q.vendorState ≠ .available := by
    obtain ⟨time, ⟨hadmits, -, rfl⟩ | ⟨hnot, -, rfl⟩⟩ := updated_of_mem hr hcomes
    · exact ⟨_, (Store.revised_changeSim hr hadmits).mem_after, rfl, nofun⟩
    · exact ⟨r, hr, rfl, of_decide_eq_false hnot⟩
  obtain ⟨q, hq, hid, hraw⟩ := hreleased
  rw [← hid] at hcomes₂
  obtain ⟨time, ⟨hadmits, -⟩ | ⟨-, rfl, rfl⟩⟩ := updated_of_mem hq hcomes₂
  · exact absurd ((admits_change_iff time).1 hadmits) hraw
  · exact ⟨⟨_, rfl⟩, rfl⟩

end Setter

/-! ## The whole -/

/-- An update of one SIM when nobody else is at work and the store does not fail, on any store. It
reports a missing SIM exactly when none has the identity, a SIM that was not updated exactly when
its state does not allow the update, and otherwise returns the SIM as it is stored now. If it fails,
nothing has changed; if not, this SIM has what the update sets, and nothing else has changed. An
identity of the chip that is recorded stays. The same update succeeds once more, and changes nothing
but the time of a suspension. A release is the exception: after it, every release of this SIM is
turned down. -/
theorem setter_ends (s : Store) (id : SimId) (setter : Setter) :
    (∃ res s', (setter.action id).run.ComesTo s res s') ∧
    ∀ res s', (setter.action id).run.ComesTo s res s' →
      ((∃ what, res = .error (.notFound what)) ↔ ∀ r ∈ s.sims.rows, r.id ≠ id) ∧
      ((∃ why, res = .error (.notUpdated why)) ↔
        ∃ r ∈ s.sims.rows, r.id = id ∧ ¬ setter.Allows r) ∧
      ((∃ r', res = .ok r') ↔ ∃ r ∈ s.sims.rows, r.id = id ∧ setter.Allows r) ∧
      (∀ e, res = .error e → s' = s ∧
        (e = .notFound (.simToUpdate id setter.subject) ∨
          e = .notUpdated (.rejected id setter.subject))) ∧
      (∀ r', res = .ok r' → ∃ r, r.id = id ∧ setter.Sets r r' ∧ s.Revised r r' s' ∧
        (∀ e, r.eid = some e → r'.eid = some e) ∧
        ((∀ m, setter ≠ .release m) → ∀ res₂ s₂,
          (setter.action id).run.ComesTo s' res₂ s₂ → setter.Repeats r' s' res₂ s₂)) ∧
      ∀ m, setter = .release m → (∃ r ∈ s.sims.rows, r.id = id) → ∀ other res₂ s₂,
        ((Setter.release other).action id).run.ComesTo s' res₂ s₂ →
          (∃ why, res₂ = .error (.notUpdated why)) ∧ s₂ = s' := by
  refine ⟨Flow.exists_comesTo _ s, fun res s' hcomes => ?_⟩
  have hrelease : ∀ m, setter = .release m → (∃ r ∈ s.sims.rows, r.id = id) → ∀ other res₂ s₂,
      ((Setter.release other).action id).run.ComesTo s' res₂ s₂ →
        (∃ why, res₂ = .error (.notUpdated why)) ∧ s₂ = s' := by
    rintro m rfl ⟨r, hr, rfl⟩ other res₂ s₂ hcomes₂
    exact Setter.denied_after_release hr hcomes hcomes₂
  rcases Setter.updated_of_comesTo hcomes with
    ⟨habsent, rfl, rfl⟩ | ⟨r, hr, rfl, time, ⟨hadmits, rfl, rfl⟩ | ⟨hnot, rfl, rfl⟩⟩
  · refine ⟨iff_of_true ⟨_, rfl⟩ habsent, iff_of_false nofun ?_,
      iff_of_false (fun ⟨_, hok⟩ => nomatch hok) ?_, ?_, fun _ hok => (nomatch hok), hrelease⟩
    · exact fun ⟨r, hr, hid, _⟩ => habsent r hr hid
    · exact fun ⟨r, hr, hid, _⟩ => habsent r hr hid
    · rintro _ ⟨⟩
      exact ⟨rfl, .inl rfl⟩
  · have hallows := (Setter.admits_change_iff time).1 hadmits
    have hsets := Setter.sets_change setter time r
    refine ⟨iff_of_false nofun fun habsent => habsent r hr rfl, iff_of_false nofun ?_,
      iff_of_true ⟨_, rfl⟩ ⟨r, hr, rfl, hallows⟩, nofun, ?_, hrelease⟩
    · rintro ⟨q, hq, hid, hnot⟩
      exact hnot (Table.id_inj hq hr hid ▸ hallows)
    · rintro _ ⟨⟩
      exact ⟨r, rfl, hsets, Store.revised_changeSim hr hadmits, fun e => hsets.eid_eq hallows,
        fun honce res₂ s₂ => Setter.repeats_of_updated honce hr hallows⟩
  · have hdenied : ¬ setter.Allows r := by
      rw [← Setter.admits_change_iff time, hnot]
      exact Bool.false_ne_true
    refine ⟨iff_of_false nofun fun habsent => habsent r hr rfl,
      iff_of_true ⟨_, rfl⟩ ⟨r, hr, rfl, hdenied⟩,
      iff_of_false (fun ⟨_, hok⟩ => nomatch hok) ?_, ?_, fun _ hok => (nomatch hok), hrelease⟩
    · rintro ⟨q, hq, hid, hallows⟩
      exact hdenied (Table.id_inj hq hr hid ▸ hallows)
    · rintro _ ⟨⟩
      exact ⟨rfl, .inr (by rw [Setter.label_change])⟩

/-! ### A release -/

/-- The profile of the SIM is not released yet. -/
def rawCard : Sim := { readyCard with vendorState := .available, matchingId := none }

/-- The depot with this SIM only. -/
def oneRaw : Store :=
  { oneReady with sims := ⟨[rawCard], 1, by simp, by simp, by simp [Row.id, rawCard, readyCard]⟩ }

/-- The first release is recorded, and another one is turned down. -/
theorem setter_ends_of_release : ∃ s' res₂,
    (setReleased 1 "M").run.ComesTo oneRaw
        (.ok { rawCard with vendorState := .released, matchingId := some "M" }) s' ∧
      (setReleased 1 "N").run.ComesTo s' res₂ s' ∧ ∃ why, res₂ = .error (.notUpdated why) := by
  obtain ⟨⟨res, s', hcomes⟩, hall⟩ := setter_ends oneRaw 1 (.release "M")
  have hraw : rawCard ∈ oneRaw.sims.rows := List.mem_singleton.2 rfl
  obtain ⟨-, -, hok, -, hset, hagain⟩ := hall res s' hcomes
  obtain ⟨r', rfl⟩ := hok.2 ⟨rawCard, hraw, rfl, rfl⟩
  obtain ⟨r, -, hsets, hrevised, -⟩ := hset r' rfl
  obtain rfl : r = rawCard := List.mem_singleton.1 hrevised.mem
  obtain rfl : r' = _ := hsets
  obtain ⟨⟨res₂, s₂, hcomes₂⟩, -⟩ := setter_ends s' 1 (.release "N")
  obtain ⟨hdenied, rfl⟩ := hagain "M" rfl ⟨rawCard, hraw, rfl⟩ "N" res₂ s₂ hcomes₂
  exact ⟨s₂, res₂, hcomes, hcomes₂, hdenied⟩

end Stock

end SimDepot
