import SimDepot.Proofs.Session.Author
import SimDepot.Proofs.Store.Effect

/-!
# Who took a SIM

A deed takes a SIM when the SIM is claimed after it and was not before. `Chronicle.TakenBy` reads
off a chronicle which session took which SIM: the one that brought about that it is claimed.
-/

namespace SimDepot

variable {ι : Type}

/-- The SIM with an identity is stored, and it is claimed. -/
def Store.HasClaimed (s : Store) (id : SimId) : Prop :=
  ∃ r ∈ s.sims.rows, r.id = id ∧ r.provisionState = .provisioned

namespace Store

variable {s : Store}

theorem hasClaimed_iff {r : Sim} (hr : r ∈ s.sims.rows) :
    s.HasClaimed r.id ↔ r.provisionState = .provisioned := by
  constructor
  · rintro ⟨r', hr', hid, hstate⟩
    rw [Table.id_inj hr hr' hid.symm]
    exact hstate
  · exact fun hstate => ⟨r, hr, rfl, hstate⟩

theorem not_hasClaimed_of_isReady {r : Sim} (hr : r ∈ s.sims.rows) (hready : r.isReady) :
    ¬ s.HasClaimed r.id := by
  rw [hasClaimed_iff hr]
  intro hstate
  simp [SimData.isReady, hstate] at hready

/-- Claiming a SIM that is ready claims this SIM and no other. -/
theorem hasClaimed_changeSim_claim {r : Sim} (hr : r ∈ s.sims.rows) (hready : r.isReady)
    (id : SimId) : (s.changeSim r.id .claim).1.HasClaimed id ↔ id = r.id ∨ s.HasClaimed id := by
  unfold HasClaimed
  simp only [rows_changeSim, List.mem_map]
  constructor
  · rintro ⟨_, ⟨r', hr', rfl⟩, hid, hstate⟩
    split at hid
    next hchange => exact .inl (hid ▸ hchange.1)
    next hkeep =>
      rw [if_neg hkeep] at hstate
      exact .inr ⟨r', hr', hid, hstate⟩
  · rintro (rfl | ⟨r', hr', hid, hstate⟩)
    · exact ⟨_, ⟨r, hr, rfl⟩, by rw [if_pos ⟨rfl, hready⟩]; exact ⟨rfl, rfl⟩⟩
    · refine ⟨_, ⟨r', hr', rfl⟩, ?_⟩
      split
      · exact ⟨hid, rfl⟩
      · exact ⟨hid, hstate⟩

end Store

/-- After the deed a SIM is claimed that was not claimed before. -/
def Deed.Takes (d : Deed ι) (id : SimId) : Prop := ¬ d.before.HasClaimed id ∧ d.after.HasClaimed id

namespace Chronicle

/-- Session `i` took the SIM with the identity `id`. -/
def TakenBy (h : Chronicle ι) (i : ι) (id : SimId) : Prop :=
  ∃ d ∈ h.past, d.session = i ∧ d.Takes id

variable {h h' : Chronicle ι} {i : ι} {id : SimId}

@[simp] theorem not_takenBy_start (s : Store) : ¬ (start s).TakenBy i id :=
  not_broughtBy_start (P := (·.HasClaimed id)) s

theorem takenBy_note {j : ι} {turn : Turn} {s : Store} :
    (h.note j turn s).TakenBy i id ↔
      h.TakenBy i id ∨ (j = i ∧ ¬ h.store.HasClaimed id ∧ s.HasClaimed id) :=
  broughtBy_note (P := (·.HasClaimed id))

/-- Leaving the store as it is takes nothing. -/
@[simp] theorem takenBy_note_store {j : ι} {turn : Turn} :
    (h.note j turn h.store).TakenBy i id ↔ h.TakenBy i id :=
  broughtBy_note_store (P := (·.HasClaimed id))

theorem TakenBy.extends (ht : h.TakenBy i id) (he : h.Extends h') : h'.TakenBy i id :=
  BroughtBy.extends (P := (·.HasClaimed id)) ht he

/-- What is claimed, and was not at first, was taken by some session. -/
theorem exists_takenBy {s : Store} (he : (start s).Extends h) (hfree : ¬ s.HasClaimed id)
    (hclaimed : h.store.HasClaimed id) : ∃ i, h.TakenBy i id :=
  exists_broughtBy (P := (·.HasClaimed id)) he hfree hclaimed

end Chronicle

/-- While a session changes nothing that lasts, it takes nothing. -/
theorem Meantime.takenBy_iff {i : ι} {law : Chronicle ι → Prop} {st : Standing} {h h' : Chronicle ι}
    (hm : Meantime i law st h h') {id : SimId} : h'.TakenBy i id ↔ h.TakenBy i id :=
  hm.broughtBy_iff (P := (·.HasClaimed id))

/-- What other sessions do takes nothing for session `i`. -/
theorem Drift.takenBy_iff {i : ι} {law : Chronicle ι → Prop} {st : Standing} {h h' : Chronicle ι}
    (hd : Drift i law st h h') {id : SimId} : h'.TakenBy i id ↔ h.TakenBy i id :=
  hd.toMeantime.takenBy_iff

end SimDepot
