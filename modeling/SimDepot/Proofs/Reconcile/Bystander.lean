import SimDepot.Proofs.Reconcile.Release

/-!
# Operations beside passes

What operations other than passes do to SIMs is nothing that a release looks at: they neither
release nor take a release back, they note no chip, and the SIMs they store are raw stock. So they
abide by the law of releases, whatever they are answered.
-/

namespace SimDepot

section Sessions

open SimDepot.Action

variable {ι : Type} [DecidableEq ι] {s s' : Store} {passes : ι → Prop} {i : ι} {h h' : Chronicle ι}

/-- What operations that release nothing make of a SIM. -/
structure Sim.Untouched (r r' : Sim) : Prop where
  /-- It stays what it is, and what is known of its release stays. -/
  stays : r.Stays r'
  /-- Its place on the vendor axis stays. -/
  vendorState : r'.vendorState = r.vendorState
  /-- Its matching id stays. -/
  matchingId : r'.matchingId = r.matchingId
  /-- What is known of its chip stays. -/
  eid : r'.eid = r.eid

namespace Sim.Untouched

theorem refl (r : Sim) : r.Untouched r := ⟨.refl r, rfl, rfl, rfl⟩

theorem trans {a b c : Sim} (h : a.Untouched b) (h' : b.Untouched c) : a.Untouched c :=
  ⟨h.stays.trans h'.stays, h'.vendorState.trans h.vendorState, h'.matchingId.trans h.matchingId,
    h'.eid.trans h.eid⟩

theorem isReleased {r r' : Sim} (h : r.Untouched r') : r'.isReleased = r.isReleased := by
  rw [Sim.isReleased, h.vendorState, Sim.isReleased]

end Sim.Untouched

/-- SIMs stay untouched, and new ones are raw stock. -/
def bystanding : Discipline where
  inv _ := True
  rel s s' := (∀ r ∈ s.sims.rows, ∃ r' ∈ s'.sims.rows, r.Untouched r') ∧
    ∀ r' ∈ s'.sims.rows, (∃ r ∈ s.sims.rows, r.Untouched r') ∨
      r'.isReleased = false ∧ r'.eid = none ∧ ∀ r ∈ s.sims.rows, r.id ≠ r'.id
  refl _ := ⟨fun r hr => ⟨r, hr, .refl r⟩, fun r hr => .inl ⟨r, hr, .refl r⟩⟩
  trans := by
    rintro a b c ⟨hab, hba⟩ ⟨hbc, hcb⟩
    refine ⟨fun r hr => ?_, fun r'' hr'' => ?_⟩
    · obtain ⟨r', hr', hu⟩ := hab r hr
      obtain ⟨r'', hr'', hu'⟩ := hbc r' hr'
      exact ⟨r'', hr'', hu.trans hu'⟩
    · rcases hcb r'' hr'' with ⟨r', hr', hu'⟩ | ⟨hraw, heid, hnew⟩
      · rcases hba r' hr' with ⟨r, hr, hu⟩ | ⟨hraw, heid, hnew⟩
        · exact .inl ⟨r, hr, hu.trans hu'⟩
        · exact .inr ⟨hu'.isReleased.trans hraw, hu'.eid.trans heid, hu'.stays.id ▸ hnew⟩
      · refine .inr ⟨hraw, heid, fun r hr hid => ?_⟩
        obtain ⟨r', hr', hu⟩ := hab r hr
        exact hnew r' hr' (hu.stays.id.trans hid)

/-- Sessions that are no passes release nothing. -/
theorem serves_bystanding (hi : ¬ passes i) :
    bystanding.Serves i (ReleaseLaw s passes) where
  inv _ := trivial
  note := by
    rintro h turn s' hlaw ⟨hkept, hcame⟩
    have hstays : h.store.Stays s' := fun r hr => by
      obtain ⟨r', hr', hu⟩ := hkept r hr
      exact ⟨r', hr', hu.stays⟩
    refine hlaw.note hstays (fun _ id hid => ?_) (fun r' hr' hraw => ?_)
      fun r' hr' hreleased hnew => ?_
    · obtain ⟨r', hr', hreleased, rfl⟩ := Store.mem_idsWhere.1 hid
      rcases hcame r' hr' with ⟨r, hr, hu⟩ | ⟨hraw, -⟩
      · rw [hu.isReleased] at hreleased
        exact Store.mem_idsWhere.2 ⟨r, hr, hreleased, hu.stays.id.symm⟩
      · exact absurd (hreleased.symm.trans hraw) nofun
    · rcases hcame r' hr' with ⟨r, hr, hu⟩ | ⟨-, heid, hfresh⟩
      · rw [hu.eid, hu.stays.id]
        exact hlaw.raw r hr (hu.isReleased ▸ hraw)
      · rw [heid, Store.eidOf_eq_none fun r₀ hr₀ hid => ?_]
        obtain ⟨r, hr, hstay⟩ := hlaw.store_stays hlaw.since r₀ hr₀
        exact hfresh r hr (hstay.id.trans hid)
    · rcases hcame r' hr' with ⟨r, hr, hu⟩ | ⟨hraw, -⟩
      · rw [hu.stays.id] at hnew
        obtain ⟨j, release, ha⟩ := hlaw.released r hr (hu.isReleased ▸ hreleased) hnew
        have hj : i ≠ j := fun heq => hi (heq ▸ hlaw.passes_of_mem ha.gained)
        exact ⟨j, release, ha.of_eq (Chronicle.gainsOf_note_of_ne hj h turn s')
          (Chronicle.turnsOf_note_of_ne hj h turn s') hu.stays.id hu.stays.iccid hu.stays.vendorId
          hu.matchingId hu.eid⟩
      · exact absurd (hreleased.symm.trans hraw) nofun

theorem keeps_bystanding_changeSim {id : SimId} {change : SimChange}
    (hchange : ∀ r : Sim, r.Untouched (r.change change)) :
    bystanding.Keeps (fun _ => True) (.changeSim id change) := by
  intro t t' a _ _ hexec
  have hrow : ∀ r : Sim, r.Untouched
      (if r.id = id ∧ change.admits r.toSimData then r.change change else r) := by
    intro r
    split
    · exact hchange r
    · exact .refl r
  have hrows : t'.sims.rows = t.sims.rows.map fun r =>
      if r.id = id ∧ change.admits r.toSimData then r.change change else r := by
    cases hexec
    exact Store.rows_changeSim t id change
  refine ⟨trivial, fun r hr => ⟨_, hrows ▸ List.mem_map_of_mem hr, hrow r⟩, fun r' hr' => .inl ?_⟩
  rw [hrows, List.mem_map] at hr'
  obtain ⟨r, hr, rfl⟩ := hr'
  exact ⟨r, hr, hrow r⟩

theorem keeps_bystanding_other {c : Command} (hfresh : c.StoresFresh)
    (hother : ∀ id change, c ≠ .changeSim id change) : bystanding.Keeps (fun _ => True) c := by
  intro t t' a _ _ hexec
  refine ⟨trivial, ?_⟩
  rcases Command.exec_sims hexec with hsims | ⟨id, change, hc, -⟩ | ⟨drafts, hc, hadd⟩
  · exact ⟨fun r hr => ⟨r, hsims ▸ hr, .refl r⟩, fun r hr => .inl ⟨r, hsims ▸ hr, .refl r⟩⟩
  · exact absurd hc (hother id change)
  · have hfresh := hfresh drafts hc
    refine ⟨fun r hr => ⟨r, (Store.addSims_eq_ok hadd).1 r hr, .refl r⟩, fun r hr => ?_⟩
    rcases Store.row_of_addSims (fun d hd => (hfresh d hd).id?) hadd hr with
      hr | ⟨⟨d, hd, hrd⟩, hnew⟩
    · exact .inl ⟨r, hr, .refl r⟩
    · have hd := hfresh d hd
      exact .inr ⟨by simp [Sim.isReleased, hrd, hd.vendorState], by rw [hrd, hd.eid], hnew⟩

/-- An operation of the facade that is no pass touches neither release nor chip. -/
theorem untouched_of_changes {o : Operation} (hfacade : o.isFacade)
    (hpass : ∀ tuning, o ≠ .reconcile tuning) {change : SimChange} (hchange : o.changes change)
    (r : Sim) : r.Untouched (r.change change) := by
  cases change with
  | claim | setMsisdn _ | suspend _ => exact ⟨⟨rfl, rfl, rfl, fun h => ⟨h, rfl⟩⟩, rfl, rfl, rfl⟩
  | setRegistryState state =>
    cases state <;> exact ⟨⟨rfl, rfl, rfl, fun h => ⟨h, rfl⟩⟩, rfl, rfl, rfl⟩
  | release _ | setEid _ =>
    cases o with
    | reconcile tuning => exact absurd rfl (hpass tuning)
    | setReleased _ _ | setEid _ _ => cases hfacade
    | _ => cases hchange
  | setVendorState _ | setProvisionState _ =>
    cases o with
    | setVendorState _ _ | setProvisionState _ _ => cases hfacade
    | _ => cases hchange

/-- An operation of the facade that is no pass abides by the law of releases. -/
theorem abides_bystander (hi : ¬ passes i) (bindings : Bindings) {o : Operation}
    (hfacade : o.isFacade) (hpass : ∀ tuning, o ≠ .reconcile tuning)
    (hlaw : ReleaseLaw s passes h) :
    Action.Abides i (ReleaseLaw s passes) False (fun _ _ _ => True) (fun _ _ _ => True)
      (o.action bindings) .outside h := by
  refine ((serves_bystanding hi).abides_of_issues (o.issues_action ?_ ?_) hlaw).forget
  · exact fun _ hfresh hc => keeps_bystanding_other hfresh hc
  · exact fun _ _ hchange => keeps_bystanding_changeSim (untouched_of_changes hfacade hpass hchange)

end Sessions

end SimDepot
