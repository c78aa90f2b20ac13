import SimDepot.Proofs.Store.Growth

/-!
# What rows refer to

Permissions and SIMs refer to entries and batches. Rows do not disappear and keep their identities,
so that what a row refers to when it is stored is there for good: `Store.Referential.exec` says that
no command leaves a reference to nothing.
-/

namespace SimDepot

namespace Table

variable {α : Type} [Row α] {t t' : Table α} {id : Int}

theorem hasId_iff : t.hasId id ↔ ∃ r ∈ t.rows, Row.id r = id := by
  rw [hasId, Option.isSome_iff_exists]
  exact exists_congr fun r => withId?_eq_some_iff

/-- A row that is stored is there afterwards, and so are all others. -/
theorem mem_rows_insertRow {table column : String} {id? : Option Int} {row : Int → α} {r x : α}
    (h : Store.insertRow table column t id? row = .ok (t', r)) :
    x ∈ t'.rows ↔ x = r ∨ x ∈ t.rows := by
  obtain ⟨id, -, hadd⟩ := Store.insertRow_eq_ok h
  exact mem_rows_add hadd

theorem hasId_insertRow {table column : String} {id? : Option Int} {row : Int → α} {r : α}
    (h : Store.insertRow table column t id? row = .ok (t', r)) (hid : t.hasId id) :
    t'.hasId id := by
  obtain ⟨x, hx, rfl⟩ := hasId_iff.1 hid
  exact hasId_iff.2 ⟨x, (mem_rows_insertRow h).2 (.inr hx), rfl⟩

theorem hasId_of_map {f : α → α} (hrows : t'.rows = t.rows.map f)
    (hf : ∀ r, Row.id (f r) = Row.id r) (hid : t.hasId id) : t'.hasId id := by
  obtain ⟨x, hx, rfl⟩ := hasId_iff.1 hid
  exact hasId_iff.2 ⟨f x, hrows ▸ List.mem_map_of_mem hx, hf x⟩

end Table

namespace Store

variable {s s' : Store}

/-- What can be referred to in one store can be referred to in the other, and the permissions of
that one refer to what is there. -/
structure Retains (s s' : Store) : Prop where
  /-- The registries stay. -/
  registries : ∀ id, s.registries.hasId id → s'.registries.hasId id
  /-- The vendors stay. -/
  vendors : ∀ id, s.vendors.hasId id → s'.vendors.hasId id
  /-- The batches stay. -/
  batches : ∀ id, s.batches.hasId id → s'.batches.hasId id
  /-- A permission was stored before, or its vendor and its registry exist. -/
  permissions : ∀ p ∈ s'.permissions, p ∈ s.permissions ∨
    s.vendors.hasId p.vendorId ∧ s.registries.hasId p.registryId

/-- Where only SIMs differ, references lead to the same rows. -/
theorem Retains.of_rest (h : s' = { s with sims := s'.sims }) : s.Retains s' := by
  rw [h]
  exact ⟨fun _ => id, fun _ => id, fun _ => id, fun _ => .inl⟩

theorem Retains.hasReferences (h : s.Retains s') {sim : SimData} (hsim : s.hasReferences sim) :
    s'.hasReferences sim := by
  simp only [Store.hasReferences, Bool.and_eq_true] at hsim ⊢
  obtain ⟨⟨hregistry, hvendor⟩, hbatch⟩ := hsim
  exact ⟨⟨h.registries _ hregistry, h.vendors _ hvendor⟩, h.batches _ hbatch⟩

theorem retains_addEntry {role : Role} {name : String} {e : Entry}
    (h : s.addEntry role name = .ok (s', e)) : s.Retains s' := by
  obtain ⟨t, hrow, rfl⟩ := addEntry_eq_ok h
  cases role with
  | registry =>
    exact ⟨fun _ => Table.hasId_insertRow hrow, fun _ => id, fun _ => id, fun _ => .inl⟩
  | vendor =>
    exact ⟨fun _ => id, fun _ => Table.hasId_insertRow hrow, fun _ => id, fun _ => .inl⟩

theorem retains_addPermission {p q : Permission} (h : s.addPermission p = .ok (s', q)) :
    s.Retains s' := by
  obtain ⟨-, hrefs, _, rfl⟩ := addPermission_eq_ok h
  refine ⟨fun _ => id, fun _ => id, fun _ => id, fun p' hp' => ?_⟩
  rcases List.mem_append.1 hp' with hp' | hp'
  · exact .inl hp'
  · rw [List.mem_singleton.1 hp']
    exact .inr hrefs

theorem retains_openBatch {importer : String} {registry : RegistryId} {vendor : VendorId}
    {time : Timestamp} {b : Batch} (h : s.openBatch importer registry vendor time = .ok (s', b)) :
    s.Retains s' := by
  obtain ⟨t, hrow, rfl⟩ := openBatch_eq_ok h
  exact ⟨fun _ => id, fun _ => id, fun _ => Table.hasId_insertRow hrow, fun _ => .inl⟩

theorem retains_closeBatch (s : Store) (id : BatchId) (size : Nat) (status : BatchStatus)
    (time : Timestamp) : s.Retains (s.closeBatch id size status time).1 where
  registries _ h := h
  vendors _ h := h
  batches _ h := Table.hasId_of_map rfl (fun b => by split <;> rfl) h
  permissions _ h := .inl h

/-- A change does not touch what a SIM refers to. -/
theorem hasReferences_change (s : Store) (r : Sim) (change : SimChange) :
    s.hasReferences (r.change change).toSimData = s.hasReferences r.toSimData :=
  congrArg (fun lot : Lot => s.registries.hasId lot.registry && s.vendors.hasId lot.vendor &&
    s.batches.hasId lot.batch) (r.lot_change change)

end Store

namespace Command

variable {s s' : Store} {c : Command} {a : c.Answer}

/-- What can be referred to before a command can be referred to afterwards. -/
theorem retains (h : c.exec s = .ok (s', a)) : s.Retains s' := by
  cases c with
  | addEntry role name => exact Store.retains_addEntry h
  | addPermission p => exact Store.retains_addPermission h
  | openBatch importer registry vendor time => exact Store.retains_openBatch h
  | closeBatch id size status time =>
    cases h
    exact Store.retains_closeBatch s id size status time
  | changeSim id change =>
    cases h
    exact .of_rest rfl
  | addSims drafts =>
    obtain ⟨hfold, -⟩ := Store.addSims_eq_ok_iff.1 (addSims_of_exec h)
    exact .of_rest (Store.rest_of_foldlM hfold)

end Command

/-- No command leaves a reference to nothing. -/
theorem Store.Referential.exec {s s' : Store} (hs : s.Referential) {c : Command} {a : c.Answer}
    (h : c.exec s = .ok (s', a)) : s'.Referential := by
  have hretains := Command.retains h
  refine ⟨fun p hp => ?_, fun p hp => ?_, fun r hr => ?_⟩
  · rcases hretains.permissions p hp with hp | ⟨hvendor, -⟩
    · exact hretains.vendors _ (hs.vendor p hp)
    · exact hretains.vendors _ hvendor
  · rcases hretains.permissions p hp with hp | ⟨-, hregistry⟩
    · exact hretains.registries _ (hs.registry p hp)
    · exact hretains.registries _ hregistry
  · -- The SIM was stored before, a change was made to it, or it is one of a list.
    rcases Command.row_after h hr with hr | ⟨r₀, hr₀, change, -, -, rfl⟩ | ⟨drafts, rfl, d, hd, hrd⟩
    · exact hretains.hasReferences (hs.sim r hr)
    · rw [hasReferences_change]
      exact hretains.hasReferences (hs.sim r₀ hr₀)
    · rw [hrd]
      exact (addSims_eq_ok_iff.1 (Command.addSims_of_exec h)).2 d hd

end SimDepot
