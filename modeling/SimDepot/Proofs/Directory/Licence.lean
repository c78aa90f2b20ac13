import SimDepot.Proofs.Lifecycle.Operation
import SimDepot.Proofs.Lifecycle.RowLaw

/-!
# Licences

A permission is given once and never withdrawn, and an import asks for it before it opens its batch.
So whenever a SIM is stored, and ever after, its vendor is permitted for its registry.
-/

namespace SimDepot

open SimDepot.Action

/-- A command stores the permission that it is about, or it leaves the permissions as they are. -/
theorem Command.exec_permissions {s s' : Store} {c : Command} {a : c.Answer}
    (h : c.exec s = .ok (s', a)) :
    s'.permissions = s.permissions ∨
      ∃ p, c = .addPermission p ∧ s'.permissions = s.permissions ++ [p] := by
  cases c with
  | addEntry role name =>
    obtain ⟨t, -, rfl⟩ := Store.addEntry_eq_ok h
    cases role <;> exact .inl rfl
  | addPermission p =>
    obtain ⟨-, -, _, rfl⟩ := Store.addPermission_eq_ok h
    exact .inr ⟨p, rfl, rfl⟩
  | openBatch importer registry vendor time =>
    obtain ⟨t, -, rfl⟩ := Store.openBatch_eq_ok h
    exact .inl rfl
  | closeBatch id size status time =>
    cases h
    exact .inl rfl
  | changeSim id change =>
    cases h
    exact .inl rfl
  | addSims drafts =>
    obtain ⟨hfold, -⟩ := Store.addSims_eq_ok_iff.1 (addSims_of_exec h)
    rw [Store.rest_of_foldlM hfold]
    exact .inl rfl

theorem Command.permissions_subset {s s' : Store} {c : Command} {a : c.Answer}
    (h : c.exec s = .ok (s', a)) : s.permissions ⊆ s'.permissions := by
  rcases Command.exec_permissions h with hsame | ⟨p, -, hadded⟩
  · exact fun q hq => hsame ▸ hq
  · exact fun q hq => hadded ▸ List.mem_append_left _ hq

/-- What licenses a SIM. -/
def SimData.licence (s : SimData) : Permission := ⟨s.vendorId, s.registryId⟩

@[simp] theorem Sim.licence_change (r : Sim) (change : SimChange) :
    (r.change change).licence = r.licence :=
  congrArg (fun lot : Lot => (⟨lot.vendor, lot.registry⟩ : Permission)) (r.lot_change change)

/-- Every SIM is licensed, and permissions stay. -/
def licensed : Discipline where
  inv s := ∀ r ∈ s.sims.rows, r.licence ∈ s.permissions
  rel s s' := s.permissions ⊆ s'.permissions
  refl _ := List.Subset.refl _
  trans := List.Subset.trans

theorem lasting_permitted (p : Permission) : licensed.Lasting (p ∈ ·.permissions) :=
  fun _ _ hrel hp => hrel hp

/-- A command keeps SIMs licensed when those that it stores are. -/
theorem keeps_licensed {F : Store → Prop} {c : Command}
    (hadd : ∀ drafts, c = .addSims drafts → ∀ d ∈ drafts, ∀ s, F s → d.licence ∈ s.permissions) :
    licensed.Keeps F c := by
  intro s s' a hinv hF hexec
  have hsubset := Command.permissions_subset hexec
  refine ⟨fun r hr => ?_, hsubset⟩
  rcases Command.row_after hexec hr with
    hr | ⟨r₀, hr₀, change, -, -, rfl⟩ | ⟨drafts, hc, d, hd, hrd⟩
  · exact hsubset (hinv r hr)
  · rw [Sim.licence_change]
    exact hsubset (hinv r₀ hr₀)
  · rw [hrd]
    exact hsubset (hadd drafts hc d hd s hF)

section Admission

variable {ι : Type} {i : ι} {h : Chronicle ι} {faulty : Prop} {records : List FeedRecord}
  {registry : RegistryId} {vendor : VendorId} {importer : String}

theorem Directory.abides_withId {law : Chronicle ι → Prop} {role : Role} {id : Int}
    (hquiet : Quiet i law) (hlaw : law h) :
    Action.Abides i law faulty (fun _ st h => st = .outside ∧ law h) (fun _ _ _ => True)
      (withId role id) .outside h :=
  abides_bind (abides_read hquiet hlaw (fun _ hm => abides_expect
    (fun _ _ => ⟨rfl, hm.lawful hlaw⟩) fun _ => trivial) fun _ _ _ _ => trivial)

/-- Until it has found its vendor permitted, an import only asks. -/
theorem Feed.abides_admission {law : Chronicle ι → Prop}
    {ok : Batch → Standing → Chronicle ι → Prop} (hquiet : Quiet i law) (hlaw : law h)
    (hadmitted : ∀ h, law h → ⟨vendor, registry⟩ ∈ h.store.permissions →
      Action.Abides i law faulty ok (fun _ _ _ => True) (intake records registry vendor importer)
        .outside h) :
    Action.Abides i law faulty ok (fun _ _ _ => True)
      (importAll records registry vendor importer) .outside h := by
  rw [importAll]
  refine abides_bind ((Directory.abides_withId hquiet hlaw).mono ?_ fun _ _ _ h => h)
  rintro _ st h₁ ⟨rfl, hlaw₁⟩
  refine abides_bind ((Directory.abides_withId hquiet hlaw₁).mono ?_ fun _ _ _ h => h)
  rintro _ st h₂ ⟨rfl, hlaw₂⟩
  refine abides_bind (abides_bind (abides_read hquiet hlaw₂ (fun h₃ hm => ?_)
    fun _ _ _ _ => trivial))
  exact abides_bind (abides_expect (fun p hfind => abides_pure
    (hadmitted h₃ (hm.lawful hlaw₂) (Query.eval_permission_eq_some_iff.1 hfind).2))
    fun _ => trivial)

/-- Once an import has opened its batch, its vendor is permitted; before, it gives no command. -/
theorem Feed.abides_importAll {D : Discipline}
    (hlasting : D.Lasting (⟨vendor, registry⟩ ∈ ·.permissions))
    (hkeeps : ∀ c, (Operation.importFeed records registry vendor importer).Gives c →
      D.Keeps (⟨vendor, registry⟩ ∈ ·.permissions) c) (hlaw : D.law h) :
    Action.Abides i D.law faulty (fun _ _ _ => True) (fun _ _ _ => True)
      (importAll records registry vendor importer) .outside h :=
  abides_admission (Discipline.quiet_law i) hlaw fun _ hlaw hpermitted =>
    Discipline.abides_any hlasting
      (issues_intake (fun time => hkeeps _ (.opening time))
        (fun _ _ _ time hstatus hsize => hkeeps _ (.closing time hstatus hsize))
        fun _ _ hchunk => hkeeps _ (.intake hchunk))
      ⟨Discipline.sound_outside _, hlaw, hpermitted⟩ (fun _ _ _ _ => trivial)
      fun _ _ _ _ => trivial

end Admission

end SimDepot
