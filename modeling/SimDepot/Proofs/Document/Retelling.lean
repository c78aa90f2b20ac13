import Mathlib.Data.List.Perm.Basic
import Mathlib.Data.List.Nodup
import SimDepot.Proofs.Document.Record

/-!
# Mappings that say the same

A mapping may tell a record in another order, leave out what is null and may be missing, and say
more than the record has fields for. `Shape.Retells` are these changes, any number of them one after
the other, and `Shape.Tells` is what all of them keep: the mapping says nothing else about the
fields, says it once, and leaves out only what reads as null. From such a mapping the record is read
with the values that were told (`Shape.exists_read_of_tells`).
-/

namespace SimDepot

namespace Document

variable {name : String} {d : Document} {members : List (Option String × Document)}

theorem mem_of_lastValue? (h : lastValue? name members = some d) : (some name, d) ∈ members := by
  obtain ⟨m, hm, rfl⟩ := Option.map_eq_some_iff.1 h
  have hkey : m.1 = some name := by simpa using List.find?_some hm
  rw [← hkey]
  exact List.mem_reverse.1 (List.mem_of_find?_eq_some hm)

theorem lastValue?_isSome_of_mem (h : (some name, d) ∈ members) :
    (lastValue? name members).isSome := by
  rw [lastValue?, Option.isSome_map, List.find?_isSome]
  exact ⟨_, List.mem_reverse.2 h, beq_self_eq_true _⟩

end Document

namespace Shape

open Document

variable {shape : Shape} {name : String} {value : String → Document} {f : Field}
  {told members members' : List (Option String × Document)}

/-! ## Fields by name -/

theorem mem_of_field? (h : shape.field? name = some f) : f ∈ shape.fields ∧ f.name = name :=
  ⟨List.mem_of_find?_eq_some h, by simpa using List.find?_some h⟩

theorem field?_isSome_iff : (shape.field? name).isSome ↔ name ∈ shape.fields.map Field.name := by
  simp [field?, List.find?_isSome]

/-- No two fields of the shape share a name. -/
def HasDistinctNames (shape : Shape) : Prop := (shape.fields.map Field.name).Nodup

theorem field?_name (hnames : shape.HasDistinctNames) (hf : f ∈ shape.fields) :
    shape.field? f.name = some f := by
  obtain ⟨f', hf'⟩ := Option.isSome_iff_exists.1 (field?_isSome_iff.2 (List.mem_map_of_mem hf))
  obtain ⟨hmem, hname⟩ := mem_of_field? hf'
  rw [hf', List.inj_on_of_nodup_map hnames hmem hf hname]

/-! ## Retelling -/

/-- Members that change others without changing what they say about the fields of a record. -/
inductive Retells (shape : Shape) (told : List (Option String × Document)) :
    List (Option String × Document) → Prop
  /-- Nothing is changed. -/
  | same : Retells shape told told
  /-- The members stand in another order. -/
  | permuted {before after : List (Option String × Document)} :
      Retells shape told before → before.Perm after → Retells shape told after
  /-- The null of a field that may be left out is left out. -/
  | omitted {front back : List (Option String × Document)} {key : String} {f : Field} :
      Retells shape told (front ++ (some key, .null) :: back) → shape.field? key = some f →
      f.presence = .nullable → Retells shape told (front ++ back)
  /-- A member is added that is no field. -/
  | added {members : List (Option String × Document)} {key : String} {d : Document} :
      Retells shape told members → shape.field? key = none → d.isSound →
      Retells shape told ((some key, d) :: members)

/-- The member gives a field its value, or is no field. -/
def IsSaid (shape : Shape) (value : String → Document) (m : Option String × Document) : Prop :=
  ∃ key, m.1 = some key ∧
    ((shape.field? key = none ∧ m.2.isSound) ∨ ((shape.field? key).isSome ∧ m.2 = value key))

/-- The members say of each field that it has its value, at most once, and leave out only what is
null and may be left out. -/
structure Tells (shape : Shape) (value : String → Document)
    (members : List (Option String × Document)) : Prop where
  said : ∀ m ∈ members, shape.IsSaid value m
  once : ∀ name, (shape.field? name).isSome → (members.map (·.1)).count (some name) ≤ 1
  complete : ∀ name f, shape.field? name = some f →
    some name ∈ members.map (·.1) ∨ (f.presence = .nullable ∧ value name = .null)

theorem Tells.permuted (h : shape.Tells value members) (hperm : members.Perm members') :
    shape.Tells value members' where
  said m hm := h.said m (hperm.mem_iff.2 hm)
  once name hname := by
    rw [← (hperm.map _).count_eq]
    exact h.once name hname
  complete name f hf := (h.complete name f hf).imp_left (hperm.map _).mem_iff.1

theorem Tells.omitted {front back : List (Option String × Document)} {key : String}
    (h : shape.Tells value (front ++ (some key, .null) :: back)) (hkey : shape.field? key = some f)
    (hnull : f.presence = .nullable) : shape.Tells value (front ++ back) := by
  have hsub : (front ++ back).Sublist (front ++ (some key, .null) :: back) :=
    (List.sublist_cons_self _ _).append_left front
  refine ⟨fun m hm => h.said m (hsub.subset hm), fun name hname => ?_, fun name f' hf' => ?_⟩
  · exact Nat.le_trans ((hsub.map _).count_le _) (h.once name hname)
  by_cases hname : name = key
  · -- What was left out was told to be null.
    subst hname
    obtain ⟨key, hkey', ⟨hnone, -⟩ | ⟨-, hvalue⟩⟩ :=
      h.said (some name, .null) (List.mem_append_right _ List.mem_cons_self)
    · cases hkey'
      rw [hkey] at hnone
      cases hnone
    · cases hkey'
      rw [hkey] at hf'
      cases hf'
      exact .inr ⟨hnull, hvalue.symm⟩
  · refine (h.complete name f' hf').imp_left fun hmem => ?_
    have hne : some name ≠ some key := fun h => hname (Option.some.inj h)
    simpa [hne] using hmem

theorem Tells.added {key : String} {d : Document} (h : shape.Tells value members)
    (hkey : shape.field? key = none) (hd : d.isSound) :
    shape.Tells value ((some key, d) :: members) where
  said m hm := by
    rcases List.mem_cons.1 hm with rfl | hm
    · exact ⟨key, rfl, .inl ⟨hkey, hd⟩⟩
    · exact h.said m hm
  once name hname := by
    have hne : some key ≠ some name := by
      rintro ⟨⟩
      rw [hkey] at hname
      cases hname
    rw [List.map_cons, List.count_cons_of_ne hne]
    exact h.once name hname
  complete name f hf := (h.complete name f hf).imp_left (List.mem_cons_of_mem _)

/-- However members are retold, they tell the same values. -/
theorem Tells.retells (h : shape.Tells value told) (hretells : shape.Retells told members) :
    shape.Tells value members := by
  induction hretells with
  | same => exact h
  | permuted _ hperm ih => exact ih.permuted hperm
  | omitted _ hkey hnull ih => exact ih.omitted hkey hnull
  | added _ hkey hd ih => exact ih.added hkey hd

/-! ## Reading what was told -/

/-- The value that was told is the one that is found, or null where nothing was told. -/
theorem Tells.member_eq (h : shape.Tells value members) (hf : shape.field? name = some f)
    (complete : Bool) : (mapping members complete).member name = value name := by
  rw [member_mapping]
  cases hlast : lastValue? name members with
  | some d =>
    obtain ⟨key, hkey, ⟨hnone, -⟩ | ⟨-, hvalue⟩⟩ := h.said _ (mem_of_lastValue? hlast)
    · cases hkey
      rw [hf] at hnone
      cases hnone
    · cases hkey
      exact hvalue
  | none =>
    rcases h.complete name f hf with hmem | ⟨-, hnull⟩
    · obtain ⟨⟨_, d⟩, hm, rfl⟩ := List.mem_map.1 hmem
      have hsome := lastValue?_isSome_of_mem hm
      rw [hlast] at hsome
      cases hsome
    · exact hnull.symm

theorem lookup_append_singleton {found : Found} {key : String} {d : Document}
    (h : ((found ++ [(key, d)]).lookup name).isSome) : (found.lookup name).isSome ∨ name = key := by
  rw [List.lookup_append, Option.isSome_or, Bool.or_eq_true] at h
  refine h.imp_right fun h => ?_
  by_contra hne
  simp [List.lookup_cons, beq_eq_false_iff_ne.2 hne] at h

/-- A scan gets through members that say each field once, without fault and not before. -/
theorem exists_scan_eq_ok {found : Found} (hsaid : ∀ m ∈ members, shape.IsSaid value m)
    (honce : ∀ name, (shape.field? name).isSome → (members.map (·.1)).count (some name) ≤ 1)
    (hnew : ∀ name, (found.lookup name).isSome → some name ∉ members.map (·.1))
    (hflawless : ∀ f ∈ shape.fields, f.fault? (value f.name) = none) :
    ∃ found', shape.scan found members = .ok found' := by
  induction members generalizing found with
  | nil => exact ⟨found, rfl⟩
  | cons m members ih =>
    obtain ⟨_, d⟩ := m
    obtain ⟨key, rfl, hkey⟩ := hsaid _ List.mem_cons_self
    have hrest : ∀ m ∈ members, shape.IsSaid value m := fun m hm =>
      hsaid m (List.mem_cons_of_mem _ hm)
    have honce' : ∀ name, (shape.field? name).isSome →
        (members.map (·.1)).count (some name) ≤ 1 := fun name hname =>
      Nat.le_trans ((List.sublist_cons_self _ _).count_le _) (honce name hname)
    have hnew' : ∀ name, (found.lookup name).isSome → some name ∉ members.map (·.1) :=
      fun name hname hmem => hnew name hname (List.mem_cons_of_mem _ hmem)
    simp only [scan]
    obtain ⟨hnone, hd⟩ | ⟨hsome, rfl⟩ := hkey
    · rw [hnone]
      simp only [show d.isSound = true from hd, if_true]
      exact ih hrest honce' hnew'
    · obtain ⟨f, hf⟩ := Option.isSome_iff_exists.1 hsome
      have hfault : f.fault? (value key) = none := by
        obtain ⟨hmem, rfl⟩ := mem_of_field? hf
        exact hflawless f hmem
      have hkey : (found.lookup key).isSome = false := by
        by_contra h
        exact hnew key (by simpa using h) List.mem_cons_self
      rw [hf]
      simp only [hkey, hfault, Bool.false_eq_true, if_false]
      refine ih hrest honce' fun name hname => ?_
      rcases lookup_append_singleton hname with hname | rfl
      · exact hnew' name hname
      · have hself := honce name hsome
        rw [List.map_cons, List.count_cons_self] at hself
        exact List.count_eq_zero.1 (by omega)

/-- What was told without fault is read, and every field is found with its value. -/
theorem exists_read_of_tells (hnames : shape.HasDistinctNames) (h : shape.Tells value members)
    (hflawless : ∀ f ∈ shape.fields, f.fault? (value f.name) = none) (surplus : Surplus) :
    ∃ found, shape.read surplus (.mapping members true) = .ok found ∧
      ∀ {α : Type} (name : String) (dec : Decoder α), (shape.field? name).isSome →
        found.get name dec = dec (value name) := by
  obtain ⟨found, hscan⟩ : ∃ found, shape.scan [] members = .ok found :=
    exists_scan_eq_ok h.said h.once (fun _ h => nomatch h) hflawless
  have hmissing : shape.missing? found = none := by
    rw [missing?, Option.map_eq_none_iff, List.find?_eq_none]
    intro f hf hmissing
    have hfield := field?_name hnames hf
    rw [Bool.and_eq_true, beq_iff_eq] at hmissing
    rcases h.complete f.name f hfield with hmem | ⟨hnull, -⟩
    · obtain ⟨⟨_, d⟩, hm, rfl⟩ := List.mem_map.1 hmem
      have hfound := (lookup_of_scan (by rw [hfield]; rfl) hscan).1
      rw [List.lookup_nil, Option.none_or] at hfound
      have hsome := lastValue?_isSome_of_mem hm
      rw [← hfound] at hsome
      rw [Option.isNone_iff_eq_none] at hmissing
      rw [hmissing.2] at hsome
      cases hsome
    · rw [hnull] at hmissing
      cases hmissing.1
  have hread : shape.read surplus (.mapping members true) = .ok found :=
    read_mapping_eq_ok_iff.2 ⟨hscan, rfl, hmissing⟩
  refine ⟨found, hread, fun name dec hname => ?_⟩
  obtain ⟨f, hf⟩ := Option.isSome_iff_exists.1 hname
  rw [get_of_read_mapping hname hread, h.member_eq hf]

/-! ## Telling a whole record -/

theorem lastValue?_of_mem {d : Document} (hkeys : (members.map (·.1)).Nodup)
    (h : (some name, d) ∈ members) : lastValue? name members = some d := by
  obtain ⟨d', hd'⟩ := Option.isSome_iff_exists.1 (lastValue?_isSome_of_mem h)
  have hpair := List.inj_on_of_nodup_map hkeys h (mem_of_lastValue? hd') rfl
  rw [hd', (Prod.mk.inj hpair).2]

/-- Members with the names of the fields tell the record that they are the members of. -/
theorem tells_members (hnames : shape.HasDistinctNames)
    (hkeys : members.map (·.1) = shape.fields.map fun f => some f.name) (complete : Bool) :
    shape.Tells (fun name => (mapping members complete).member name) members := by
  have hdistinct : (members.map (·.1)).Nodup := by
    rw [hkeys, ← Function.comp_def, ← List.map_map]
    exact hnames.map fun _ _ => Option.some.inj
  refine ⟨fun m hm => ?_, fun name _ => List.nodup_iff_count_le_one.1 hdistinct _,
    fun name f hf => .inl ?_⟩
  · have hmem : m.1 ∈ shape.fields.map fun f => some f.name := hkeys ▸ List.mem_map_of_mem hm
    obtain ⟨f, hf, hname⟩ := List.mem_map.1 hmem
    refine ⟨f.name, hname.symm, .inr ⟨?_, ?_⟩⟩
    · rw [field?_name hnames hf]
      rfl
    · have hm' : (some f.name, m.2) ∈ members := hname ▸ hm
      change m.2 = (lastValue? f.name members).getD .null
      rw [lastValue?_of_mem hdistinct hm', Option.getD_some]
  · obtain ⟨hmem, rfl⟩ := mem_of_field? hf
    rw [hkeys]
    exact List.mem_map_of_mem hmem

end Shape

end SimDepot
