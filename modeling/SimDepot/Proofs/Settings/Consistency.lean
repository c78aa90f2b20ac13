import Mathlib.Data.List.Sort
import Mathlib.Data.String.Basic
import SimDepot.Settings.Basic

/-!
# Settings that agree with themselves

`Settings.validate` accepts settings if and only if they are consistent: within a role the names
differ, permissions are between services that are listed, and reconciliation pauses. What is refused
has a first flaw, in the order in which the checks are made, and that one is reported.

Whether names differ and whether one is listed can be found out without comparing all with all. Once
the names ascend, names that are the same are neighbours, and a name is found by halving the list
again and again (`hasTwins_mergeSort`, `search_mergeSort`). Checks made in this way find the same
flaws (`sortedFlaw?_eq`).
-/

namespace SimDepot

namespace Text

variable {name : String} {names : List String}

/-! ## Names in ascending order -/

/-- Some name is the same as the one behind it. -/
def hasTwins : List String → Bool
  | a :: b :: rest => a == b || hasTwins (b :: rest)
  | _ => false

/-- Looks a name up in names that ascend: it is the one in the middle, or behind it, or before it.
-/
def search (name : String) (names : List String) : Bool :=
  match _ : names.drop (names.length / 2) with
  | [] => false
  | middle :: later =>
    if middle = name then true
    else if middle < name then search name later
    else search name (names.take (names.length / 2))
termination_by names.length
decreasing_by
  · have := congrArg List.length ‹names.drop _ = _›
    simp only [List.length_drop, List.length_cons] at this
    omega
  · have := congrArg List.length ‹names.drop _ = _›
    simp only [List.length_drop, List.length_cons, List.length_take] at this ⊢
    omega

/-- In ascending order names that are the same are neighbours. -/
theorem hasTwins_eq_false_iff (h : names.Pairwise (· ≤ ·)) :
    hasTwins names = false ↔ names.Nodup := by
  induction names with
  | nil => simp [hasTwins]
  | cons a rest ih =>
    cases rest with
    | nil => simp [hasTwins]
    | cons b rest =>
      obtain ⟨hfirst, hrest⟩ := List.pairwise_cons.1 h
      have hlater : a ∈ b :: rest → a = b := fun ha => by
        rcases List.mem_cons.1 ha with hab | ha
        · exact hab
        · exact le_antisymm (hfirst b (by simp)) ((List.pairwise_cons.1 hrest).1 a ha)
      have hfar : a ∉ b :: rest ↔ a ≠ b :=
        ⟨fun hnot hab => hnot (by simp [hab]), fun hne ha => hne (hlater ha)⟩
      rw [hasTwins, Bool.or_eq_false_iff, ih hrest, beq_eq_false_iff_ne, List.nodup_cons (a := a),
        hfar]

/-- A name is found if and only if it is there. -/
theorem search_iff (h : names.Pairwise (· ≤ ·)) : search name names ↔ name ∈ names := by
  induction hlength : names.length using Nat.strong_induction_on generalizing names with
  | _ n ih =>
    subst hlength
    have hwhole := List.take_append_drop (names.length / 2) names
    rw [search]
    split
    next hnone =>
      have hnil : names = [] := List.length_eq_zero_iff.1 (by
        have := congrArg List.length hnone
        simp only [List.length_drop, List.length_nil] at this
        omega)
      simp [hnil]
    next middle later hdrop =>
      rw [hdrop] at hwhole
      generalize htake : names.take (names.length / 2) = earlier at hwhole
      subst hwhole
      obtain ⟨hearlier, hrest, hcross⟩ := List.pairwise_append.1 h
      obtain ⟨hmiddle, hlater⟩ := List.pairwise_cons.1 hrest
      rw [List.mem_append, List.mem_cons]
      split
      next heq => simp [heq]
      next hne =>
        split
        next hlt =>
          have hnot : name ∉ earlier := fun hname =>
            absurd (hcross name hname middle (by simp)) (not_le.2 hlt)
          rw [ih _ (by simp; omega) hlater rfl]
          simp [hnot, Ne.symm hne]
        next hle =>
          have hnot : name ∉ later := fun hname =>
            hne (le_antisymm (hmiddle name hname) (not_lt.1 hle))
          rw [ih _ (by simp) hearlier rfl]
          simp [hnot, Ne.symm hne]

theorem pairwise_mergeSort_names (names : List String) : names.mergeSort.Pairwise (· ≤ ·) :=
  List.pairwise_mergeSort' (· ≤ ·) names

theorem hasTwins_mergeSort (names : List String) :
    hasTwins names.mergeSort = false ↔ names.Nodup := by
  rw [hasTwins_eq_false_iff (pairwise_mergeSort_names names),
    (List.mergeSort_perm names _).nodup_iff]

theorem search_mergeSort (name : String) (names : List String) :
    search name names.mergeSort ↔ name ∈ names := by
  rw [search_iff (pairwise_mergeSort_names names), List.mem_mergeSort]

end Text

namespace Settings

variable {settings : Settings}

/-! ## The single checks -/

/-- A permission has no flaw when it is between services that are listed. -/
theorem permissionFlaw?_eq_none_iff {p : PermissionSettings} :
    settings.permissionFlaw? p = none ↔
      p.registry ∈ settings.registryNames ∧ p.vendor ∈ settings.vendorNames := by
  by_cases hregistry : p.registry ∈ settings.registryNames <;> simp [permissionFlaw?, hregistry]

/-- The flaw of a permission is its vendor only if its registry is listed. -/
theorem permissionFlaw?_eq_some_iff {p : PermissionSettings} {flaw : SettingsFlaw} :
    settings.permissionFlaw? p = some flaw ↔
      (p.registry ∉ settings.registryNames ∧ flaw = .unknownRegistry p.vendor p.registry) ∨
      (p.registry ∈ settings.registryNames ∧ p.vendor ∉ settings.vendorNames ∧
        flaw = .unknownVendor p.registry p.vendor) := by
  by_cases hregistry : p.registry ∈ settings.registryNames <;>
    by_cases hvendor : p.vendor ∈ settings.vendorNames <;>
    simp [permissionFlaw?, hregistry, hvendor, eq_comm]

/-- Settings have no flaw when the names of each role differ, the permissions are between services
that are listed, and reconciliation pauses. -/
theorem flaw?_eq_none_iff : settings.flaw? = none ↔
    settings.registryNames.Nodup ∧ settings.vendorNames.Nodup ∧
      (∀ p ∈ settings.permissions,
        p.registry ∈ settings.registryNames ∧ p.vendor ∈ settings.vendorNames) ∧
      settings.tuning.intervalSecs ≠ 0 := by
  have hpermissions : settings.permissions.findSome? settings.permissionFlaw? = none ↔
      ∀ p ∈ settings.permissions,
        p.registry ∈ settings.registryNames ∧ p.vendor ∈ settings.vendorNames := by
    simp only [List.findSome?_eq_none_iff, permissionFlaw?_eq_none_iff]
  rw [← hpermissions, ← hasDuplicate_eq_false_iff, ← hasDuplicate_eq_false_iff]
  unfold flaw?
  cases hasDuplicate settings.registryNames
  · cases hasDuplicate settings.vendorNames
    · cases settings.permissions.findSome? settings.permissionFlaw? <;> simp
    · simp
  · simp

theorem validate_eq_ok_iff : settings.validate = .ok () ↔
    settings.registryNames.Nodup ∧ settings.vendorNames.Nodup ∧
      (∀ p ∈ settings.permissions,
        p.registry ∈ settings.registryNames ∧ p.vendor ∈ settings.vendorNames) ∧
      settings.tuning.intervalSecs ≠ 0 := by
  rw [← flaw?_eq_none_iff, validate]
  cases settings.flaw? <;> simp

theorem validate_eq_error_iff {flaw : SettingsFlaw} :
    settings.validate = .error flaw ↔ settings.flaw? = some flaw := by
  rw [validate]
  cases settings.flaw? <;> simp

/-! ## The first flaw -/

/-- The names of each role differ. -/
def NamesDiffer (settings : Settings) : Prop :=
  settings.registryNames.Nodup ∧ settings.vendorNames.Nodup

/-- A permission is between services that are listed. -/
def Knows (settings : Settings) (p : PermissionSettings) : Prop :=
  p.registry ∈ settings.registryNames ∧ p.vendor ∈ settings.vendorNames

/-- The settings do not contradict themselves. -/
structure IsConsistent (settings : Settings) : Prop where
  /-- The names of each role differ. -/
  names : settings.NamesDiffer
  /-- Permissions are between services that are listed. -/
  permissions : ∀ p ∈ settings.permissions, settings.Knows p
  /-- Reconciliation pauses between two passes. -/
  pauses : settings.tuning.intervalSecs ≠ 0

/-- The first flaw of settings, with all that comes before it in order. -/
inductive FirstFlaw (settings : Settings) : SettingsFlaw → Prop
  /-- The name of a registry is listed twice. -/
  | registryTwice (h : ¬ settings.registryNames.Nodup) :
    FirstFlaw settings (.duplicateName .registry)
  /-- The name of a vendor is listed twice. -/
  | vendorTwice (hregistries : settings.registryNames.Nodup) (h : ¬ settings.vendorNames.Nodup) :
    FirstFlaw settings (.duplicateName .vendor)
  /-- A permission names a registry that is not listed. -/
  | unknownRegistry (hnames : settings.NamesDiffer) {before after : List PermissionSettings}
    {p : PermissionSettings} (hlist : settings.permissions = before ++ p :: after)
    (hbefore : ∀ q ∈ before, settings.Knows q) (h : p.registry ∉ settings.registryNames) :
    FirstFlaw settings (.unknownRegistry p.vendor p.registry)
  /-- A permission names a vendor that is not listed, for a registry that is. -/
  | unknownVendor (hnames : settings.NamesDiffer) {before after : List PermissionSettings}
    {p : PermissionSettings} (hlist : settings.permissions = before ++ p :: after)
    (hbefore : ∀ q ∈ before, settings.Knows q) (hregistry : p.registry ∈ settings.registryNames)
    (h : p.vendor ∉ settings.vendorNames) : FirstFlaw settings (.unknownVendor p.registry p.vendor)
  /-- Reconciliation does not pause. -/
  | zeroInterval (hnames : settings.NamesDiffer)
    (hlist : ∀ p ∈ settings.permissions, settings.Knows p)
    (h : settings.tuning.intervalSecs = 0) : FirstFlaw settings .zeroInterval

theorem flaw?_of_not_nodup (h : ¬ settings.registryNames.Nodup) :
    settings.flaw? = some (.duplicateName .registry) := by
  rw [← hasDuplicate_eq_false_iff, Bool.not_eq_false] at h
  rw [flaw?, if_pos h]

theorem flaw?_of_nodup (hregistries : settings.registryNames.Nodup)
    (h : ¬ settings.vendorNames.Nodup) : settings.flaw? = some (.duplicateName .vendor) := by
  rw [← hasDuplicate_eq_false_iff] at hregistries
  rw [← hasDuplicate_eq_false_iff, Bool.not_eq_false] at h
  rw [flaw?, if_neg (by simp [hregistries]), if_pos h]

theorem flaw?_of_namesDiffer (h : settings.NamesDiffer) : settings.flaw? =
    (settings.permissions.findSome? settings.permissionFlaw?).or
      (if settings.tuning.intervalSecs = 0 then some .zeroInterval else none) := by
  obtain ⟨hregistries, hvendors⟩ := h
  rw [← hasDuplicate_eq_false_iff] at hregistries hvendors
  rw [flaw?, if_neg (by simp [hregistries]), if_neg (by simp [hvendors])]
  cases settings.permissions.findSome? settings.permissionFlaw? <;> rfl

/-- The flaw that is reported is the first one. -/
theorem flaw?_eq_some_iff {flaw : SettingsFlaw} :
    settings.flaw? = some flaw ↔ settings.FirstFlaw flaw := by
  have hknown {ps : List PermissionSettings} :
      (∀ q ∈ ps, settings.permissionFlaw? q = none) ↔ ∀ q ∈ ps, settings.Knows q := by
    simp only [permissionFlaw?_eq_none_iff, Knows]
  constructor
  · intro h
    by_cases hregistries : settings.registryNames.Nodup
    swap
    · cases (flaw?_of_not_nodup hregistries).symm.trans h
      exact .registryTwice hregistries
    by_cases hvendors : settings.vendorNames.Nodup
    swap
    · cases (flaw?_of_nodup hregistries hvendors).symm.trans h
      exact .vendorTwice hregistries hvendors
    have hnames : settings.NamesDiffer := ⟨hregistries, hvendors⟩
    rw [flaw?_of_namesDiffer hnames, Option.or_eq_some_iff] at h
    obtain h | ⟨hnone, h⟩ := h
    · obtain ⟨before, p, after, hlist, hp, hbefore⟩ := List.findSome?_eq_some_iff.1 h
      obtain ⟨hregistry, rfl⟩ | ⟨hregistry, hvendor, rfl⟩ := permissionFlaw?_eq_some_iff.1 hp
      · exact .unknownRegistry hnames hlist (hknown.1 hbefore) hregistry
      · exact .unknownVendor hnames hlist (hknown.1 hbefore) hregistry hvendor
    · split at h
      next hzero =>
        cases h
        exact .zeroInterval hnames (hknown.1 (List.findSome?_eq_none_iff.1 hnone)) hzero
      next => cases h
  · intro h
    cases h with
    | registryTwice h => exact flaw?_of_not_nodup h
    | vendorTwice hregistries h => exact flaw?_of_nodup hregistries h
    | unknownRegistry hnames hlist hbefore h =>
      rw [flaw?_of_namesDiffer hnames, List.findSome?_eq_some_iff.2 ⟨_, _, _, hlist,
        permissionFlaw?_eq_some_iff.2 (.inl ⟨h, rfl⟩), hknown.2 hbefore⟩]
      rfl
    | unknownVendor hnames hlist hbefore hregistry h =>
      rw [flaw?_of_namesDiffer hnames, List.findSome?_eq_some_iff.2 ⟨_, _, _, hlist,
        permissionFlaw?_eq_some_iff.2 (.inr ⟨hregistry, h, rfl⟩), hknown.2 hbefore⟩]
      rfl
    | zeroInterval hnames hlist h =>
      rw [flaw?_of_namesDiffer hnames, List.findSome?_eq_none_iff.2 (hknown.2 hlist), if_pos h]
      rfl

/-! ## Checks on sorted names -/

/-- The first flaw of settings, found on the names of each role in ascending order. -/
def sortedFlaw? (settings : Settings) : Option SettingsFlaw :=
  let registries := settings.registryNames.mergeSort
  let vendors := settings.vendorNames.mergeSort
  if Text.hasTwins registries then some (.duplicateName .registry)
  else if Text.hasTwins vendors then some (.duplicateName .vendor)
  else
    (settings.permissions.findSome? fun p =>
      if !Text.search p.registry registries then some (.unknownRegistry p.vendor p.registry)
      else if !Text.search p.vendor vendors then some (.unknownVendor p.registry p.vendor)
      else none).or
    (if settings.tuning.intervalSecs = 0 then some .zeroInterval else none)

theorem sortedFlaw?_eq (settings : Settings) : settings.sortedFlaw? = settings.flaw? := by
  have htwins (names : List String) : Text.hasTwins names.mergeSort = hasDuplicate names := by
    rw [Bool.eq_iff_iff, ← not_iff_not, Bool.not_eq_true, Bool.not_eq_true,
      Text.hasTwins_mergeSort, hasDuplicate_eq_false_iff]
  have hsearch (name : String) (names : List String) :
      Text.search name names.mergeSort = names.contains name := by
    rw [Bool.eq_iff_iff, Text.search_mergeSort, List.contains_iff_mem]
  simp only [sortedFlaw?, htwins, hsearch, flaw?]
  split
  · rfl
  · split
    · rfl
    · change (settings.permissions.findSome? settings.permissionFlaw?).or _ = _
      cases settings.permissions.findSome? settings.permissionFlaw? <;> rfl

/-! ## The whole -/

/-- The same settings with the entries of each list in another order. -/
structure IsRearranged (settings other : Settings) : Prop where
  /-- The registries. -/
  registries : settings.registries.Perm other.registries
  /-- The vendors. -/
  vendors : settings.vendors.Perm other.vendors
  /-- The permissions. -/
  permissions : settings.permissions.Perm other.permissions
  /-- Reconciliation is tuned the same way. -/
  tuning : settings.tuning = other.tuning

theorem IsRearranged.isConsistent_iff {other : Settings} (h : settings.IsRearranged other) :
    other.IsConsistent ↔ settings.IsConsistent := by
  have hregistries : settings.registryNames.Perm other.registryNames := h.registries.map _
  have hvendors : settings.vendorNames.Perm other.vendorNames := h.vendors.map _
  have hnames : settings.NamesDiffer ↔ other.NamesDiffer :=
    and_congr hregistries.nodup_iff hvendors.nodup_iff
  have hknows (p : PermissionSettings) : settings.Knows p ↔ other.Knows p :=
    and_congr hregistries.mem_iff hvendors.mem_iff
  constructor
  · intro ⟨hn, hp, hi⟩
    exact ⟨hnames.2 hn, fun p hmem => (hknows p).2 (hp p (h.permissions.subset hmem)),
      h.tuning ▸ hi⟩
  · intro ⟨hn, hp, hi⟩
    exact ⟨hnames.1 hn, fun p hmem => (hknows p).1 (hp p (h.permissions.symm.subset hmem)),
      h.tuning ▸ hi⟩

theorem validate_eq_ok_iff_isConsistent : settings.validate = .ok () ↔ settings.IsConsistent := by
  rw [validate_eq_ok_iff]
  exact ⟨fun ⟨hregistries, hvendors, hpermissions, hpauses⟩ =>
      ⟨⟨hregistries, hvendors⟩, hpermissions, hpauses⟩,
    fun h => ⟨h.names.1, h.names.2, h.permissions, h.pauses⟩⟩

/-- Settings are accepted if and only if they are consistent, in whatever order their entries are
listed; otherwise the first flaw is reported. Looking for neighbours that are the same and for names
by halving, in sorted lists, comes to the same result. -/
theorem validate_accepts_consistent (settings : Settings) :
    (settings.validate = .ok () ↔ settings.IsConsistent) ∧
    (∀ other, settings.IsRearranged other →
      (other.validate = .ok () ↔ settings.validate = .ok ())) ∧
    (∀ flaw, settings.validate = .error flaw ↔ settings.FirstFlaw flaw) ∧
    settings.flaw? = settings.sortedFlaw? := by
  refine ⟨validate_eq_ok_iff_isConsistent, fun other h => ?_, fun flaw => ?_,
    settings.sortedFlaw?_eq.symm⟩
  · rw [validate_eq_ok_iff_isConsistent, validate_eq_ok_iff_isConsistent, h.isConsistent_iff]
  · rw [validate_eq_error_iff, flaw?_eq_some_iff]

end Settings

end SimDepot
