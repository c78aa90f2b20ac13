import SimDepot.Directory.Upkeep
import SimDepot.Proofs.Directory.Names
import SimDepot.Proofs.Session.Alone

/-!
# Upkeep of the directory, alone

One rule for each step of the upkeep, where nobody else is at work and nothing goes wrong. Each
names the cases in the order in which the step looks at them: a blank name, a table without
identities left, a name that is taken, and the rest.
-/

namespace SimDepot.Directory

open SimDepot.Action

variable {s : Store} {role : Role} {name : String} {vendor : VendorId} {registry : RegistryId}

/-! ## Finding -/

theorem alone_named {post : Except Error Entry → Standing → Store → Prop}
    (hfound : ∀ e, (s.entries role).named? name = some e → post (.ok e) .outside s)
    (hmissing : (s.entries role).named? name = none →
      post (.error (.notFound (.entryNamed role name))) .outside s) :
    Alone post (named role name) .outside s :=
  alone_bind (alone_read (alone_expect hfound hmissing))

theorem alone_withId {id : Int} {post : Except Error Entry → Standing → Store → Prop}
    (hfound : ∀ e, (s.entries role).hasId id → post (.ok e) .outside s)
    (hmissing : ¬ (s.entries role).hasId id →
      post (.error (.notFound (.entryWithId role id))) .outside s) :
    Alone post (withId role id) .outside s := by
  refine alone_bind (alone_read (alone_expect (fun e he => ?_) fun hnone => ?_))
  · refine hfound e ?_
    show ((s.entries role).withId? id).isSome
    rw [show (s.entries role).withId? id = some e from he]
    rfl
  · refine hmissing ?_
    show ¬ ((s.entries role).withId? id).isSome
    rw [show (s.entries role).withId? id = none from hnone]
    simp

theorem alone_checkPermission {post : Except Error Unit → Standing → Store → Prop}
    (hgiven : ⟨vendor, registry⟩ ∈ s.permissions → post (.ok ()) .outside s)
    (hmissing : ⟨vendor, registry⟩ ∉ s.permissions →
      post (.error (.forbidden (.supply vendor registry))) .outside s) :
    Alone post (checkPermission vendor registry) .outside s := by
  refine alone_bind (alone_read (alone_bind (alone_expect (fun p hp => ?_) fun hnone => ?_)))
  · exact alone_pure (hgiven (Query.eval_permission_eq_some_iff.1 hp).2)
  · refine hmissing fun hmem => ?_
    cases hnone.symm.trans (Query.eval_permission_eq_some_iff.2 ⟨rfl, hmem⟩)

/-! ## Storing -/

/-- How making sure of an entry ends, and what lasts then. -/
inductive Ensured (s : Store) (role : Role) (name : String) : Except Error Entry → Store → Prop
  /-- The name is blank. -/
  | blank (h : Text.isBlank name) : Ensured s role name (.error (.notCreated (.blankName role))) s
  /-- No identity is left. -/
  | full (h : ¬ Text.isBlank name) (hroom : ¬ (s.entries role).last < maxId) :
    Ensured s role name (.error (.store (.refused .execution .full))) s
  /-- The entry was stored. -/
  | listed (h : ¬ Text.isBlank name) (hroom : (s.entries role).last < maxId)
    (hfree : (s.entries role).named? (Text.trim name) = none) {s' : Store} {e : Entry}
    (hlisted : s.Listed role (Text.trim name) s' e) : Ensured s role name (.ok e) s'
  /-- The entry is stored already, under the name as it is given. -/
  | found (h : ¬ Text.isBlank name) (hroom : (s.entries role).last < maxId) {e : Entry}
    (hfound : (s.entries role).named? name = some e) : Ensured s role name (.ok e) s
  /-- The name is taken, and no entry has it as it is given. -/
  | lost (h : ¬ Text.isBlank name) (hroom : (s.entries role).last < maxId) {taken : Entry}
    (htaken : (s.entries role).named? (Text.trim name) = some taken)
    (hlost : (s.entries role).named? name = none) :
    Ensured s role name (.error (.notFound (.entryNamed role name))) s

/-- Making sure of an entry. -/
theorem alone_ensure (s : Store) (role : Role) (name : String) :
    Alone (fun res st s' => st = .outside ∧ Ensured s role name res s') (ensure role name)
      .outside s := by
  refine alone_tryCatch ?_
  by_cases hblank : Text.isBlank name
  · have hadd : add role name = throw (.notCreated (.blankName role)) := if_pos hblank
    rw [hadd]
    exact alone_throw (alone_throw ⟨rfl, .blank hblank⟩)
  have hadd : add role name = insert (.ofInsertion (.entry role name))
      (.addEntry role (Text.trim name)) fun e =>
        readOr (.ofInsertion (.entry role name)) (.entryWithId role e.id) := if_neg hblank
  rw [hadd]
  by_cases hroom : (s.entries role).last < maxId
  · cases hname : (s.entries role).named? (Text.trim name) with
    | none =>
      obtain ⟨s', e, hexec, hlisted⟩ := Store.addEntry_of_fresh hroom hname
      have hfound : Query.eval s' (.entryWithId role e.id) = some e :=
        Table.withId?_eq_some_iff.2 ⟨by rw [hlisted.rows]; simp, rfl⟩
      exact alone_insert hexec (alone_read ⟨congrArg Except.ok hfound, rfl, rfl⟩)
        ⟨rfl, .listed hblank hroom hname hlisted⟩
    | some taken =>
      refine alone_insert_error (Store.addEntry_of_taken hroom hname) ?_
      exact alone_named (fun e he => ⟨rfl, .found hblank hroom he⟩)
        fun hlost => ⟨rfl, .lost hblank hroom hname hlost⟩
  · exact alone_insert_error (Store.addEntry_of_full hroom)
      (alone_throw ⟨rfl, .full hblank hroom⟩)

/-! ## Making sure of an entry again -/

/-- Making sure of an entry that is stored finds it: its name is trimmed, and the table has an
identity left, which it does not need. -/
structure Stable (s : Store) (role : Role) (name : String) : Prop where
  /-- The name is trimmed. -/
  trimmed : Text.trim name = name
  /-- There is an identity left. -/
  room : (s.entries role).last < maxId

namespace Ensured

variable {res : Except Error Entry} {s' : Store} {e : Entry}

/-- Whoever made sure of an entry finds it under the trimmed name. -/
theorem named?_of_ok (h : Ensured s role name (.ok e) s') (hs : s.NamesTrimmed) :
    s.Enlisted s' ∧ s'.NamesTrimmed ∧ ¬ Text.isBlank name ∧
      (s'.entries role).named? (Text.trim name) = some e := by
  cases h with
  | listed hblank hroom hfree hlisted =>
    exact ⟨hlisted.enlisted, hlisted.namesTrimmed hs (Text.trim_trim name), hblank, hlisted.named?⟩
  | found hblank hroom hfound =>
    refine ⟨.refl s, hs, hblank, ?_⟩
    obtain ⟨he, rfl⟩ := Table.named?_eq_some_iff.1 hfound
    rw [hs role e he]
    exact hfound

/-- Making sure of a stored entry changes nothing, and finds it exactly when it is stable. -/
theorem again (h : Ensured s role name res s') (hs : s.NamesTrimmed)
    (hblank : ¬ Text.isBlank name) (he : (s.entries role).named? (Text.trim name) = some e) :
    s' = s ∧ (res = .ok e ∧ Stable s role name ∨ (∃ err, res = .error err) ∧
      ¬ Stable s role name) := by
  cases h with
  | blank h => exact absurd h hblank
  | full _ hroom => exact ⟨rfl, .inr ⟨⟨_, rfl⟩, fun h => hroom h.room⟩⟩
  | listed _ _ hfree _ =>
    rw [he] at hfree
    cases hfree
  | found _ hroom hfound =>
    obtain ⟨hmem, hname⟩ := Table.named?_eq_some_iff.1 hfound
    have htrimmed : Text.trim name = name := hname ▸ hs role _ hmem
    rw [htrimmed, hfound] at he
    cases he
    exact ⟨rfl, .inl ⟨rfl, htrimmed, hroom⟩⟩
  | lost _ _ _ hlost =>
    refine ⟨rfl, .inr ⟨⟨_, rfl⟩, fun h => ?_⟩⟩
    rw [h.trimmed, hlost] at he
    cases he

end Ensured

/-! ## Permitting -/

/-- The permission `p` is stored: it was before, and nothing has changed, or it was added. -/
structure Granted (s : Store) (p : Permission) (s' : Store) : Prop where
  /-- The directory has grown. -/
  enlisted : s.Enlisted s'
  /-- The entries are as they were. -/
  entries : ∀ role, s'.entries role = s.entries role
  /-- The permissions are those that were there, and this one. -/
  mem_iff : ∀ q, q ∈ s'.permissions ↔ q ∈ s.permissions ∨ q = p
  /-- Where it was stored before, nothing has changed. -/
  again : p ∈ s.permissions → s' = s

theorem granted_self {p : Permission} (hp : p ∈ s.permissions) : Granted s p s where
  enlisted := .refl s
  entries _ := rfl
  mem_iff q := by
    constructor
    · exact .inl
    · rintro (hq | rfl)
      · exact hq
      · exact hp
  again _ := rfl

/-- A permission between entries that exist is stored, if it is not yet. -/
theorem addPermission_of_hasId {p : Permission} (hp : p ∉ s.permissions)
    (hvendor : s.vendors.hasId p.vendorId) (hregistry : s.registries.hasId p.registryId) :
    ∃ s', s.addPermission p = .ok (s', p) ∧ Granted s p s' := by
  unfold Store.addPermission
  rw [dif_neg hp, if_neg (by rw [hvendor, hregistry]; simp)]
  refine ⟨_, rfl, ⟨fun role => ?_, List.prefix_append _ _, rfl, rfl⟩, fun role => ?_, fun q => ?_,
    fun h => absurd h hp⟩
  · cases role <;> exact List.prefix_rfl
  · cases role <;> rfl
  · simp

/-- Permitting a vendor for a registry, where both exist. -/
theorem alone_permit {post : Except Error Permission → Standing → Store → Prop}
    (hvendor : s.vendors.hasId vendor) (hregistry : s.registries.hasId registry)
    (hadded : ∀ s', Granted s ⟨vendor, registry⟩ s' → post (.ok ⟨vendor, registry⟩) .outside s')
    (htaken : ∀ taken, ⟨vendor, registry⟩ ∈ s.permissions →
      post (.error (.alreadyExists taken)) .outside s) :
    Alone post (permit vendor registry) .outside s := by
  refine alone_bind (alone_withId (fun _ _ => ?_) fun h => absurd hvendor h)
  refine alone_bind (alone_withId (fun _ _ => ?_) fun h => absurd hregistry h)
  by_cases hp : ⟨vendor, registry⟩ ∈ s.permissions
  · have hexec : s.addPermission ⟨vendor, registry⟩ = .error (.duplicate
        "vendor_registry_permissions.vendor_id, vendor_registry_permissions.registry_id") :=
      dif_pos hp
    exact alone_insert_error hexec (htaken _ hp)
  · obtain ⟨s', hexec, hgranted⟩ := addPermission_of_hasId hp hvendor hregistry
    have hfound : Query.eval s' (.permission ⟨vendor, registry⟩) = some ⟨vendor, registry⟩ :=
      Query.eval_permission_eq_some_iff.2 ⟨rfl, (hgranted.mem_iff _).2 (.inr rfl)⟩
    exact alone_insert hexec (alone_read ⟨congrArg Except.ok hfound, rfl, rfl⟩)
      (hadded s' hgranted)

end SimDepot.Directory
