import SimDepot.Proofs.Directory.Upkeep
import SimDepot.Settings.Setup

/-!
# Putting settings into effect, step by step

Services are bound one after the other, registries and vendors in the same way; `bindAll` is that
way. `Binds` says which map comes of it, read off the directory, and `Denotes` which permission the
names of a permission stand for. Both stay as the directory grows.
-/

namespace SimDepot

namespace Setup

open SimDepot.Action

variable {α : Type} {s s' : Store} {role : Role} {name : α → String}

/-! ## Binding -/

/-- Binds every item of a list to the entry with its name, in addition to those bound already. -/
def bindAll (role : Role) (name : α → String) (bound : IdMap α) : List α → Action (IdMap α)
  | [] => return bound
  | a :: rest => do
    let entry ← Directory.ensure role (name a)
    bindAll role name (bound.insert entry.id a) rest

theorem bindRegistries_eq_bindAll (bound : IdMap RegistrySettings) (rs : List RegistrySettings) :
    bindRegistries bound rs = bindAll .registry (·.name) bound rs := by
  induction rs generalizing bound with
  | nil => rfl
  | cons r rest ih => simp only [bindRegistries, bindAll, ih]

theorem bindVendors_eq_bindAll (bound : IdMap VendorSettings) (vs : List VendorSettings) :
    bindVendors bound vs = bindAll .vendor (·.name) bound vs := by
  induction vs generalizing bound with
  | nil => rfl
  | cons v rest ih => simp only [bindVendors, bindAll, ih]

/-- With every item bound to the entry that has its trimmed name, `bound` becomes `m`. -/
inductive Binds (t : Table Entry) (name : α → String) : IdMap α → List α → IdMap α → Prop
  /-- There is nothing to bind. -/
  | nil (bound : IdMap α) : Binds t name bound [] bound
  /-- The first item is bound, and then the others. -/
  | cons {bound m : IdMap α} {a : α} {rest : List α} {e : Entry} (hblank : ¬ Text.isBlank (name a))
    (he : t.named? (Text.trim (name a)) = some e) (h : Binds t name (bound.insert e.id a) rest m) :
    Binds t name bound (a :: rest) m

theorem Binds.of_enlisted {bound m : IdMap α} {as : List α}
    (h : Binds (s.entries role) name bound as m) (hs : s.Enlisted s') :
    Binds (s'.entries role) name bound as m := by
  induction h with
  | nil bound => exact .nil bound
  | cons hblank he _ ih => exact .cons hblank (hs.named? he) ih

/-- Binding ends, if it succeeds, with what the directory says by then. -/
theorem alone_bindAll (hs : s.NamesTrimmed) (bound : IdMap α) (as : List α) :
    Alone (fun res st s' => st = .outside ∧ ∀ m, res = .ok m → s.Enlisted s' ∧ s'.NamesTrimmed ∧
      Binds (s'.entries role) name bound as m) (bindAll role name bound as) .outside s := by
  induction as generalizing s bound with
  | nil =>
    refine alone_pure ⟨rfl, fun m hm => ?_⟩
    cases hm
    exact ⟨.refl s, hs, .nil bound⟩
  | cons a rest ih =>
    refine alone_bind ((Directory.alone_ensure s role (name a)).mono ?_)
    rintro res st s₁ ⟨rfl, hensured⟩
    cases res with
    | error e => exact ⟨rfl, nofun⟩
    | ok e =>
      obtain ⟨hs₁, htrimmed, hblank, he⟩ := hensured.named?_of_ok hs
      refine (ih htrimmed (bound.insert e.id a)).mono ?_
      rintro res st s₂ ⟨rfl, hrest⟩
      refine ⟨rfl, fun m hm => ?_⟩
      obtain ⟨hs₂, htrimmed₂, hbinds⟩ := hrest m hm
      exact ⟨hs₁.trans hs₂, htrimmed₂, .cons hblank (hs₂.named? he) hbinds⟩

/-- Binding again changes nothing, and succeeds with the same map exactly when all names are
stable. -/
theorem alone_bindAll_again (hs : s.NamesTrimmed) {bound m : IdMap α} {as : List α}
    (h : Binds (s.entries role) name bound as m) :
    Alone (fun res st s' => st = .outside ∧ s' = s ∧
      (res = .ok m ∧ (∀ a ∈ as, Directory.Stable s role (name a)) ∨
        (∃ err, res = .error err) ∧ ¬ ∀ a ∈ as, Directory.Stable s role (name a)))
      (bindAll role name bound as) .outside s := by
  induction h with
  | nil bound => exact alone_pure ⟨rfl, rfl, .inl ⟨rfl, by simp⟩⟩
  | @cons bound m a rest e hblank he h ih =>
    refine alone_bind ((Directory.alone_ensure s role (name a)).mono ?_)
    rintro res st s₁ ⟨rfl, hensured⟩
    obtain ⟨rfl, ⟨rfl, hstable⟩ | ⟨⟨err, rfl⟩, hunstable⟩⟩ := hensured.again hs hblank he
    · refine ih.mono ?_
      rintro res st s₂ ⟨rfl, rfl, hrest⟩
      refine ⟨rfl, rfl, ?_⟩
      rw [List.forall_mem_cons, and_iff_right hstable]
      exact hrest
    · refine ⟨rfl, rfl, .inr ⟨⟨err, rfl⟩, fun hall => ?_⟩⟩
      exact hunstable (hall a (by simp))

/-! ## Granting -/

/-- The names of a permission are those of the entries that the permission `q` is between. -/
structure Denotes (s : Store) (p : PermissionSettings) (q : Permission) : Prop where
  /-- The registry. -/
  registry : ((s.entries .registry).named? p.registry).map (·.id) = some q.registryId
  /-- The vendor. -/
  vendor : ((s.entries .vendor).named? p.vendor).map (·.id) = some q.vendorId

theorem denotes_iff_of_entries (h : ∀ role, s'.entries role = s.entries role)
    {p : PermissionSettings} {q : Permission} : Denotes s' p q ↔ Denotes s p q := by
  constructor
  · rintro ⟨hr, hv⟩
    rw [h] at hr hv
    exact ⟨hr, hv⟩
  · rintro ⟨hr, hv⟩
    rw [← h] at hr hv
    exact ⟨hr, hv⟩

/-- The permission that names stand for is between entries that exist. -/
theorem Denotes.hasId {p : PermissionSettings} {q : Permission} (h : Denotes s p q) :
    s.vendors.hasId q.vendorId ∧ s.registries.hasId q.registryId := by
  have hexists : ∀ {t : Table Entry} {n : String} {id : Int},
      (t.named? n).map (·.id) = some id → t.hasId id := by
    intro t n id hid
    obtain ⟨e, he, hid⟩ := Option.map_eq_some_iff.1 hid
    have hfound := Table.withId?_eq_some_iff.2 ⟨(Table.named?_eq_some_iff.1 he).1, hid⟩
    rw [Table.hasId, hfound]
    rfl
  exact ⟨hexists h.vendor, hexists h.registry⟩

/-- How a permission is granted. -/
theorem alone_grant (s : Store) (p : PermissionSettings) :
    Alone (fun res st s' => st = .outside ∧
      ((∃ q, Denotes s p q ∧ res = .ok () ∧ Directory.Granted s q s') ∨
        (¬ ∃ q, Denotes s p q) ∧ (∃ err, res = .error err) ∧ s' = s)) (grant p) .outside s := by
  refine alone_bind (Directory.alone_named (fun r hr => ?_) fun hnone => ?_)
  · refine alone_bind (Directory.alone_named (fun v hv => ?_) fun hnone => ?_)
    · have hq : Denotes s p ⟨v.id, r.id⟩ := ⟨by rw [hr]; rfl, by rw [hv]; rfl⟩
      refine alone_bind (alone_attempt (Directory.alone_permit hq.hasId.1 hq.hasId.2
        (fun s' hgranted => ?_) fun taken htaken => ?_))
      · exact alone_pure ⟨rfl, .inl ⟨_, hq, rfl, hgranted⟩⟩
      · exact alone_pure ⟨rfl, .inl ⟨_, hq, rfl, Directory.granted_self htaken⟩⟩
    · refine ⟨rfl, .inr ⟨fun ⟨q, hq⟩ => ?_, ⟨_, rfl⟩, rfl⟩⟩
      have hvendor := hq.vendor
      rw [hnone] at hvendor
      cases hvendor
  · refine ⟨rfl, .inr ⟨fun ⟨q, hq⟩ => ?_, ⟨_, rfl⟩, rfl⟩⟩
    have hregistry := hq.registry
    rw [hnone] at hregistry
    cases hregistry

/-- How permissions are granted, one after the other. -/
structure GrantsAll (s : Store) (ps : List PermissionSettings) (res : Except Error PUnit)
    (s' : Store) : Prop where
  /-- The directory has grown. -/
  enlisted : s.Enlisted s'
  /-- The entries are as they were. -/
  entries : ∀ role, s'.entries role = s.entries role
  /-- It succeeds when all names are found. -/
  ok_iff : res = .ok () ↔ ∀ p ∈ ps, ∃ q, Denotes s p q
  /-- Then the permissions are those that were there, and these. -/
  mem_iff : res = .ok () → ∀ q, q ∈ s'.permissions ↔ q ∈ s.permissions ∨ ∃ p ∈ ps, Denotes s p q
  /-- Where they were stored before, nothing has changed. -/
  again : (∀ p ∈ ps, ∀ q, Denotes s p q → q ∈ s.permissions) → s' = s

theorem alone_grantAll (s : Store) (ps : List PermissionSettings) :
    Alone (fun res st s' => st = .outside ∧ GrantsAll s ps res s') (ps.forM grant) .outside s := by
  induction ps generalizing s with
  | nil => exact alone_pure ⟨rfl, .refl s, fun _ => rfl, by simp, by simp, fun _ => rfl⟩
  | cons p rest ih =>
    refine alone_bind ((alone_grant s p).mono ?_)
    rintro res st s₁ ⟨rfl, ⟨q, hq, rfl, hgranted⟩ | ⟨hnone, ⟨err, rfl⟩, rfl⟩⟩
    · refine (ih s₁).mono ?_
      rintro res st s₂ ⟨rfl, hrest⟩
      have hdenotes : ∀ {p q}, Denotes s₁ p q ↔ Denotes s p q :=
        denotes_iff_of_entries hgranted.entries
      refine ⟨rfl, hgranted.enlisted.trans hrest.enlisted, fun role => ?_, ?_, fun hok x => ?_,
        fun hall => ?_⟩
      · rw [hrest.entries, hgranted.entries]
      · rw [hrest.ok_iff, List.forall_mem_cons, and_iff_right ⟨q, hq⟩]
        simp only [hdenotes]
      · -- Names stand for one permission at most.
        have hhead : ∀ x, Denotes s p x ↔ x = q := by
          intro x
          constructor
          · intro hx
            have hregistry := hx.registry.symm.trans hq.registry
            have hvendor := hx.vendor.symm.trans hq.vendor
            cases x
            cases q
            cases hregistry
            cases hvendor
            rfl
          · rintro rfl
            exact hq
        rw [hrest.mem_iff hok, hgranted.mem_iff]
        simp only [hdenotes, List.mem_cons, exists_eq_or_imp, hhead, or_assoc]
      · have hs₁ := hgranted.again (hall p (by simp) q hq)
        refine (hrest.again fun p' hp' q' hq' => ?_).trans hs₁
        rw [hs₁] at hq' ⊢
        exact hall p' (by simp [hp']) q' hq'
    · refine ⟨rfl, .refl _, fun _ => rfl, iff_of_false nofun fun hall => ?_, nofun, fun _ => rfl⟩
      exact hnone (hall p (by simp))

end Setup

end SimDepot
