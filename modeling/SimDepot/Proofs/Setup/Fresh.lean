import SimDepot.Proofs.Settings.Consistency
import SimDepot.Proofs.Setup.Binding

/-!
# Setting up a new depot

On empty tables every service gets an entry of its own, in the order of the settings, as long as no
name is blank and no two names of a role are the same once they are trimmed. The names of
permissions are looked up as they are given; where they are trimmed, they stand for the services
that the settings call so. Then the permissions that are stored are those of the settings, and no
others.
-/

namespace SimDepot

open SimDepot.Action

namespace IdMap

variable {α : Type} {m : IdMap α} {id : Int} {a : α}

/-- The value of an identity is the one that it is paired with. -/
theorem get?_eq_some_iff : m.get? id = some a ↔ (id, a) ∈ m.pairs := by
  constructor
  · intro h
    obtain ⟨⟨id', a'⟩, hfind, rfl⟩ := Option.map_eq_some_iff.1 h
    obtain rfl : id' = id := by simpa using List.find?_some hfind
    exact List.mem_of_find?_eq_some hfind
  · intro h
    obtain ⟨p, hfind⟩ : ∃ p, (m.pairs.find? fun p => p.1 == id) = some p :=
      Option.isSome_iff_exists.1 (List.find?_isSome.2 ⟨_, h, by simp⟩)
    have hid : p.1 = id := by simpa using List.find?_some hfind
    have hp : p ∈ m.pairs := List.mem_of_find?_eq_some hfind
    have hinj : ∀ x ∈ m.pairs, ∀ y ∈ m.pairs, x.1 = y.1 → x = y := by
      have hnodup : (m.pairs.map (·.1)).Nodup :=
        (List.pairwise_map.2 m.sorted).imp Int.ne_of_lt
      exact fun x hx y hy hxy => List.inj_on_of_nodup_map hnodup hx hy hxy
    obtain rfl := hinj p hp (id, a) h hid
    rw [get?, hfind]
    rfl

/-- A pair beyond all others goes to the end. -/
theorem place_of_lt {l : List (Int × α)} (h : ∀ p ∈ l, p.1 < id) :
    place id a l = l ++ [(id, a)] := by
  induction l with
  | nil => rfl
  | cons p l ih =>
    have hp := h p (by simp)
    simp only [place, List.cons_append]
    rw [if_neg (by omega), if_neg (by omega), ih fun q hq => h q (by simp [hq])]

end IdMap

namespace Setup

variable {α : Type} {s : Store} {role : Role} {name : α → String}

/-- Items under the identities that follow `last`, in order. -/
def numbered (last : Int) : List α → List (Int × α)
  | [] => []
  | a :: rest => (last + 1, a) :: numbered (last + 1) rest

@[simp] theorem length_numbered (last : Int) (as : List α) :
    (numbered last as).length = as.length := by
  induction as generalizing last with
  | nil => rfl
  | cons a rest ih => simp [numbered, ih]

@[simp] theorem map_snd_numbered (last : Int) (as : List α) :
    (numbered last as).map (·.2) = as := by
  induction as generalizing last with
  | nil => rfl
  | cons a rest ih => simp [numbered, ih]

/-- The entry of an item that was stored under an identity. -/
def entryOf (name : α → String) (p : Int × α) : Entry := ⟨p.1, Text.trim (name p.2)⟩

/-- Every item got an entry of its own. -/
structure BoundFresh (s : Store) (role : Role) (name : α → String) (bound : IdMap α) (as : List α)
    (m : IdMap α) (s' : Store) : Prop where
  /-- The items are bound to the identities that come next. -/
  pairs : m.pairs = bound.pairs ++ numbered (s.entries role).last as
  /-- Their entries were added. -/
  rows : (s'.entries role).rows =
    (s.entries role).rows ++ (numbered (s.entries role).last as).map (entryOf name)
  /-- Nothing else has changed. -/
  rest : s' = s.setEntries role (s'.entries role)

/-- The first item got the entry that was stored for it, and the others got theirs after that. -/
theorem BoundFresh.of_listed {bound bound' m : IdMap α} {a : α} {rest : List α} {s₁ s₂ : Store}
    {e : Entry} (h : BoundFresh s₁ role name bound' rest m s₂)
    (hlisted : s.Listed role (Text.trim (name a)) s₁ e)
    (hbound : bound'.pairs = bound.pairs ++ [((s.entries role).last + 1, a)]) :
    BoundFresh s role name bound (a :: rest) m s₂ where
  pairs := by
    rw [h.pairs, hbound, hlisted.last, List.append_assoc]
    rfl
  rows := by
    rw [h.rows, hlisted.rows, hlisted.last, hlisted.entry, List.append_assoc]
    rfl
  rest := by
    rw [h.rest, hlisted.rest]
    cases role <;> rfl

/-- Binding items whose names are not blank, and are new and different once trimmed. -/
theorem alone_bindAll_fresh (hs : s.NamesTrimmed) {bound : IdMap α} {as : List α}
    (hroom : (s.entries role).last + as.length ≤ maxId)
    (hbound : ∀ p ∈ bound.pairs, p.1 ≤ (s.entries role).last)
    (hblank : ∀ a ∈ as, ¬ Text.isBlank (name a))
    (hnodup : (as.map fun a => Text.trim (name a)).Nodup)
    (hfree : ∀ a ∈ as, (s.entries role).named? (Text.trim (name a)) = none) :
    Alone (fun res st s' => st = .outside ∧ ∃ m, res = .ok m ∧ s'.NamesTrimmed ∧
      BoundFresh s role name bound as m s') (bindAll role name bound as) .outside s := by
  induction as generalizing s bound with
  | nil =>
    refine alone_pure ⟨rfl, bound, rfl, hs, by simp [numbered], by simp [numbered], ?_⟩
    cases role <;> rfl
  | cons a rest ih =>
    rw [List.map_cons, List.nodup_cons] at hnodup
    have hroom₁ : (s.entries role).last < maxId := by
      rw [List.length_cons] at hroom
      omega
    refine alone_bind ((Directory.alone_ensure s role (name a)).mono ?_)
    rintro res st s₁ ⟨rfl, hensured⟩
    have hfree₁ := hfree a (by simp)
    cases hensured with
    | blank h => exact absurd h (hblank a (by simp))
    | full _ h => exact absurd hroom₁ h
    | found _ _ hfound =>
      obtain ⟨he, hname⟩ := Table.named?_eq_some_iff.1 hfound
      have htrimmed := hs role _ he
      rw [hname] at htrimmed
      rw [htrimmed, hfound] at hfree₁
      cases hfree₁
    | lost _ _ htaken _ =>
      rw [hfree₁] at htaken
      cases htaken
    | @listed _ _ _ _ e hlisted =>
      have hplace : (bound.insert e.id a).pairs =
          bound.pairs ++ [((s.entries role).last + 1, a)] := by
        rw [hlisted.entry]
        exact IdMap.place_of_lt fun p hp => Int.lt_add_one_of_le (hbound p hp)
      refine (ih (hlisted.namesTrimmed hs (Text.trim_trim _)) ?_ ?_ (fun b hb =>
        hblank b (by simp [hb])) hnodup.2 fun b hb => ?_).mono ?_
      · rw [hlisted.last]
        rw [List.length_cons] at hroom
        omega
      · intro p hp
        rw [hplace, List.mem_append, List.mem_singleton] at hp
        rw [hlisted.last]
        rcases hp with hp | rfl
        · exact Int.le_add_one (hbound p hp)
        · exact Int.le_refl _
      · rw [hlisted.named?_of_ne fun heq => hnodup.1 (List.mem_map.2 ⟨b, hb, heq.symm⟩)]
        exact hfree b (by simp [hb])
      · rintro res st s₂ ⟨rfl, m, rfl, htrimmed, hrest⟩
        exact ⟨rfl, m, rfl, htrimmed, hrest.of_listed hlisted hplace⟩

/-- On an empty table, an entry is found under a name when it is the trimmed name of an item. -/
theorem named?_of_boundFresh {bound m : IdMap α} {as : List α} {s' : Store}
    (h : BoundFresh s role name bound as m s') (hempty : (s.entries role).rows = [])
    (hbound : bound.pairs = []) {n : String} {id : Int} :
    ((s'.entries role).named? n).map (·.id) = some id ↔
      ∃ a, m.get? id = some a ∧ Text.trim (name a) = n := by
  have hpairs : m.pairs = numbered (s.entries role).last as := by rw [h.pairs, hbound]; rfl
  have hrows : (s'.entries role).rows = m.pairs.map (entryOf name) := by
    rw [h.rows, hempty, hpairs]
    rfl
  rw [Option.map_eq_some_iff]
  simp only [Table.named?_eq_some_iff, hrows, List.mem_map, IdMap.get?_eq_some_iff]
  constructor
  · rintro ⟨_, ⟨⟨p, hp, rfl⟩, hname⟩, rfl⟩
    exact ⟨p.2, hp, hname⟩
  · rintro ⟨a, ha, hname⟩
    exact ⟨_, ⟨⟨(id, a), ha, rfl⟩, hname⟩, rfl⟩

/-! ## Settings -/

/-- What settings need beyond being valid for the store to take them. -/
structure Acceptable (settings : Settings) : Prop where
  /-- No registry has a blank name. -/
  registries_named : ∀ r ∈ settings.registries, ¬ Text.isBlank r.name
  /-- No vendor has a blank name. -/
  vendors_named : ∀ v ∈ settings.vendors, ¬ Text.isBlank v.name
  /-- The names of registries differ once they are trimmed. -/
  registries_apart : (settings.registries.map fun r => Text.trim r.name).Nodup
  /-- The names of vendors differ once they are trimmed. -/
  vendors_apart : (settings.vendors.map fun v => Text.trim v.name).Nodup
  /-- The names of permissions are trimmed. -/
  permissions_trimmed : ∀ p ∈ settings.permissions,
    Text.trim p.registry = p.registry ∧ Text.trim p.vendor = p.vendor

/-- There are identities for all services. -/
structure Fits (settings : Settings) : Prop where
  /-- There are for the registries. -/
  registries : settings.registries.length ≤ maxId
  /-- There are for the vendors. -/
  vendors : settings.vendors.length ≤ maxId

/-- The settings permit the vendor that is bound to one identity for the registry that is bound to
the other. -/
def Permits (settings : Settings) (setup : Setup) (vendor : VendorId) (registry : RegistryId) :
    Prop :=
  ∃ p ∈ settings.permissions, (∃ r, setup.registries.get? registry = some r ∧ r.name = p.registry) ∧
    ∃ v, setup.vendors.get? vendor = some v ∧ v.name = p.vendor

/-- Every item of a list is bound, each to an identity of its own. -/
structure BindsEach (m : IdMap α) (as : List α) : Prop where
  /-- There are as many identities as items. -/
  length : m.ids.length = as.length
  /-- The identities differ. -/
  nodup : m.ids.Nodup
  /-- The items are bound. -/
  mem_iff : ∀ a, a ∈ as ↔ ∃ id, m.get? id = some a

theorem bindsEach_of_boundFresh {bound m : IdMap α} {as : List α} {s' : Store}
    (h : BoundFresh s role name bound as m s') (hbound : bound.pairs = []) : BindsEach m as := by
  have hpairs : m.pairs = numbered (s.entries role).last as := by rw [h.pairs, hbound]; rfl
  refine ⟨?_, (List.pairwise_map.2 m.sorted).imp Int.ne_of_lt, fun a => ?_⟩
  · rw [IdMap.ids, List.length_map, hpairs, length_numbered]
  · have hitems : m.pairs.map (·.2) = as := by rw [hpairs, map_snd_numbered]
    simp only [IdMap.get?_eq_some_iff, ← hitems, List.mem_map]
    constructor
    · rintro ⟨⟨id, a⟩, hp, rfl⟩
      exact ⟨id, hp⟩
    · rintro ⟨id, hp⟩
      exact ⟨_, hp, rfl⟩

/-- The names in the permissions of valid settings are those of services. -/
theorem mem_names_of_validate {settings : Settings} (h : settings.validate = .ok ())
    {p : PermissionSettings} (hp : p ∈ settings.permissions) :
    p.registry ∈ settings.registryNames ∧ p.vendor ∈ settings.vendorNames :=
  (Settings.validate_eq_ok_iff.1 h).2.2.1 p hp

/-- A trimmed name that an item has is the trimmed name of no other item. -/
theorem name_eq_of_trim_eq {as : List α} (hapart : (as.map fun a => Text.trim (name a)).Nodup)
    {n : String} (hn : n ∈ as.map name) (htrimmed : Text.trim n = n) {a : α} (ha : a ∈ as) :
    Text.trim (name a) = n ↔ name a = n := by
  constructor
  · intro h
    obtain ⟨b, hb, rfl⟩ := List.mem_map.1 hn
    rw [List.inj_on_of_nodup_map hapart ha hb (h.trans htrimmed.symm)]
  · rintro rfl
    exact htrimmed

/-- Where the name is that of an item, it does not matter whether the names of bound items are
trimmed. -/
theorem exists_bound_trim_iff {m : IdMap α} {as : List α} (h : BindsEach m as)
    (hapart : (as.map fun a => Text.trim (name a)).Nodup) {n : String} (hn : n ∈ as.map name)
    (htrimmed : Text.trim n = n) {id : Int} :
    (∃ a, m.get? id = some a ∧ Text.trim (name a) = n) ↔ ∃ a, m.get? id = some a ∧ name a = n :=
  exists_congr fun a => and_congr_right fun hget =>
    name_eq_of_trim_eq hapart hn htrimmed ((h.mem_iff a).2 ⟨id, hget⟩)

/-- Each name of a permission is the name of a service that is bound. -/
theorem exists_bound_of_mem {m : IdMap α} {as : List α} (h : BindsEach m as) {n : String}
    (hn : n ∈ as.map name) : ∃ id a, m.get? id = some a ∧ name a = n := by
  obtain ⟨a, ha, rfl⟩ := List.mem_map.1 hn
  obtain ⟨id, hid⟩ := (h.mem_iff a).1 ha
  exact ⟨id, a, hid, rfl⟩

variable {settings : Settings} {setup : Setup}

/-- The services are bound on what were empty tables, and nothing is permitted yet. -/
structure Seated (settings : Settings) (setup : Setup) (s : Store) : Prop where
  /-- Every registry is bound. -/
  registries : BindsEach setup.registries settings.registries
  /-- Every vendor is bound. -/
  vendors : BindsEach setup.vendors settings.vendors
  /-- There are no permissions. -/
  permissions : s.permissions = []
  /-- The names of a permission stand for the services that have them. -/
  denotes_iff : ∀ p ∈ settings.permissions, ∀ q, Denotes s p q ↔
    (∃ r, setup.registries.get? q.registryId = some r ∧ r.name = p.registry) ∧
      ∃ v, setup.vendors.get? q.vendorId = some v ∧ v.name = p.vendor

theorem seated_of_boundFresh (hvalid : settings.validate = .ok ())
    (hacceptable : Acceptable settings) {s₁ s₂ : Store}
    (hregistries : BoundFresh .empty .registry (·.name) .empty settings.registries
      setup.registries s₁)
    (hvendors : BoundFresh s₁ .vendor (·.name) .empty settings.vendors setup.vendors s₂) :
    Seated settings setup s₂ := by
  have hbindsR := bindsEach_of_boundFresh hregistries rfl
  have hbindsV := bindsEach_of_boundFresh hvendors rfl
  have hvendors₁ : s₁.entries .vendor = .empty := by
    rw [hregistries.rest]
    rfl
  have hregistries₂ : s₂.entries .registry = s₁.entries .registry := by
    rw [hvendors.rest]
    rfl
  refine ⟨hbindsR, hbindsV, ?_, fun p hp q => ?_⟩
  · rw [hvendors.rest, Store.permissions_setEntries, hregistries.rest]
    rfl
  · obtain ⟨hr, hv⟩ := mem_names_of_validate hvalid hp
    obtain ⟨htr, htv⟩ := hacceptable.permissions_trimmed p hp
    rw [← exists_bound_trim_iff hbindsR hacceptable.registries_apart hr htr,
      ← exists_bound_trim_iff hbindsV hacceptable.vendors_apart hv htv,
      ← named?_of_boundFresh hregistries rfl rfl,
      ← named?_of_boundFresh hvendors (by rw [hvendors₁]; rfl) rfl, ← hregistries₂]
    exact ⟨fun h => ⟨h.registry, h.vendor⟩, fun h => ⟨h.1, h.2⟩⟩

/-- The settings are in effect on what were empty tables. -/
structure Fulfilled (settings : Settings) (setup : Setup) (s : Store) : Prop where
  /-- Every registry is bound. -/
  registries : BindsEach setup.registries settings.registries
  /-- Every vendor is bound. -/
  vendors : BindsEach setup.vendors settings.vendors
  /-- The permissions are those of the settings. -/
  mem_iff : ∀ vendor registry,
    (⟨vendor, registry⟩ : Permission) ∈ s.permissions ↔ Permits settings setup vendor registry

/-- What the settings permit can be granted once the services are bound. -/
theorem Seated.fulfilled (h : Seated settings setup s) (hvalid : settings.validate = .ok ())
    {res : Except Error PUnit} {s' : Store} (hgrants : GrantsAll s settings.permissions res s') :
    res = .ok () ∧ Fulfilled settings setup s' := by
  have hok : res = .ok () := by
    refine hgrants.ok_iff.2 fun p hp => ?_
    obtain ⟨hr, hv⟩ := mem_names_of_validate hvalid hp
    obtain ⟨registry, r, hget, hname⟩ := exists_bound_of_mem h.registries hr
    obtain ⟨vendor, v, hget', hname'⟩ := exists_bound_of_mem h.vendors hv
    exact ⟨⟨vendor, registry⟩, (h.denotes_iff p hp _).2 ⟨⟨r, hget, hname⟩, v, hget', hname'⟩⟩
  refine ⟨hok, h.registries, h.vendors, fun vendor registry => ?_⟩
  rw [hgrants.mem_iff hok, h.permissions]
  constructor
  · rintro (hnone | ⟨p, hp, hq⟩)
    · cases hnone
    · exact ⟨p, hp, (h.denotes_iff p hp _).1 hq⟩
  · rintro ⟨p, hp, hq⟩
    exact .inr ⟨p, hp, (h.denotes_iff p hp _).2 hq⟩

/-- Putting acceptable settings into effect on empty tables. -/
theorem alone_ofSettings_empty (hvalid : settings.validate = .ok ())
    (hacceptable : Acceptable settings) (hfits : Fits settings) :
    Alone (fun res _ s => ∃ setup, res = .ok setup ∧ Fulfilled settings setup s)
      (ofSettings settings) .outside .empty := by
  unfold ofSettings
  rw [bindRegistries_eq_bindAll]
  refine alone_bind ((alone_bindAll_fresh Store.namesTrimmed_empty ?_ (by simp [IdMap.empty])
    hacceptable.registries_named hacceptable.registries_apart fun _ _ => rfl).mono ?_)
  · show (0 : Int) + settings.registries.length ≤ maxId
    rw [Int.zero_add]
    exact hfits.registries
  rintro res st s₁ ⟨rfl, registries, rfl, htrimmed, hregistries⟩
  have hvendors₁ : s₁.entries .vendor = .empty := by
    rw [hregistries.rest]
    rfl
  dsimp only
  rw [bindVendors_eq_bindAll]
  refine alone_bind ((alone_bindAll_fresh htrimmed ?_ (by simp [IdMap.empty])
    hacceptable.vendors_named hacceptable.vendors_apart fun _ _ => ?_).mono ?_)
  · rw [hvendors₁]
    show (0 : Int) + settings.vendors.length ≤ maxId
    rw [Int.zero_add]
    exact hfits.vendors
  · rw [hvendors₁]
    rfl
  rintro res st s₂ ⟨rfl, vendors, rfl, -, hvendors⟩
  have hseated : Seated settings ⟨registries, vendors, settings.tuning⟩ s₂ :=
    seated_of_boundFresh hvalid hacceptable hregistries hvendors
  refine alone_bind ((alone_grantAll s₂ settings.permissions).mono ?_)
  rintro res st s₃ ⟨rfl, hgrants⟩
  obtain ⟨rfl, hfulfilled⟩ := hseated.fulfilled hvalid hgrants
  exact alone_pure ⟨_, rfl, hfulfilled⟩

end Setup

/-- Valid settings that are acceptable to the store can be put into effect on empty tables: every
service is bound to an identity of its own, and afterwards a vendor is permitted for a registry
exactly where a permission of the settings names the two. -/
theorem setUp_of_acceptable {settings : Settings} (hvalid : settings.validate = .ok ())
    (hacceptable : Setup.Acceptable settings) (hfits : Setup.Fits settings)
    {res : Except Error Setup} {s : Store}
    (h : (Setup.ofSettings settings).run.ComesTo .empty res s) :
    ∃ setup, res = .ok setup ∧ Setup.BindsEach setup.registries settings.registries ∧
      Setup.BindsEach setup.vendors settings.vendors ∧
      (∀ p ∈ settings.permissions, ∃ vendor registry, Setup.Permits settings setup vendor registry ∧
        (∃ r, setup.registries.get? registry = some r ∧ r.name = p.registry) ∧
          ∃ v, setup.vendors.get? vendor = some v ∧ v.name = p.vendor) ∧
      ∀ vendor registry res' s',
        (Directory.checkPermission vendor registry).run.ComesTo s res' s' →
          res' = .ok () ∧ Setup.Permits settings setup vendor registry ∨
          res' = .error (.forbidden (.supply vendor registry)) ∧
            ¬ Setup.Permits settings setup vendor registry := by
  obtain ⟨-, setup, rfl, hfulfilled⟩ :=
    Flow.post_of_comesTo (Setup.alone_ofSettings_empty hvalid hacceptable hfits) h
  refine ⟨setup, rfl, hfulfilled.registries, hfulfilled.vendors, fun p hp => ?_,
    fun vendor registry res' s' hcheck => ?_⟩
  · obtain ⟨hr, hv⟩ := Setup.mem_names_of_validate hvalid hp
    obtain ⟨registry, r, hget, hname⟩ := Setup.exists_bound_of_mem hfulfilled.registries hr
    obtain ⟨vendor, v, hget', hname'⟩ := Setup.exists_bound_of_mem hfulfilled.vendors hv
    exact ⟨vendor, registry, ⟨p, hp, ⟨r, hget, hname⟩, v, hget', hname'⟩, ⟨r, hget, hname⟩,
      v, hget', hname'⟩
  · have hcases : Alone (fun res' _ _ =>
        res' = .ok () ∧ Setup.Permits settings setup vendor registry ∨
        res' = .error (.forbidden (.supply vendor registry)) ∧
          ¬ Setup.Permits settings setup vendor registry)
        (Directory.checkPermission vendor registry) .outside s :=
      Directory.alone_checkPermission
        (fun hgiven => .inl ⟨rfl, (hfulfilled.mem_iff vendor registry).1 hgiven⟩)
        fun hmissing => .inr ⟨rfl, fun hp =>
          hmissing ((hfulfilled.mem_iff vendor registry).2 hp)⟩
    obtain ⟨-, hres⟩ := Flow.post_of_comesTo hcases hcheck
    exact hres

/-- Two registries, one of them with white space around its name, and a vendor for the other one. -/
def twoRegistries : Settings where
  registries := [⟨"North", "http://north", "key", "user", 10⟩,
    ⟨" South ", "http://south", "key", "user", 10⟩]
  vendors := [⟨"Cards", "http://cards", "host", "depot", 10⟩]
  permissions := [⟨"Cards", "North"⟩]
  tuning := .default

theorem setUp_of_twoRegistries : twoRegistries.validate = .ok () ∧
    Setup.Acceptable twoRegistries ∧ Setup.Fits twoRegistries ∧
    ∃ setup s, (Setup.ofSettings twoRegistries).run.ComesTo .empty (.ok setup) s ∧
      setup.registries.ids.length = 2 ∧
      ∃ vendor registry, Setup.Permits twoRegistries setup vendor registry := by
  have hvalid : twoRegistries.validate = .ok () := by decide
  have hacceptable : Setup.Acceptable twoRegistries :=
    ⟨by decide, by decide, by decide, by decide, by decide⟩
  have hfits : Setup.Fits twoRegistries := ⟨by decide, by decide⟩
  obtain ⟨res, s, hcomes⟩ := (Setup.ofSettings twoRegistries).run.exists_comesTo .empty
  obtain ⟨setup, rfl, hregistries, -, hpermits, -⟩ :=
    setUp_of_acceptable hvalid hacceptable hfits hcomes
  obtain ⟨vendor, registry, hpermit, -⟩ := hpermits ⟨"Cards", "North"⟩ (by decide)
  exact ⟨hvalid, hacceptable, hfits, setup, s, hcomes, hregistries.length, vendor, registry,
    hpermit⟩

/-- A registry without a name. -/
def namelessRegistry : Settings :=
  ⟨[⟨"", "http://north", "key", "user", 10⟩], [], [], .default⟩

/-- Settings with a blank name are valid, and no setup comes of them. -/
theorem not_setUp_of_namelessRegistry : namelessRegistry.validate = .ok () ∧
    ∀ setup s, ¬ (Setup.ofSettings namelessRegistry).run.ComesTo .empty (.ok setup) s := by
  refine ⟨by decide, fun setup s hcomes => ?_⟩
  have hfails : Alone (fun res _ _ => ∃ err, res = .error err)
      (Setup.ofSettings namelessRegistry) .outside .empty := ⟨_, rfl⟩
  obtain ⟨-, err, herr⟩ := Flow.post_of_comesTo hfails hcomes
  cases herr

end SimDepot
