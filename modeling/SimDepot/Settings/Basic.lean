import SimDepot.Settings.Flaw

/-!
# Settings

Settings list the external services, say which vendor may supply which registry, and tune
reconciliation. `Settings.validate` accepts them when names do not repeat within a role, every
permission names services that are listed, and reconciliation pauses between two passes; of several
flaws it reports the first in this order.

Reference: `validate`, `interval`.
-/

namespace SimDepot

/-- How to reach a registry. -/
structure RegistrySettings where
  /-- Name of the registry. -/
  name : String
  /-- Address that the paths of requests are appended to. -/
  endpoint : String
  /-- Key sent with every request. -/
  apiKey : String
  /-- User named in activations. -/
  userId : String
  /-- How long a request may take, in seconds. -/
  timeoutSecs : Nat
  deriving DecidableEq, Repr

/-- How to reach a vendor. -/
structure VendorSettings where
  /-- Name of the vendor. -/
  name : String
  /-- Address that the paths of requests are appended to. -/
  endpoint : String
  /-- Host that devices download profiles from. -/
  activationHost : String
  /-- Who asks, as told in every request. -/
  requesterId : String
  /-- How long a request may take, in seconds. -/
  timeoutSecs : Nat
  deriving DecidableEq, Repr

/-- A vendor may supply a registry, both by name. -/
structure PermissionSettings where
  /-- Name of the vendor. -/
  vendor : String
  /-- Name of the registry. -/
  registry : String
  deriving DecidableEq, Repr

/-- How reconciliation is tuned. -/
structure Tuning where
  /-- Seconds between two passes. -/
  intervalSecs : Nat
  /-- A pool with fewer SIMs ready to use is topped up. -/
  lowWaterMark : Nat
  /-- How many releases one pass asks for in one pool, at most. -/
  maxToAllocate : Nat
  deriving DecidableEq, Repr

namespace Tuning

/-- The tuning where settings say nothing. -/
def default : Tuning := ⟨300, 50, 10⟩

instance : Inhabited Tuning := ⟨default⟩

/-- The time between two passes, in seconds. -/
def interval (t : Tuning) : Nat := t.intervalSecs

end Tuning

/-- How long a request may take where settings do not say, in seconds. -/
def defaultTimeoutSecs : Nat := 10

/-- Everything that can be set. -/
structure Settings where
  /-- The registries. -/
  registries : List RegistrySettings
  /-- The vendors. -/
  vendors : List VendorSettings
  /-- Which vendor may supply which registry. -/
  permissions : List PermissionSettings
  /-- How reconciliation is tuned. -/
  tuning : Tuning
  deriving DecidableEq, Repr

namespace Settings

/-- The names of the registries, in the order listed. -/
def registryNames (s : Settings) : List String := s.registries.map (·.name)

/-- The names of the vendors, in the order listed. -/
def vendorNames (s : Settings) : List String := s.vendors.map (·.name)

/-- A name occurs twice in a list. -/
def hasDuplicate : List String → Bool
  | [] => false
  | n :: rest => rest.contains n || hasDuplicate rest

/-- A list has a duplicate unless its names are pairwise different. -/
theorem hasDuplicate_eq_false_iff {names : List String} :
    hasDuplicate names = false ↔ names.Nodup := by
  induction names with
  | nil => simp [hasDuplicate]
  | cons n rest ih => simp [hasDuplicate, ih]

/-- The flaw of a permission, if it has one; the registry is looked at first. -/
def permissionFlaw? (s : Settings) (p : PermissionSettings) : Option SettingsFlaw :=
  if !s.registryNames.contains p.registry then some (.unknownRegistry p.vendor p.registry)
  else if !s.vendorNames.contains p.vendor then some (.unknownVendor p.registry p.vendor)
  else none

/-- The first flaw of settings, if they have one. -/
def flaw? (s : Settings) : Option SettingsFlaw :=
  if hasDuplicate s.registryNames then some (.duplicateName .registry)
  else if hasDuplicate s.vendorNames then some (.duplicateName .vendor)
  else match s.permissions.findSome? s.permissionFlaw? with
    | some flaw => some flaw
    | none => if s.tuning.intervalSecs = 0 then some .zeroInterval else none

/-- Accepts settings without flaw. -/
def validate (s : Settings) : Except SettingsFlaw Unit :=
  match s.flaw? with
  | some flaw => .error flaw
  | none => .ok ()

end Settings

end SimDepot
