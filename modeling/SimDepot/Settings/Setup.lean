import SimDepot.Directory.Upkeep
import SimDepot.Settings.Basic

/-!
# Setting up the depot

Settings are put into effect by making sure that every service has an entry and every permission is
stored, and by binding each service to its entry. Doing so again changes nothing as long as the
names are trimmed.

Reference: `from_settings`.
-/

namespace SimDepot

/-- The services that settings bind, by the identities of their entries, and the tuning. -/
structure Setup where
  /-- The registries. -/
  registries : IdMap RegistrySettings
  /-- The vendors. -/
  vendors : IdMap VendorSettings
  /-- How reconciliation is tuned. -/
  tuning : Tuning

namespace Setup

open SimDepot.Action

/-- Binds every registry of a list to its entry, in addition to those bound already. -/
def bindRegistries (bound : IdMap RegistrySettings) :
    List RegistrySettings → Action (IdMap RegistrySettings)
  | [] => return bound
  | r :: rest => do
    let entry ← Directory.ensure .registry r.name
    bindRegistries (bound.insert entry.id r) rest

/-- Binds every vendor of a list to its entry, in addition to those bound already. -/
def bindVendors (bound : IdMap VendorSettings) :
    List VendorSettings → Action (IdMap VendorSettings)
  | [] => return bound
  | v :: rest => do
    let entry ← Directory.ensure .vendor v.name
    bindVendors (bound.insert entry.id v) rest

/-- Makes sure that a permission is stored. -/
def grant (p : PermissionSettings) : Action Unit := do
  let registry ← Directory.named .registry p.registry
  let vendor ← Directory.named .vendor p.vendor
  match ← attempt (Directory.permit vendor.id registry.id) with
  | .ok _ | .error (.alreadyExists _) => return
  | .error e => throw e

/-- Puts settings into effect. -/
def ofSettings (s : Settings) : Action Setup := do
  let registries ← bindRegistries .empty s.registries
  let vendors ← bindVendors .empty s.vendors
  s.permissions.forM grant
  return { registries, vendors, tuning := s.tuning }

/-- The services, as operations see them. -/
def bindings (s : Setup) : Bindings where
  registries := s.registries.map fun r => ⟨r.name⟩
  vendors := s.vendors.map fun v => ⟨v.name, v.activationHost⟩

end Setup

end SimDepot
