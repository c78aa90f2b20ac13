import SimDepot.Flow.Action
import SimDepot.Text.Blank

/-!
# Upkeep of the directory

Entries are stored under their trimmed names and looked up by names as given. `ensure` stores an
entry or finds the one that has its name. A vendor is permitted for a registry once, after both were
found. What was stored is read again, in a statement of its own, before it is returned.

Reference: `add_registry`, `get_registry_by_name`, `get_registry_by_id`, `ensure_registry`,
`list_registries`, `profile_names_for_registry`, `add_profile_vendor`, `get_profile_vendor_by_name`,
`get_profile_vendor_by_id`, `ensure_profile_vendor`, `list_profile_vendors`,
`permit_vendor_for_registry`, `check_vendor_permission`.
-/

namespace SimDepot.Directory

open SimDepot.Action

/-- Stores an entry; its name may not be blank. -/
def add (role : Role) (name : String) : Action Entry :=
  let blame := Error.ofInsertion (.entry role name)
  if Text.isBlank name then throw (.notCreated (.blankName role))
  else insert blame (.addEntry role (Text.trim name)) fun e => readOr blame (.entryWithId role e.id)

/-- The entry with a name. -/
def named (role : Role) (name : String) : Action Entry := do
  expect (← read (.entryNamed role name)) (.notFound (.entryNamed role name))

/-- The entry with an identity. -/
def withId (role : Role) (id : Int) : Action Entry := do
  expect (← read (.entryWithId role id)) (.notFound (.entryWithId role id))

/-- The entry with a name, stored if there is none. -/
def ensure (role : Role) (name : String) : Action Entry :=
  tryCatch (add role name) fun
    | .alreadyExists _ => named role name
    | e => throw e

/-- Every entry of a role, in the order of identities. -/
def list (role : Role) : Action (List Entry) := read (.entries role)

/-- Permits a vendor for a registry. -/
def permit (vendor : VendorId) (registry : RegistryId) : Action Permission := do
  let _ ← withId .vendor vendor
  let _ ← withId .registry registry
  let blame := Error.ofInsertion (.permission vendor registry)
  insert blame (.addPermission ⟨vendor, registry⟩) fun p => readOr blame (.permission p)

/-- Succeeds when a vendor is permitted for a registry. -/
def checkPermission (vendor : VendorId) (registry : RegistryId) : Action Unit := do
  let permission ← read (.permission ⟨vendor, registry⟩)
  let _ ← expect permission (.forbidden (.supply vendor registry))

/-- The profile types of the SIMs of a registry. -/
def profileTypes (registry : RegistryId) : Action (List String) := read (.profileTypes registry)

end SimDepot.Directory
