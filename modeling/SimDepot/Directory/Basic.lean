import SimDepot.Id

/-!
# The directory of external services

The depot works with subscriber registries and with profile vendors. Each has an entry with a name
that is unique in its role, and a vendor may only supply the registries it is permitted for.
-/

namespace SimDepot

/-- What an external service does for the depot. -/
inductive Role
  /-- Keeps subscribers and serves SIMs. -/
  | registry
  /-- Releases profiles. -/
  | vendor
  deriving DecidableEq, Repr

/-- The entry of an external service. -/
structure Entry where
  /-- Identity of the service in its role. -/
  id : Int
  /-- Name of the service. -/
  name : String
  deriving DecidableEq, Repr

/-- A vendor may supply a registry. -/
structure Permission where
  /-- The permitted vendor. -/
  vendorId : VendorId
  /-- The registry it may supply. -/
  registryId : RegistryId
  deriving DecidableEq, Repr

end SimDepot
