import SimDepot.Id
import SimDepot.IdMap

/-!
# Bound services

An operation finds the service of a registry or vendor under the identity of its entry. What it sees
of a service is its name and, for a vendor, the host that devices download profiles from.
-/

namespace SimDepot

/-- What a vendor hands out for a SIM whose profile it releases. -/
structure Release where
  /-- The token that goes into the activation code. -/
  matchingId : String
  /-- Identity of the chip, if the vendor knows it. -/
  eid : Option String
  deriving DecidableEq, Repr

/-- A registry service, as operations see it. -/
structure RegistryBinding where
  /-- The name of the service. -/
  name : String
  deriving DecidableEq, Repr

/-- A vendor service, as operations see it. -/
structure VendorBinding where
  /-- The name of the service. -/
  name : String
  /-- The host that devices download profiles from. -/
  host : String
  deriving DecidableEq, Repr

/-- The services that operations can call. -/
structure Bindings where
  /-- The registry services, by registry. -/
  registries : IdMap RegistryBinding
  /-- The vendor services, by vendor. -/
  vendors : IdMap VendorBinding

namespace Bindings

/-- No services. -/
def empty : Bindings := ⟨.empty, .empty⟩

instance : Inhabited Bindings := ⟨empty⟩

/-- The identities that services are bound to, as text: registries first, both ascending. -/
def summary (b : Bindings) : String :=
  "AdapterSet \x7b registries: " ++ listed b.registries.ids ++ ", vendors: " ++
    listed b.vendors.ids ++ " \x7d"
where
  /-- Identities between brackets. -/
  listed (ids : List Int) : String := "[" ++ ", ".intercalate (ids.map toString) ++ "]"

end Bindings

end SimDepot
