import SimDepot.Flow.Action

/-!
# Health of the registries

Every bound registry service is asked whether it is well, in the order of identities.

Reference: `registry_health`.
-/

namespace SimDepot.Service

/-- The names of registry services, each with whether it is well. -/
def probeAll : List (RegistryId × RegistryBinding) → Flow (List (String × Bool))
  | [] => return []
  | (id, service) :: rest => do
    let well ← Flow.request (.probe id)
    return (service.name, well) :: (← probeAll rest)

/-- The health of every bound registry service. -/
def health (bindings : Bindings) : Flow (List (String × Bool)) :=
  probeAll bindings.registries.pairs

end SimDepot.Service
