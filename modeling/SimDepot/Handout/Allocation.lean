import SimDepot.Handout.Details
import SimDepot.Stock.Claim
import SimDepot.Stock.Update
import SimDepot.Text.Blank

/-!
# Handing SIMs out

An allocation claims a SIM, calls its registry and records the outcome, in this order and without a
transaction around the call. When the call fails the SIM stays claimed and is listed as pending;
`activate` is how an operator tries again. `suspend` takes a SIM out of service and keeps its claim.

Reference: `registry_adapter`, `allocate_next`, `activate_by_iccid`, `release_resource`.
-/

namespace SimDepot.Handout

open SimDepot.Action

/-- The service of a registry is bound. -/
def requireRegistry (bindings : Bindings) (registry : RegistryId) : Action Unit := do
  let _ ← expect (bindings.registries.get? registry) (.notFound (.registryService registry))

/-- Activates a SIM of a pool that was just claimed, and records the outcome. -/
def confirm (bindings : Bindings) (pool : Pool) (msisdn : String) (claimed : Sim) :
    Action SimDetails := do
  let claimed ← Stock.setMsisdn claimed.id msisdn
  Action.activate pool.registry claimed.iccid msisdn
  let activated ← Stock.setRegistryState claimed.id .activated
  return .describe bindings activated

/-- Claims the next SIM of a pool that is ready to use, and activates it with its registry. -/
def allocate (bindings : Bindings) (pool : Pool) (msisdn : String) : Action SimDetails := do
  requireRegistry bindings pool.registry
  if Text.isBlank msisdn then throw (.notUpdated .blankNumber)
  let claimed ← Stock.claim pool
  -- From here on the SIM is claimed, whatever comes of the rest.
  confirm bindings pool msisdn claimed

/-- The subscriber number to activate a SIM with: the one given, unless it is blank, else the one
that is stored. -/
def effectiveMsisdn? (given stored : Option String) : Option String :=
  (given.filter fun m => !Text.isBlank m).or stored

/-- Activates the SIM with the card number `iccid`, which was found, if it is one of the registry
and claimed. -/
def activateFound (bindings : Bindings) (registry : RegistryId) (iccid : String)
    (msisdn : Option String) (sim : Sim) : Action SimDetails := do
  if sim.registryId ≠ registry then throw (.notFound (.simOfRegistry iccid registry))
  if sim.vendorState ≠ .released then throw (.notUpdated (.unreleased iccid))
  if sim.provisionState ≠ .provisioned then throw (.notUpdated (.unallocated iccid))
  let msisdn ← expect (effectiveMsisdn? msisdn sim.msisdn) (.notUpdated (.numberless iccid))
  requireRegistry bindings registry
  -- A number that is stored already costs no write.
  if sim.msisdn ≠ some msisdn then
    let _ ← Stock.setMsisdn sim.id msisdn
  Action.activate registry sim.iccid msisdn
  let activated ← Stock.setRegistryState sim.id .activated
  return .describe bindings activated

/-- Activates a claimed SIM with its registry. -/
def activate (bindings : Bindings) (registry : RegistryId) (iccid : String)
    (msisdn : Option String) : Action SimDetails := do
  activateFound bindings registry iccid msisdn (← Stock.withIccid iccid)

/-- Suspends a SIM with its registry. -/
def suspend (bindings : Bindings) (iccid : String) : Action SimDetails := do
  let sim ← Stock.withIccid iccid
  requireRegistry bindings sim.registryId
  Action.suspend sim.registryId sim.iccid
  let suspended ← Stock.markSuspended sim.id
  return .describe bindings suspended

end SimDepot.Handout
