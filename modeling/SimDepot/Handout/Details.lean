import SimDepot.Service.Basic
import SimDepot.Sim.Json
import SimDepot.Stock.Lookup

/-!
# SIMs with their activation codes

Callers get a SIM together with the code that devices download its profile with, as soon as there is
one: the profile has to be released, and the vendor of the SIM has to be bound.

Reference: `describe`, `get_by_iccid`, `pending_activations`.
-/

namespace SimDepot

/-- A SIM and its activation code. -/
structure SimDetails where
  /-- The SIM. -/
  sim : Sim
  /-- The activation code, if there is one. -/
  code : Option String
  deriving DecidableEq, Repr

namespace SimDetails

/-- A SIM with the activation code that its vendor's host makes. -/
def describe (bindings : Bindings) (sim : Sim) : SimDetails where
  sim := sim
  code := (bindings.vendors.get? sim.vendorId).bind fun v => sim.activationCode v.host

/-- The JSON form: the members of the SIM and its activation code; `clock` writes the time of
suspension. -/
def jsonWith (clock : Timestamp → String) (d : SimDetails) : Json :=
  .object (d.sim.members clock ++ [("activation_code", .ofText? d.code)])

/-- The SIM with a card number. -/
def withIccid (bindings : Bindings) (iccid : String) : Action SimDetails :=
  return describe bindings (← Stock.withIccid iccid)

/-- The pending SIMs of a registry. -/
def pending (bindings : Bindings) (registry : RegistryId) : Action (List SimDetails) :=
  return (← Stock.pending registry).map (describe bindings)

end SimDetails

end SimDepot
