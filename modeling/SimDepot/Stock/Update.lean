import SimDepot.Flow.Action

/-!
# Updating SIMs

An update is one guarded command. When it is done the SIM is read again: a SIM that does not exist
is reported missing, and one whose state did not admit the change is reported unchanged.

Reference: `finish_update`, `set_eid`, `set_msisdn`, `set_registry_state`, `mark_suspended`,
`set_vendor_state`, `set_vendor_state_and_matching_id`, `set_provision_state`.
-/

namespace SimDepot.Stock

open SimDepot.Action

/-- Changes a SIM, if it admits the change, and returns the SIM as it is now. -/
def update (id : SimId) (change : SimChange) : Action Sim := do
  let changed ← write (.changeSim id change)
  let sim ← expect (← read (.sim (.withId id))) (.notFound (.simToUpdate id change.label))
  if changed = 0 then throw (.notUpdated (.rejected id change.label))
  return sim

/-- Records the identity of the chip. -/
def setEid (id : SimId) (eid : String) : Action Sim := update id (.setEid eid)

/-- Assigns the subscriber number. -/
def setMsisdn (id : SimId) (msisdn : String) : Action Sim := update id (.setMsisdn msisdn)

/-- Records what the registry knows. -/
def setRegistryState (id : SimId) (state : RegistryState) : Action Sim :=
  update id (.setRegistryState state)

/-- Records that the SIM was deliberately suspended just now. -/
def markSuspended (id : SimId) : Action Sim := do
  update id (.suspend (← now))

/-- Moves the vendor axis. -/
def setVendorState (id : SimId) (state : VendorState) : Action Sim :=
  update id (.setVendorState state)

/-- Records that the vendor released the profile, with its matching id. -/
def setReleased (id : SimId) (matchingId : String) : Action Sim := update id (.release matchingId)

/-- Moves the claim axis. -/
def setProvisionState (id : SimId) (state : ProvisionState) : Action Sim :=
  update id (.setProvisionState state)

end SimDepot.Stock
