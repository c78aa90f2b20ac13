import SimDepot.Sim.Basic

/-!
# Changes of a SIM

Every change of a stored SIM is one of the constructors of `SimChange`. A change has a guard, which
looks at the SIM as it stands, and is made only where the guard holds; the two happen together.
`SimChange.apply` never touches the card number, the subscriber identity, the pool, the vendor or
the batch of a SIM.
-/

namespace SimDepot

/-- A change of a stored SIM. -/
inductive SimChange
  /-- Records the identity of the chip, unless another one is recorded. -/
  | setEid (eid : String)
  /-- Assigns the subscriber number. -/
  | setMsisdn (msisdn : String)
  /-- Records what the registry knows. Only a released SIM can be active, and a SIM that becomes
  active is not suspended any more. -/
  | setRegistryState (state : RegistryState)
  /-- Records a deliberate suspension. -/
  | suspend (time : Timestamp)
  /-- Moves the vendor axis. A released SIM needs its matching id; a SIM goes back to raw stock only
  while it is neither claimed nor active, and loses its matching id. -/
  | setVendorState (state : VendorState)
  /-- Records that the vendor released the profile of a raw SIM. -/
  | release (matchingId : String)
  /-- Moves the claim axis. Only a released SIM can be claimed, and an active SIM stays claimed. -/
  | setProvisionState (state : ProvisionState)
  /-- Claims a SIM that is ready to use. -/
  | claim
  deriving DecidableEq, Repr

namespace SimChange

/-- What messages say is updated. -/
def label : SimChange → String
  | setEid _ => "EID"
  | setMsisdn _ => "MSISDN"
  | setRegistryState _ => "registry state"
  | suspend _ => "suspension"
  | setVendorState _ => "vendor state"
  | release _ => "vendor state and matching id"
  | setProvisionState _ => "provision state"
  | claim => "claim"

/-- The SIM admits the change. -/
def admits (s : SimData) : SimChange → Bool
  | setEid eid => s.eid.isNone || s.eid == some eid
  | setMsisdn _ => true
  | setRegistryState .activated => s.vendorState == .released
  | setRegistryState .notActivated => true
  | suspend _ => true
  | setVendorState .available =>
    s.provisionState == .available && s.registryState == .notActivated
  | setVendorState .released => s.matchingId.isSome
  | release _ => s.vendorState == .available
  | setProvisionState .provisioned => s.vendorState == .released
  | setProvisionState .available => s.registryState == .notActivated
  | claim => s.isReady

/-- The SIM after the change. -/
def apply (s : SimData) : SimChange → SimData
  | setEid eid => { s with eid := some eid }
  | setMsisdn msisdn => { s with msisdn := some msisdn }
  | setRegistryState .activated => { s with registryState := .activated, suspendedAt := none }
  | setRegistryState .notActivated => { s with registryState := .notActivated }
  | suspend time => { s with registryState := .notActivated, suspendedAt := some time }
  | setVendorState .available => { s with vendorState := .available, matchingId := none }
  | setVendorState .released => { s with vendorState := .released }
  | release matchingId => { s with vendorState := .released, matchingId := some matchingId }
  | setProvisionState state => { s with provisionState := state }
  | claim => { s with provisionState := .provisioned }

/-- A change keeps the card number. -/
@[simp] theorem iccid_apply (s : SimData) (c : SimChange) : (c.apply s).iccid = s.iccid := by
  cases c with
  | setRegistryState state => cases state <;> rfl
  | setVendorState state => cases state <;> rfl
  | _ => rfl

/-- A change keeps the pool. -/
@[simp] theorem pool_apply (s : SimData) (c : SimChange) : (c.apply s).pool = s.pool := by
  cases c with
  | setRegistryState state => cases state <;> rfl
  | setVendorState state => cases state <;> rfl
  | _ => rfl

end SimChange

/-- The SIM after a change; its identity stays. -/
def Sim.change (s : Sim) (c : SimChange) : Sim := { c.apply s.toSimData with id := s.id }

@[simp] theorem Sim.id_change (s : Sim) (c : SimChange) : (s.change c).id = s.id := rfl

@[simp] theorem Sim.toSimData_change (s : Sim) (c : SimChange) :
    (s.change c).toSimData = c.apply s.toSimData := rfl

end SimDepot
