import SimDepot.Id
import SimDepot.Sim.State
import SimDepot.Time.Timestamp

/-!
# SIM cards

A SIM belongs to one registry, is supplied by one vendor and was stored by one import. SIMs of one
registry with the same profile type form a pool.

Reference: `activation_code`, `is_pending_activation`.
-/

namespace SimDepot

/-- The SIMs of one registry that share a profile type. -/
structure Pool where
  /-- The registry of the pool. -/
  registry : RegistryId
  /-- The name of the profile type. -/
  profile : String
  deriving DecidableEq, Repr

/-- What is stored of a SIM besides its identity. -/
structure SimData where
  /-- Number of the card, different for all SIMs. -/
  iccid : String
  /-- Identity of the subscriber. -/
  imsi : String
  /-- Number of the subscriber, once assigned. -/
  msisdn : Option String
  /-- Identity of the chip, written once. -/
  eid : Option String
  /-- Name of the profile type. -/
  profileType : String
  /-- The registry that owns the SIM. -/
  registryId : RegistryId
  /-- The vendor that holds the profile. -/
  vendorId : VendorId
  /-- The import that stored the SIM. -/
  batchId : BatchId
  /-- What the registry knows. -/
  registryState : RegistryState
  /-- Whether the vendor has released the profile. -/
  vendorState : VendorState
  /-- Whether the SIM has been claimed. -/
  provisionState : ProvisionState
  /-- The vendor's token for a released profile. -/
  matchingId : Option String
  /-- When the SIM was deliberately suspended. -/
  suspendedAt : Option Timestamp
  deriving DecidableEq, Repr

/-- A stored SIM. -/
structure Sim extends SimData where
  /-- Identity in the store. -/
  id : SimId
  deriving DecidableEq, Repr

namespace SimData

/-- The pool a SIM belongs to. -/
def pool (s : SimData) : Pool := ⟨s.registryId, s.profileType⟩

/-- The code a device downloads the profile with, given the vendor's download host. It exists once
the vendor has released the profile. -/
def activationCode (s : SimData) (host : String) : Option String :=
  match s.vendorState, s.matchingId with
  | .released, some m => some ("LPA:" ++ host ++ ":" ++ m)
  | _, _ => none

/-- A SIM is pending when it was claimed and its registry never confirmed the activation, unless it
was suspended deliberately. -/
def isPending (s : SimData) : Bool :=
  s.provisionState == .provisioned && s.registryState == .notActivated && s.suspendedAt.isNone

/-- Raw stock of a pool: the vendor has not released the profile. -/
def isRaw (s : SimData) : Bool := s.vendorState == .available

/-- Ready to use: released and not claimed. -/
def isReady (s : SimData) : Bool := s.vendorState == .released && s.provisionState == .available

end SimData

end SimDepot
