import SimDepot.Document.Record
import SimDepot.Json.Basic
import SimDepot.Sim.Basic

/-!
# SIMs as JSON

A SIM is an object with all of its fields; what is not known is null.
-/

namespace SimDepot.Sim

/-- The fields of a SIM. -/
def shape : Shape where
  title := "Model"
  fields := [
    .of "id" Decode.int64,
    .of "iccid" Decode.string,
    .of "imsi" Decode.string,
    .of "msisdn" (Decode.option Decode.string) .nullable,
    .of "eid" (Decode.option Decode.string) .nullable,
    .of "profile_type" Decode.string,
    .of "registry_id" Decode.int64,
    .of "vendor_id" Decode.int64,
    .of "batch_id" Decode.int64,
    .of "registry_state" (Decode.worded (α := RegistryState)),
    .of "vendor_state" (Decode.worded (α := VendorState)),
    .of "provision_state" (Decode.worded (α := ProvisionState)),
    .of "matching_id" (Decode.option Decode.string) .nullable,
    .of "suspended_at" (Decode.option Decode.timestamp) .nullable]

/-- The members of the JSON form of a SIM; `clock` writes the time of suspension. -/
def members (clock : Timestamp → String) (s : Sim) : List (String × Json) := [
  ("id", .integer s.id),
  ("iccid", .text s.iccid),
  ("imsi", .text s.imsi),
  ("msisdn", .ofText? s.msisdn),
  ("eid", .ofText? s.eid),
  ("profile_type", .text s.profileType),
  ("registry_id", .integer s.registryId),
  ("vendor_id", .integer s.vendorId),
  ("batch_id", .integer s.batchId),
  ("registry_state", .text s.registryState.word),
  ("vendor_state", .text s.vendorState.word),
  ("provision_state", .text s.provisionState.word),
  ("matching_id", .ofText? s.matchingId),
  ("suspended_at", .ofText? (s.suspendedAt.map clock))]

/-- The JSON form of a SIM. -/
def json (s : Sim) : Json := .object (s.members Rfc3339.write)

/-- The SIM that a document describes. -/
def decode : Decoder Sim := fun d => do
  let found ← shape.read .refused d
  return {
    id := ← found.get "id" Decode.int64
    iccid := ← found.get "iccid" Decode.string
    imsi := ← found.get "imsi" Decode.string
    msisdn := ← found.get "msisdn" (Decode.option Decode.string)
    eid := ← found.get "eid" (Decode.option Decode.string)
    profileType := ← found.get "profile_type" Decode.string
    registryId := ← found.get "registry_id" Decode.int64
    vendorId := ← found.get "vendor_id" Decode.int64
    batchId := ← found.get "batch_id" Decode.int64
    registryState := ← found.get "registry_state" Decode.worded
    vendorState := ← found.get "vendor_state" Decode.worded
    provisionState := ← found.get "provision_state" Decode.worded
    matchingId := ← found.get "matching_id" (Decode.option Decode.string)
    suspendedAt := ← found.get "suspended_at" (Decode.option Decode.timestamp) }

end SimDepot.Sim
