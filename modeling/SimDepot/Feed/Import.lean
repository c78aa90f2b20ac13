import SimDepot.Batch.Ledger
import SimDepot.Directory.Upkeep
import SimDepot.Feed.Record
import SimDepot.Stock.Intake

/-!
# Importing a feed

A feed is imported as one batch, for a registry and a vendor that is permitted for it. A record with
a blank field or a card number that is taken fails the whole import: nothing is stored, the batch is
closed as failed, and the first error is reported, whatever comes of closing the batch.

Reference: `into_active_model`, `store_records`, `fail_batch`, `import_batch`.
-/

namespace SimDepot

/-- The SIM that a record describes, as it is stored: trimmed, and with a subscriber number only
where the record has one that is not blank. -/
def FeedRecord.draft (r : FeedRecord) (registry : RegistryId) (vendor : VendorId)
    (batch : BatchId) : SimDraft where
  iccid := Text.trim r.iccid
  imsi := Text.trim r.imsi
  msisdn := r.msisdn.filter fun m => !Text.isBlank m
  eid := none
  profileType := Text.trim r.profileType
  registryId := registry
  vendorId := vendor
  batchId := batch
  registryState := .notActivated
  vendorState := .available
  provisionState := .available
  matchingId := none
  suspendedAt := none
  id? := none

namespace Feed

open SimDepot.Action

/-- The first line with a blank field, and the field; lines are numbered from `line` on. -/
def blankField? (line : Nat) : List FeedRecord → Option (Nat × RecordField)
  | [] => none
  | r :: rest =>
    match r.blankField? with
    | some field => some (line, field)
    | none => blankField? (line + 1) rest

/-- Stores the SIMs of a feed under a batch, and returns their number. -/
def store (records : List FeedRecord) (registry : RegistryId) (vendor : VendorId)
    (batch : BatchId) : Action Nat :=
  match blankField? 1 records with
  | some (line, field) => throw (.notCreated (.blankField line field))
  | none => Stock.insertAll (records.map fun r => r.draft registry vendor batch)

/-- Imports a feed whose vendor is admitted, and returns the closed batch. -/
def intake (records : List FeedRecord) (registry : RegistryId) (vendor : VendorId)
    (importer : String) : Action Batch := do
  let batch ← Batch.start importer registry vendor
  match ← attempt (store records registry vendor batch.id) with
  | .ok size => Batch.close batch.id size .completed
  | .error e =>
    -- The first error is the one to report, even if the batch cannot be closed.
    let _ ← attempt (Batch.close batch.id 0 .failed)
    throw e

/-- Imports a feed and returns the closed batch. -/
def importAll (records : List FeedRecord) (registry : RegistryId) (vendor : VendorId)
    (importer : String) : Action Batch := do
  let _ ← Directory.withId .registry registry
  let _ ← Directory.withId .vendor vendor
  Directory.checkPermission vendor registry
  intake records registry vendor importer

end Feed

end SimDepot
