import SimDepot.Flow.Action

/-!
# The ledger of imports

A batch is opened, and closed once with the number of SIMs stored and the outcome. What a closed
batch says never changes.

Reference: `open_batch`, `close_batch`, `get_batch`, `list_batches`.
-/

namespace SimDepot.Batch

open SimDepot.Action

/-- The largest size that a batch can record. -/
def maxSize : Nat := 9223372036854775807

/-- Opens a batch. -/
def start (importer : String) (registry : RegistryId) (vendor : VendorId) : Action Batch := do
  insert .store (.openBatch importer registry vendor (← now)) fun b => read (.batch b.id)

/-- The batch with an identity. -/
def withId (id : BatchId) : Action Batch := do
  expect (← read (.batch id)) (.notFound (.batch id))

/-- The batches of a registry, the newest first. -/
def ofRegistry (registry : RegistryId) : Action (List Batch) := read (.batches registry)

/-- Closes a running batch. -/
def close (id : BatchId) (size : Nat) (status : BatchStatus) : Action Batch := do
  if status = .started then throw (.notUpdated (.closedAsStarted id))
  else if maxSize < size then throw (.system (.sizeOutOfRange id size))
  else
    let closed ← write (.closeBatch id size status (← now))
    let batch ← withId id
    if closed = 0 then throw (.notUpdated (.alreadyClosed id))
    return batch

end SimDepot.Batch
