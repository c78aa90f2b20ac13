import SimDepot.Id
import SimDepot.Text.Worded
import SimDepot.Time.Timestamp

/-!
# Import batches

Every import leaves a batch: opened before the first SIM is stored, closed once with the outcome.
-/

namespace SimDepot

/-- Where an import stands. -/
inductive BatchStatus
  /-- The import is running. -/
  | started
  /-- Every record was stored. -/
  | completed
  /-- Nothing was stored. -/
  | failed
  deriving DecidableEq, Repr

namespace BatchStatus

/-- The word for a status. -/
def word : BatchStatus → String
  | started => "STARTED"
  | completed => "COMPLETED"
  | failed => "FAILED"

instance : Worded BatchStatus := ⟨word, [started, completed, failed], "BatchStatus"⟩

theorem ofWord?_word (s : BatchStatus) : Worded.ofWord? s.word = some s := by
  cases s <;> decide

end BatchStatus

/-- The record of one import. -/
structure Batch where
  /-- Identity of the batch. -/
  id : BatchId
  /-- Who started the import. -/
  importer : String
  /-- The registry of the imported SIMs. -/
  registryId : RegistryId
  /-- The vendor of the imported SIMs. -/
  vendorId : VendorId
  /-- Number of SIMs stored, zero until the batch is closed. -/
  size : Int
  /-- Where the import stands. -/
  status : BatchStatus
  /-- When the batch was opened. -/
  startedAt : Timestamp
  /-- When the batch was closed. -/
  endedAt : Option Timestamp
  deriving DecidableEq, Repr

end SimDepot
