import SimDepot.Error.Cause

/-!
# Errors

An error has one of eleven kinds and a cause. Callers are told less: `outcome` sorts the kinds into
four, and `publicMessage` leaves out what happened inside the store and the services.

Reference: `outcome`, `public_message`, `from_insert`.
-/

namespace SimDepot

/-- Why an operation failed. -/
inductive Error
  /-- What was asked for does not exist. -/
  | notFound (what : Missing)
  /-- A unique value is taken. -/
  | alreadyExists (what : Taken)
  /-- Nothing was created. -/
  | notCreated (why : Uncreated)
  /-- Something exists and was not updated. -/
  | notUpdated (why : Unchanged)
  /-- Nothing was deleted. -/
  | notDeleted (text : String)
  /-- The request is not allowed. -/
  | forbidden (why : Refused)
  /-- The call of an external service failed; `service` is its name. -/
  | service (service : String) (fault : ServiceFault)
  /-- The store failed. -/
  | store (failure : StoreFailure)
  /-- Something went wrong that has no kind of its own. -/
  | system (what : Breakdown)
  /-- The settings are not usable. -/
  | settings (flaw : SettingsFlaw)
  /-- An operation on files failed. -/
  | file (failure : FileFailure)
  deriving DecidableEq, Repr

/-- What a caller gets to know of an error. -/
inductive Outcome
  /-- Nothing matched the request. -/
  | notFound
  /-- The request collided with what is stored. -/
  | conflict
  /-- An external service could not be reached. -/
  | serviceUnavailable
  /-- Anything else. -/
  | internal
  deriving DecidableEq, Repr

/-- The word for an outcome. -/
def Outcome.word : Outcome → String
  | notFound => "NotFound"
  | conflict => "Conflict"
  | serviceUnavailable => "UpstreamUnavailable"
  | internal => "Internal"

namespace Error

/-- The full text of an error. -/
def message : Error → String
  | notFound what => "Not found: " ++ what.message
  | alreadyExists what => "Already exists: " ++ what.message
  | notCreated why => "Not created: " ++ why.message
  | notUpdated why => "Not updated: " ++ why.message
  | notDeleted text => "Not deleted: " ++ text
  | forbidden why => "Forbidden: " ++ why.message
  | service name fault => "Adapter error (" ++ name ++ "): " ++ fault.message
  | store failure => "Database error: " ++ failure.message
  | system what => "System error: " ++ what.message
  | settings flaw => "Configuration error: " ++ flaw.message
  | file failure => "I/O error: " ++ failure.message

/-- What a caller gets to know of an error. -/
def outcome : Error → Outcome
  | notFound _ => .notFound
  | alreadyExists _ | notCreated _ | notUpdated _ | notDeleted _ | forbidden _ => .conflict
  | service .. => .serviceUnavailable
  | store _ | system _ | settings _ | file _ => .internal

/-- The text that a caller may see: nothing of what happened inside the store or a service. -/
def publicMessage : Error → String
  | service name _ => "Upstream service " ++ name ++ " is unavailable"
  | store _ | system _ | settings _ | file _ => "Internal error"
  | e => e.message

/-- The error of an insertion that failed: `taken` tells what a repeated value means. -/
def ofInsertion (taken : String → Taken) : StoreFailure → Error
  | .refused _ (.duplicate columns) => alreadyExists (taken columns)
  | failure => store failure

end Error

end SimDepot
