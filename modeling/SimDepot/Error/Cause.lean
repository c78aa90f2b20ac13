import SimDepot.Directory.Basic
import SimDepot.Http.Failure
import SimDepot.Settings.Flaw
import SimDepot.Sim.Basic
import SimDepot.Store.Failure
import SimDepot.Text.Worded

/-!
# Causes of errors

What can go wrong, by the kind of error it makes: each cause names the row, the pool or the service
concerned, and `message` is its wording. Every kind has a cause `stated`, for texts that come from
outside.
-/

namespace SimDepot

/-- How messages call an entry of a role. -/
def Role.entryTitle : Role → String
  | .registry => "registry"
  | .vendor => "SIM profile vendor"

/-- How messages call an entry of a role at the start of a sentence. -/
def Role.entryHeading : Role → String
  | .registry => "Registry"
  | .vendor => "Profile vendor"

/-- What was looked for and is not there. -/
inductive Missing
  /-- No entry has this name. -/
  | entryNamed (role : Role) (name : String)
  /-- No entry has this identity. -/
  | entryWithId (role : Role) (id : Int)
  /-- No SIM has this identity. -/
  | simWithId (id : SimId)
  /-- No SIM has this card number. -/
  | simWithIccid (iccid : String)
  /-- No SIM has this subscriber identity. -/
  | simWithImsi (imsi : String)
  /-- No SIM has this subscriber number. -/
  | simWithMsisdn (msisdn : String)
  /-- No SIM has this identity, so that `what` could not be updated. -/
  | simToUpdate (id : SimId) (what : String)
  /-- The SIM with this card number belongs to another registry. -/
  | simOfRegistry (iccid : String) (registry : RegistryId)
  /-- The pool holds no raw stock. -/
  | rawSim (pool : Pool)
  /-- The pool holds nothing that is ready to use. -/
  | readySim (pool : Pool)
  /-- No batch has this identity. -/
  | batch (id : BatchId)
  /-- No service is bound to this registry. -/
  | registryService (id : RegistryId)
  /-- Something known by its text only. -/
  | stated (text : String)
  deriving DecidableEq, Repr

/-- The text of what is missing. -/
def Missing.message : Missing → String
  | entryNamed role name => "Found no " ++ role.entryTitle ++ " with name " ++ name
  | entryWithId role id => "Found no " ++ role.entryTitle ++ " with id " ++ toString id
  | simWithId id => "Found no SIM for id " ++ toString id
  | simWithIccid iccid => "Found no SIM for ICCID " ++ iccid
  | simWithImsi imsi => "Found no SIM for IMSI " ++ imsi
  | simWithMsisdn msisdn => "Found no SIM for MSISDN " ++ msisdn
  | simToUpdate id what =>
    "Found no SIM for id " ++ toString id ++ ", update of " ++ what ++ " failed"
  | simOfRegistry iccid registry =>
    "Found no SIM for ICCID " ++ iccid ++ " in registry id " ++ toString registry
  | rawSim pool =>
    "No unprovisioned SIM available for registry id " ++ toString pool.registry ++
      " and profile " ++ pool.profile
  | readySim pool =>
    "No ready to use SIM available for registry id " ++ toString pool.registry ++
      " and profile " ++ pool.profile
  | batch id => "Found no information about import batch with id " ++ toString id
  | registryService id => "No registry adapter configured for registry id " ++ toString id
  | stated text => text

/-- What is already there; `columns` tells the columns that may not repeat. -/
inductive Taken
  /-- The name of an entry. -/
  | entry (role : Role) (name columns : String)
  /-- A permission. -/
  | permission (vendor : VendorId) (registry : RegistryId) (columns : String)
  /-- The card number of a SIM. -/
  | sim (columns : String)
  /-- Something known by its text only. -/
  | stated (text : String)
  deriving DecidableEq, Repr

/-- How messages call columns whose values may not repeat. -/
def Taken.inColumns (columns : String) : String :=
  " (" ++ (Refusal.duplicate columns).text ++ ")"

/-- The text of what is taken. -/
def Taken.message : Taken → String
  | entry role name columns => role.entryHeading ++ " '" ++ name ++ "'" ++ inColumns columns
  | permission vendor registry columns =>
    "Permission for vendor " ++ toString vendor ++ " on registry " ++ toString registry ++
      inColumns columns
  | sim columns => "SIM resource ICCID" ++ inColumns columns
  | stated text => text

/-- A field of a feed record that may not be blank. -/
inductive RecordField
  /-- The card number. -/
  | iccid
  /-- The subscriber identity. -/
  | imsi
  /-- The profile type. -/
  | profileType
  deriving DecidableEq, Repr

/-- How messages call a field of a feed record. -/
def RecordField.title : RecordField → String
  | iccid => "ICCID"
  | imsi => "IMSI"
  | profileType => "profile type"

/-- Why nothing was created. -/
inductive Uncreated
  /-- An entry was to have a blank name. -/
  | blankName (role : Role)
  /-- A record of a feed, by its line, has a blank field. -/
  | blankField (line : Nat) (field : RecordField)
  /-- A reason known by its text only. -/
  | stated (text : String)
  deriving DecidableEq, Repr

/-- The text of the reason. -/
def Uncreated.message : Uncreated → String
  | blankName role => role.entryHeading ++ " name cannot be empty"
  | blankField line field =>
    "Record " ++ toString line ++ " of import has an empty " ++ field.title
  | stated text => text

/-- Why nothing was updated. -/
inductive Unchanged
  /-- The SIM is not in a state that admits the update of `what`. -/
  | rejected (id : SimId) (what : String)
  /-- The batch was closed before. -/
  | alreadyClosed (id : BatchId)
  /-- A batch cannot be closed as one that is running. -/
  | closedAsStarted (id : BatchId)
  /-- An allocation needs a subscriber number. -/
  | blankNumber
  /-- The vendor has not released the profile of the SIM. -/
  | unreleased (iccid : String)
  /-- Nobody has claimed the SIM. -/
  | unallocated (iccid : String)
  /-- The SIM has no subscriber number. -/
  | numberless (iccid : String)
  /-- A registry was to activate a SIM without card number. -/
  | activationWithoutIccid (registry : String)
  /-- A registry was to suspend a SIM without card number. -/
  | suspensionWithoutIccid (registry : String)
  /-- A reason known by its text only. -/
  | stated (text : String)
  deriving DecidableEq, Repr

/-- The text of the reason. -/
def Unchanged.message : Unchanged → String
  | rejected id what =>
    "Update of " ++ what ++ " for SIM id " ++ toString id ++ " was rejected by its current state"
  | alreadyClosed id => "Import batch " ++ toString id ++ " is already closed"
  | closedAsStarted id => "Import batch " ++ toString id ++ " cannot be closed as STARTED"
  | blankNumber => "Allocation requires an MSISDN"
  | unreleased iccid =>
    "SIM with ICCID " ++ iccid ++ " has no released profile and cannot be activated"
  | unallocated iccid =>
    "SIM with ICCID " ++ iccid ++ " has not been allocated and cannot be activated"
  | numberless iccid => "SIM with ICCID " ++ iccid ++ " has no MSISDN to activate with"
  | activationWithoutIccid registry =>
    "Empty ICCID value in SIM activation request to registry " ++ registry
  | suspensionWithoutIccid registry =>
    "Empty ICCID value in SIM deactivation request to registry " ++ registry
  | stated text => text

/-- Why something is not allowed. -/
inductive Refused
  /-- The vendor may not supply the registry. -/
  | supply (vendor : VendorId) (registry : RegistryId)
  /-- A reason known by its text only. -/
  | stated (text : String)
  deriving DecidableEq, Repr

/-- The text of the reason. -/
def Refused.message : Refused → String
  | supply vendor registry =>
    "Using SIM profile vendor id " ++ toString vendor ++ " with registry id " ++
      toString registry ++ " is not allowed"
  | stated text => text

/-- What an external service was asked to do with a SIM, as requests name it. -/
inductive ServiceCall
  /-- Serve the SIM. -/
  | activate
  /-- Stop serving the SIM. -/
  | deactivate
  /-- Order a profile for the SIM. -/
  | downloadOrder
  /-- Confirm the order of a profile. -/
  | confirmOrder
  deriving DecidableEq, Repr

/-- The word for a call. -/
def ServiceCall.word : ServiceCall → String
  | activate => "activate"
  | deactivate => "deactivate"
  | downloadOrder => "downloadOrder"
  | confirmOrder => "confirmOrder"

/-- Why a call of an external service failed. -/
inductive ServiceFault
  /-- The request of a registry got no answer. -/
  | registryUnreachable (call : ServiceCall) (iccid : String) (failure : HttpFailure)
  /-- The registry answered with a status that was not hoped for. -/
  | registryStatus (call : ServiceCall) (iccid : String) (status : Nat)
  /-- The request of a vendor got no answer. -/
  | vendorUnreachable (call : ServiceCall) (iccid : String) (failure : HttpFailure)
  /-- The vendor answered with a status that is no success. -/
  | vendorStatus (call : ServiceCall) (iccid : String) (status : Nat)
  /-- The answer of the vendor has a body that is not the one that was asked for. -/
  | vendorBody (call : ServiceCall) (iccid : String) (failure : HttpFailure)
  /-- The vendor did not execute the call. -/
  | notExecuted (call : ServiceCall) (iccid : String) (status : String)
  /-- The vendor answered for another SIM. -/
  | otherIccid (iccid : String)
  /-- The vendor confirmed the order and gave no matching id. -/
  | noMatchingId (iccid : String)
  /-- A fault known by its text only. -/
  | stated (text : String)
  deriving DecidableEq, Repr

/-- The text of a fault. -/
def ServiceFault.message : ServiceFault → String
  | registryUnreachable call iccid failure =>
    call.word ++ " request for ICCID " ++ iccid ++ " failed: " ++ failure.message
  | registryStatus call iccid status =>
    "Failed to " ++ call.word ++ " ICCID " ++ iccid ++ " (status-code: " ++ toString status ++ ")"
  | vendorUnreachable call iccid failure =>
    call.word ++ " for ICCID " ++ iccid ++ " failed: " ++ failure.message
  | vendorStatus call iccid status =>
    call.word ++ " for ICCID " ++ iccid ++ " failed (status-code: " ++ toString status ++ ")"
  | vendorBody call iccid failure =>
    call.word ++ " for ICCID " ++ iccid ++ " returned an unreadable body: " ++ failure.message
  | notExecuted call iccid status =>
    call.word ++ " for ICCID " ++ iccid ++ " was not executed (status: " ++ status ++ ")"
  | otherIccid iccid => "downloadOrder for ICCID " ++ iccid ++ " answered for a different ICCID"
  | noMatchingId iccid => "confirmOrder for ICCID " ++ iccid ++ " returned no matching id"
  | stated text => text

/-- What went wrong inside the depot. -/
inductive Breakdown
  /-- The size of a batch is beyond what a batch can record. -/
  | sizeOutOfRange (id : BatchId) (size : Nat)
  /-- Every attempt to claim a SIM of the pool came to nothing. -/
  | claimGivenUp (pool : Pool) (attempts : Nat)
  /-- No service is bound to this vendor. -/
  | vendorService (id : VendorId)
  /-- Something known by its text only. -/
  | stated (text : String)
  deriving DecidableEq, Repr

/-- The text of what went wrong. -/
def Breakdown.message : Breakdown → String
  | sizeOutOfRange id size =>
    "Import batch " ++ toString id ++ " size " ++ toString size ++ " is out of range"
  | claimGivenUp pool attempts =>
    "Gave up claiming a SIM for registry id " ++ toString pool.registry ++ " and profile " ++
      pool.profile ++ " after " ++ toString attempts ++ " attempts"
  | vendorService id =>
    "No profile vendor adapter configured for vendor id " ++ toString id
  | stated text => text

end SimDepot
