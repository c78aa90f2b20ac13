import SimDepot.Document.Record
import SimDepot.Http.Correspondence
import SimDepot.Service.Basic
import SimDepot.Service.RegistryClient
import SimDepot.Sim.Basic

/-!
# Talking to a vendor

A vendor releases a profile in two exchanges: the profile is ordered for a card number, and the
order is confirmed. The second request is made only when the first was executed, and executed for
that card. Every request carries a number of its own, counted from zero over the life of the client
by a counter of 64 bits, also where the request is never sent.

Answers are JSON. Fields that are not asked for are passed over; the data of a status is kept, and
so has to be sound.

Reference: `header`, `post`, `check_executed`, `release`.
-/

namespace SimDepot.VendorClient

/-! ## Answers -/

/-- How deep the data of a status may nest. -/
def statusDataDepth : Nat := 125

/-- The fields of the status of an execution. -/
def statusShape : Shape where
  title := "FunctionExecutionStatus"
  fields := [
    .of "status" Decode.string,
    .of "statusCodeData" (Decode.option (Decode.kept statusDataDepth)) .defaulted]

/-- The status of an execution. -/
def status : Decoder String := fun d => do
  (← statusShape.read .malformed d).get "status" Decode.string

/-- The fields of the header of an answer. -/
def headerShape : Shape where
  title := "ResponseHeader"
  fields := [.of "functionExecutionStatus" status]

/-- The status of an execution, in the header of an answer. -/
def header : Decoder String := fun d => do
  (← headerShape.read .malformed d).get "functionExecutionStatus" status

/-- The answer to an order. -/
structure OrderAnswer where
  /-- The status of the execution. -/
  status : String
  /-- The card number, if the answer tells one. -/
  iccid : Option String
  deriving DecidableEq, Repr

/-- The fields of the answer to an order. -/
def orderShape : Shape where
  title := "DownloadOrderResponse"
  fields := [.of "header" header, .of "iccid" (Decode.option Decode.string) .nullable]

/-- The answer to an order that a document describes. -/
def orderAnswer : Decoder OrderAnswer := fun d => do
  let found ← orderShape.read .malformed d
  return {
    status := ← found.get "header" header
    iccid := ← found.get "iccid" (Decode.option Decode.string) }

/-- The answer to a confirmation. -/
structure ConfirmationAnswer where
  /-- The status of the execution. -/
  status : String
  /-- Identity of the chip, if the answer tells one. -/
  eid : Option String
  /-- The token for the profile, if the answer has one. -/
  matchingId : Option String
  deriving DecidableEq, Repr

/-- The fields of the answer to a confirmation. -/
def confirmationShape : Shape where
  title := "ConfirmOrderResponse"
  fields := [
    .of "header" header,
    .of "eid" (Decode.option Decode.string) .nullable,
    .of "matchingId" (Decode.option Decode.string) .nullable]

/-- The answer to a confirmation that a document describes. -/
def confirmationAnswer : Decoder ConfirmationAnswer := fun d => do
  let found ← confirmationShape.read .malformed d
  return {
    status := ← found.get "header" header
    eid := ← found.get "eid" (Decode.option Decode.string)
    matchingId := ← found.get "matchingId" (Decode.option Decode.string) }

/-- The status of an execution that succeeded. -/
def executed : String := "Executed-Success"

/-! ## Requests -/

/-- The path of a call. -/
def callPath : ServiceCall → String
  | .downloadOrder => "/gsma/rsp2/es2plus/downloadOrder"
  | .confirmOrder => "/gsma/rsp2/es2plus/confirmOrder"
  | _ => ""

/-- What the counter shows after a number of calls. -/
def callNumber (calls : Nat) : Nat := calls % Nat.pow 2 64

/-- The header of a request: who asks, and the time and number of the call. -/
def requestHeader (settings : VendorSettings) (time : String) (calls : Nat) : Json :=
  .object [
    ("functionRequesterIdentifier", .text settings.requesterId),
    ("functionCallIdentifier", .text (time ++ "-" ++ toString (callNumber calls)))]

/-- The body of an order, written after a number of calls. -/
def order (settings : VendorSettings) (time : String) (calls : Nat) (sim : Sim) : Json :=
  .object [
    ("header", requestHeader settings time calls),
    ("eid", .ofText? sim.eid),
    ("iccid", .text sim.iccid),
    ("profileType", .text sim.profileType)]

/-- The body of a confirmation, written after a number of calls. -/
def confirmation (settings : VendorSettings) (time : String) (calls : Nat) (sim : Sim) : Json :=
  .object [
    ("header", requestHeader settings time calls),
    ("iccid", .text sim.iccid),
    ("eid", .ofText? sim.eid),
    ("matchingId", .null),
    ("confirmationCode", .null),
    ("smdsAddress", .null),
    ("releaseFlag", .boolean true)]

/-- What the answer to a call says, or why it says nothing. -/
def conclude {α : Type} (settings : VendorSettings) (call : ServiceCall) (iccid : String)
    (dec : Decoder α) : Except HttpFailure HttpReply → Except Error α
  | .error failure => .error (.service settings.name (.vendorUnreachable call iccid failure))
  | .ok reply =>
    if !reply.isSuccess then .error (.service settings.name (.vendorStatus call iccid reply.status))
    else match Json.decode dec reply.body with
      | .error _ => .error (.service settings.name (.vendorBody call iccid .unreadableBody))
      | .ok a => .ok a

/-- A call of the vendor, as it is written. -/
def draft (settings : VendorSettings) (call : ServiceCall) (body : Json) : HttpDraft where
  method := .post
  address := RegistryClient.withoutSlashes settings.endpoint ++ callPath call
  headers := [("X-Admin-Protocol", "gsma/rsp/v2.0.0")]
  body := some body

/-- Makes a call of the vendor. -/
def post {α : Type} (settings : VendorSettings) (call : ServiceCall) (iccid : String) (body : Json)
    (dec : Decoder α) : ExceptT Error Correspondence α :=
  .mk (.write (draft settings call body) fun answer =>
    return conclude settings call iccid dec answer)

/-- The vendor executed a call. -/
def requireExecuted (settings : VendorSettings) (call : ServiceCall) (iccid status : String) :
    Except Error Unit :=
  if status = executed then .ok ()
  else .error (.service settings.name (.notExecuted call iccid status))

/-- What the answer to an order has to say. -/
def checkOrder (settings : VendorSettings) (iccid : String) (a : OrderAnswer) :
    Except Error Unit := do
  requireExecuted settings .downloadOrder iccid a.status
  if (a.iccid.getD iccid) ≠ iccid then throw (.service settings.name (.otherIccid iccid))

/-- The release that the answer to a confirmation brings. -/
def releaseOf (settings : VendorSettings) (iccid : String) (a : ConfirmationAnswer) :
    Except Error Release := do
  requireExecuted settings .confirmOrder iccid a.status
  match a.matchingId.filter (· ≠ "") with
  | none => throw (.service settings.name (.noMatchingId iccid))
  | some matchingId => return { matchingId, eid := a.eid.filter (· ≠ "") }

/-- Asks the vendor to release the profile of a SIM, after a number of calls; `times` is what the
clock shows when the next call is written after a number of them. Returns also the number of calls
that have been written then. -/
def release (settings : VendorSettings) (times : Nat → String) (calls : Nat) (sim : Sim) :
    Correspondence (Except Error Release × Nat) := do
  let ordered ← (post settings .downloadOrder sim.iccid (order settings (times calls) calls sim)
    orderAnswer).run
  match ordered.bind (checkOrder settings sim.iccid) with
  | .error e => return (.error e, calls + 1)
  | .ok () =>
    let confirmed ← (post settings .confirmOrder sim.iccid
      (confirmation settings (times (calls + 1)) (calls + 1) sim) confirmationAnswer).run
    return (confirmed.bind (releaseOf settings sim.iccid), calls + 2)

end SimDepot.VendorClient
