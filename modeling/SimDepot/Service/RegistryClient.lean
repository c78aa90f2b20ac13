import SimDepot.Error.Basic
import SimDepot.Http.Correspondence
import SimDepot.Settings.Basic

/-!
# Talking to a registry

A registry is told over HTTP that a SIM is live, or that it is to be served no longer. Each call
writes one request, which carries the key of the depot, and succeeds on exactly one status. A
registry is well when it answers a plain request with anything but a failure of its own.

Reference: `activate`, `suspend`, `expect_status`, `transport_error`, `health_check`.
-/

namespace SimDepot.RegistryClient

/-- The text without the slashes at its end. -/
def withoutSlashes (s : String) : String :=
  String.ofList (s.toList.reverse.dropWhile (· == '/')).reverse

/-- The address that the paths of requests are appended to. -/
def base (settings : RegistrySettings) : String := withoutSlashes settings.endpoint

/-- The header with the key of the depot. -/
def headers (settings : RegistrySettings) : List (String × String) :=
  [("x-api-key", settings.apiKey)]

/-- What came of a call that hopes for the status `expected`. -/
def conclude (settings : RegistrySettings) (call : ServiceCall) (iccid : String) (expected : Nat) :
    Except HttpFailure HttpReply → Except Error Unit
  | .error failure => .error (.service settings.name (.registryUnreachable call iccid failure))
  | .ok reply =>
    if reply.status = expected then .ok ()
    else .error (.service settings.name (.registryStatus call iccid reply.status))

/-- The body of an activation. -/
def activation (settings : RegistrySettings) (iccid msisdn : String) : Json :=
  .object [
    ("bssid", .text settings.name),
    ("iccid", .text iccid),
    ("msisdn", .text msisdn),
    ("userid", .text settings.userId)]

/-- The request that tells the registry that a SIM is live. -/
def activationDraft (settings : RegistrySettings) (iccid msisdn : String) : HttpDraft where
  method := .post
  address := base settings ++ "/activate"
  headers := headers settings
  body := some (activation settings iccid msisdn)

/-- The request that tells the registry to stop serving a SIM. -/
def suspensionDraft (settings : RegistrySettings) (iccid : String) : HttpDraft where
  method := .delete
  address := base settings ++ "/deactivate/" ++ iccid
  headers := headers settings
  body := none

/-- The request that only asks whether the registry answers. -/
def probeDraft (settings : RegistrySettings) : HttpDraft where
  method := .get
  address := base settings
  headers := headers settings
  body := none

/-- Tells the registry that a SIM is live; the hoped-for status is 201. -/
def activate (settings : RegistrySettings) (iccid msisdn : String) :
    Correspondence (Except Error Unit) :=
  if iccid = "" then return .error (.notUpdated (.activationWithoutIccid settings.name))
  else do
    let answer ← (activationDraft settings iccid msisdn).post
    return conclude settings .activate iccid 201 answer

/-- Tells the registry to stop serving a SIM; the hoped-for status is 200. -/
def suspend (settings : RegistrySettings) (iccid : String) :
    Correspondence (Except Error Unit) :=
  if iccid = "" then return .error (.notUpdated (.suspensionWithoutIccid settings.name))
  else do
    let answer ← (suspensionDraft settings iccid).post
    return conclude settings .deactivate iccid 200 answer

/-- Asks whether the registry is well. -/
def probe (settings : RegistrySettings) : Correspondence Bool := do
  match ← (probeDraft settings).post with
  | .ok reply => return !reply.isPeerFailure
  | .error _ => return false

end SimDepot.RegistryClient
