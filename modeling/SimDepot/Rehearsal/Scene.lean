import SimDepot.Rehearsal.Step
import SimDepot.Service.VendorClient

/-!
# Scenes

A scene is a database together with the services that operations can call. A service is either a
stand-in, which answers calls from a script and lets steps on the store run while a call is out, or
the client of a real interface, whose requests go to the one HTTP peer of the scene. Calls of
stand-ins and requests that reach the peer are noted down.

`Scene.answer` answers the requests of a flow in a scene.
-/

namespace SimDepot.Rehearsal

/-! ## Scripts -/

/-- The kind of error that a stand-in fails with. -/
inductive ScriptedKind
  /-- The failure of a service, under the name of the stand-in. -/
  | service
  /-- Something is missing. -/
  | notFound
  /-- Nothing was updated. -/
  | notUpdated
  /-- Something went wrong. -/
  | system
  deriving DecidableEq, Repr

/-- How a stand-in answers a call. -/
structure ScriptedReply where
  /-- What happens to the store while the call is out. -/
  before : List StoreStep
  /-- The kind and the text of the error that the call fails with. -/
  failure : Option (ScriptedKind × String)
  /-- The matching id of a release, if it is not the usual one. -/
  matchingId : Option String
  /-- The chip identity of a release. -/
  eid : Option String

namespace ScriptedReply

/-- The answer where the script has none. -/
def usual : ScriptedReply := ⟨[], none, none, none⟩

/-- The error of a reply of the stand-in `name`, if it has one. -/
def error? (r : ScriptedReply) (name : String) : Option Error :=
  r.failure.map fun
    | (.service, text) => .service name (.stated text)
    | (.notFound, text) => .notFound (.stated text)
    | (.notUpdated, text) => .notUpdated (.stated text)
    | (.system, text) => .system (.stated text)

/-- The release that a reply makes of a SIM. -/
def release (r : ScriptedReply) (sim : Sim) : Release where
  matchingId := r.matchingId.getD ("MATCH-" ++ sim.iccid)
  eid := r.eid

end ScriptedReply

/-- How a registry service is reached. -/
inductive RegistryLink
  /-- A stand-in, with its health. -/
  | standIn (name : String) (healthy : Bool)
  /-- The client of an HTTP interface. -/
  | client (settings : RegistrySettings)

/-- How a vendor service is reached. -/
inductive VendorLink
  /-- A stand-in. -/
  | standIn (name host : String)
  /-- The client of an HTTP interface, with the number of its next request. -/
  | client (settings : VendorSettings) (calls : Nat)

/-- A registry service, as operations see it. -/
def RegistryLink.binding : RegistryLink → RegistryBinding
  | standIn name _ => ⟨name⟩
  | client settings => ⟨settings.name⟩

/-- A vendor service, as operations see it. -/
def VendorLink.binding : VendorLink → VendorBinding
  | standIn name host => ⟨name, host⟩
  | client settings _ => ⟨settings.name, settings.activationHost⟩

/-! ## The peer -/

/-- The HTTP peer of a scene. -/
structure Peer where
  /-- Requests get through to the peer. -/
  reachable : Bool
  /-- The answers to come; nothing where the connection is dropped. -/
  replies : List (Option HttpReply)

/-- What is noted down of a scene. -/
inductive Call
  /-- A stand-in was told that a SIM is live. -/
  | activate (service iccid msisdn : String)
  /-- A stand-in was told to stop serving a SIM. -/
  | suspend (service iccid : String)
  /-- A stand-in was asked to release the profile of a SIM. -/
  | release (service iccid : String) (eid : Option String)
  /-- A request reached the peer. -/
  | http (request : HttpRequest)

/-- A database with services. -/
structure Scene where
  /-- The database. -/
  database : Database
  /-- The registry services. -/
  registries : IdMap RegistryLink
  /-- The vendor services. -/
  vendors : IdMap VendorLink
  /-- The rest of the script of the last stand-in for each registry service. -/
  registryScripts : IdMap (List ScriptedReply)
  /-- The rest of the script of the last stand-in for each vendor service. -/
  vendorScripts : IdMap (List ScriptedReply)
  /-- How reconciliation is tuned. -/
  tuning : Tuning
  /-- The peer of the clients. -/
  peer : Peer
  /-- What was noted down, the last call first. -/
  noted : List Call

namespace Scene

/-- A scene without services. -/
def fresh (hasTables reachable : Bool) : Scene :=
  ⟨.fresh hasTables, .empty, .empty, .empty, .empty, .default, ⟨reachable, []⟩, []⟩

/-- The services, as operations see them. -/
def bindings (s : Scene) : Bindings where
  registries := s.registries.map RegistryLink.binding
  vendors := s.vendors.map VendorLink.binding

/-- Notes a call down. -/
def note (s : Scene) (call : Call) : Scene := { s with noted := call :: s.noted }

/-- Lets the steps of a reply run. -/
def meanwhile (s : Scene) (steps : List StoreStep) : Scene :=
  { s with database := (s.database.performAll steps).2 }

/-- The peer answers a request. Encrypted requests and those that do not get through have no answer
and are not noted down. -/
def peerAnswer (request : HttpRequest) (s : Scene) : Option HttpReply × Scene :=
  if !s.peer.reachable || request.url.scheme != "http" then (none, s)
  else
    let s := s.note (.http request)
    match s.peer.replies with
    | [] => (none, s)
    | reply :: replies => (reply, { s with peer := { s.peer with replies } })

/-- How the time of a request is shown. -/
def requestTime : String := "<time>"

/-! ## Calls -/

/-- The error of a call of a service that is not bound. -/
def unbound : Error := .service "" (.stated "no service")

/-- What a stand-in answers, if its reply is not a failure. -/
def replied {α : Type} (reply : ScriptedReply) (name : String) (a : α) : Except Error α :=
  match reply.error? name with
  | some e => .error e
  | none => .ok a

/-- Takes the next reply from the script of the stand-in for a registry service. -/
def registryReply (s : Scene) (id : RegistryId) : ScriptedReply × Scene :=
  let script := (s.registryScripts.get? id).getD []
  (script.headD .usual, { s with registryScripts := s.registryScripts.insert id (script.drop 1) })

/-- Takes the next reply from the script of the stand-in for a vendor service. -/
def vendorReply (s : Scene) (id : VendorId) : ScriptedReply × Scene :=
  let script := (s.vendorScripts.get? id).getD []
  (script.headD .usual, { s with vendorScripts := s.vendorScripts.insert id (script.drop 1) })

/-- Tells a registry service that a SIM is live. -/
def activate (s : Scene) (id : RegistryId) (iccid msisdn : String) : Except Error Unit × Scene :=
  match s.registries.get? id with
  | none => (.error unbound, s)
  | some (.client settings) =>
    (RegistryClient.activate settings iccid msisdn).dialogue.run peerAnswer s
  | some (.standIn name _) =>
    let (reply, s) := (s.note (.activate name iccid msisdn)).registryReply id
    (replied reply name (), s.meanwhile reply.before)

/-- Tells a registry service to stop serving a SIM. -/
def suspend (s : Scene) (id : RegistryId) (iccid : String) : Except Error Unit × Scene :=
  match s.registries.get? id with
  | none => (.error unbound, s)
  | some (.client settings) => (RegistryClient.suspend settings iccid).dialogue.run peerAnswer s
  | some (.standIn name _) =>
    let (reply, s) := (s.note (.suspend name iccid)).registryReply id
    (replied reply name (), s.meanwhile reply.before)

/-- Asks a vendor service to release the profile of a SIM. -/
def release (s : Scene) (id : VendorId) (sim : Sim) : Except Error Release × Scene :=
  match s.vendors.get? id with
  | none => (.error unbound, s)
  | some (.client settings calls) =>
    let ((result, calls), s) :=
      (VendorClient.release settings (fun _ => requestTime) calls sim).dialogue.run peerAnswer s
    (result, { s with vendors := s.vendors.insert id (.client settings calls) })
  | some (.standIn name _) =>
    let (reply, s) := (s.note (.release name sim.iccid sim.eid)).vendorReply id
    (replied reply name (reply.release sim), s.meanwhile reply.before)

/-- Asks whether a registry service is well. -/
def probe (s : Scene) (id : RegistryId) : Bool × Scene :=
  match s.registries.get? id with
  | none => (false, s)
  | some (.client settings) => (RegistryClient.probe settings).dialogue.run peerAnswer s
  | some (.standIn _ healthy) => (healthy, s)

/-- Answers the requests of a flow in a scene. -/
def answer : Flow.Handler Scene
  | .activate id iccid msisdn, s => s.activate id iccid msisdn
  | .suspend id iccid, s => s.suspend id iccid
  | .release id sim, s => s.release id sim
  | .probe id, s => s.probe id
  | r, s =>
    let (a, database) := Database.answer r s.database
    (a, { s with database })

/-- Runs a flow in a scene. -/
def run {α : Type} (s : Scene) (x : Flow α) : α × Scene := x.run answer s

/-- Runs a step of a scene while another connection holds the write lock. -/
def locked {α : Type} (s : Scene) (lock : Lock) (step : Scene → α × Scene) : α × Scene :=
  let (a, s) := step { s with database := { s.database with lock } }
  (a, { s with database := { s.database with lock := .free } })

/-- Binds a registry service. The script of a stand-in is empty at first. -/
def bindRegistry (s : Scene) (id : RegistryId) (link : RegistryLink) : Scene :=
  { s with
    registries := s.registries.insert id link
    registryScripts := match link with
      | .standIn .. => s.registryScripts.insert id []
      | .client _ => s.registryScripts }

/-- Binds a vendor service. The script of a stand-in is empty at first. -/
def bindVendor (s : Scene) (id : VendorId) (link : VendorLink) : Scene :=
  { s with
    vendors := s.vendors.insert id link
    vendorScripts := match link with
      | .standIn .. => s.vendorScripts.insert id []
      | .client .. => s.vendorScripts }

/-- Adds replies to the script of the last stand-in for a registry service, also when the service is
reached in another way by now; nothing where there never was one. -/
def scriptRegistry (s : Scene) (id : RegistryId) (replies : List ScriptedReply) : Option Scene :=
  (s.registryScripts.get? id).map fun script =>
    { s with registryScripts := s.registryScripts.insert id (script ++ replies) }

/-- Adds replies to the script of the last stand-in for a vendor service, also when the service is
reached in another way by now; nothing where there never was one. -/
def scriptVendor (s : Scene) (id : VendorId) (replies : List ScriptedReply) : Option Scene :=
  (s.vendorScripts.get? id).map fun script =>
    { s with vendorScripts := s.vendorScripts.insert id (script ++ replies) }

/-- The scene with the services that settings bind, and no others. -/
def install (s : Scene) (registries : IdMap RegistrySettings) (vendors : IdMap VendorSettings)
    (tuning : Tuning) : Scene :=
  { s with
    registries := registries.map .client
    vendors := vendors.map fun v => .client v 0
    tuning }

end Scene

end SimDepot.Rehearsal
