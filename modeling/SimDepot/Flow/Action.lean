import SimDepot.Flow.Basic

/-!
# Actions

An action is a flow that may end with an error. The requests of a flow become actions here: what the
store or a service reports as a failure ends the action with the corresponding error.
-/

namespace SimDepot

/-- A flow that may end with an error. -/
abbrev Action (α : Type) := ExceptT Error Flow α

namespace Action

variable {α : Type}

/-- The flow as an action that does not fail. -/
def ofFlow (x : Flow α) : Action α := ExceptT.lift x

/-- Asks the store a question; `blame` tells what a failure means. -/
def readOr (blame : StoreFailure → Error) (q : Query) : Action q.Answer :=
  .mk (Flow.request (.read q) >>= fun answer => pure (answer.mapError blame))

/-- Asks the store a question. -/
def read (q : Query) : Action q.Answer := readOr .store q

/-- Gives the store a command; `blame` tells what a failure means. -/
def writeOr (blame : StoreFailure → Error) (c : Command) : Action c.Answer :=
  .mk (Flow.request (.write c) >>= fun answer => pure (answer.mapError blame))

/-- Gives the store a command. -/
def write (c : Command) : Action c.Answer := writeOr .store c

/-- Begins a transaction. -/
def begin : Action Unit :=
  .mk (Flow.request .begin >>= fun answer => pure (answer.mapError .store))

/-- Ends a transaction and makes it last. -/
def commit : Action Unit :=
  .mk (Flow.request .commit >>= fun answer => pure (answer.mapError .store))

/-- Ends a transaction and takes it back. -/
def rollback : Action Unit :=
  .mk (Flow.request .rollback >>= fun answer => pure (answer.mapError .store))

/-- Begins a transaction and does the steps of `body` in it; when a step fails, the transaction is
left. The body ends the transaction itself when all goes well. -/
def inTransaction (body : Action α) : Action α := do
  begin
  .mk do
    match ← body.run with
    | .ok a => pure (.ok a)
    | .error e =>
      Flow.request .abandon
      pure (.error e)

/-- The time. -/
def now : Action Timestamp := ofFlow (Flow.request .now)

/-- Waits for some milliseconds. -/
def pause (milliseconds : Nat) : Action Unit := ofFlow (Flow.request (.pause milliseconds))

/-- Tells a registry service that a SIM is live. -/
def activate (registry : RegistryId) (iccid msisdn : String) : Action Unit :=
  .mk (Flow.request (.activate registry iccid msisdn))

/-- Tells a registry service to stop serving a SIM. -/
def suspend (registry : RegistryId) (iccid : String) : Action Unit :=
  .mk (Flow.request (.suspend registry iccid))

/-- Asks a vendor service to release the profile of a SIM. -/
def release (vendor : VendorId) (sim : Sim) : Action Release :=
  .mk (Flow.request (.release vendor sim))

/-- Asks whether a registry service is well. -/
def probe (registry : RegistryId) : Action Bool := ofFlow (Flow.request (.probe registry))

/-- The value, or the error where there is none. -/
def expect (value : Option α) (error : Error) : Action α :=
  match value with
  | some a => pure a
  | none => throw error

/-- Stores a row, and returns it as it is then found; `blame` tells what a failure means. -/
def insert (blame : StoreFailure → Error) (c : Command) (again : c.Answer → Action (Option α)) :
    Action α := do
  let stored ← writeOr blame c
  expect (← again stored) (blame .unfound)

/-- The result of an action, be it a value or an error, as the value of an action. -/
def attempt (x : Action α) : Action (Except Error α) := ofFlow x.run

end Action

end SimDepot
