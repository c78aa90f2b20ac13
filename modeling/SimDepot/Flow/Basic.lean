import SimDepot.Error.Basic
import SimDepot.Service.Basic
import SimDepot.Store.Command
import SimDepot.Store.Query

/-!
# Flows

What an operation does is a flow: a tree of requests to the world outside, each followed by what is
done with its answer. Requests go to the store, to the clock and to the external services. A flow
does nothing by itself; a handler answers its requests and may do so in any way: as a store that
never fails, as one that is locked, or in turns with other flows.

Flows form a monad, and `Flow.run` is a homomorphism from it to state transformers.
-/

namespace SimDepot

/-- A request to the world outside. -/
inductive Request
  /-- Asks the store a question. -/
  | read (q : Query)
  /-- Gives the store a command. -/
  | write (c : Command)
  /-- Begins a transaction. -/
  | begin
  /-- Makes the commands of the transaction last. -/
  | commit
  /-- Takes the commands of the transaction back. -/
  | rollback
  /-- Leaves the transaction after a failure, which takes its commands back. -/
  | abandon
  /-- Asks the clock. -/
  | now
  /-- Waits for some milliseconds. -/
  | pause (milliseconds : Nat)
  /-- Tells the registry service bound to `registry` that a SIM is live. -/
  | activate (registry : RegistryId) (iccid msisdn : String)
  /-- Tells the registry service bound to `registry` to stop serving a SIM. -/
  | suspend (registry : RegistryId) (iccid : String)
  /-- Asks the vendor service bound to `vendor` to release the profile of a SIM. -/
  | release (vendor : VendorId) (sim : Sim)
  /-- Asks whether the registry service bound to `registry` is well. -/
  | probe (registry : RegistryId)
  deriving DecidableEq, Repr

/-- What a request is answered with. -/
abbrev Request.Answer : Request → Type
  | read q => Except StoreFailure q.Answer
  | write c => Except StoreFailure c.Answer
  | begin | commit | rollback => Except StoreFailure Unit
  | abandon => Unit
  | now => Timestamp
  | pause _ => Unit
  | activate .. | suspend .. => Except Error Unit
  | release .. => Except Error Release
  | probe _ => Bool

/-- Requests, each followed by what is done with its answer, down to a result. -/
inductive Flow (α : Type) : Type
  /-- Nothing is left to do. -/
  | done (result : α)
  /-- Makes a request and goes on with the answer. -/
  | ask (request : Request) (next : request.Answer → Flow α)

namespace Flow

variable {α β γ : Type}

/-- One flow after another. -/
def bind : Flow α → (α → Flow β) → Flow β
  | done a, f => f a
  | ask r k, f => ask r fun answer => (k answer).bind f

instance : Monad Flow where
  pure := done
  bind := bind

/-- The flow of a single request. -/
def request (r : Request) : Flow r.Answer := ask r done

@[simp] theorem pure_def (a : α) : (pure a : Flow α) = done a := rfl

@[simp] theorem bind_done (a : α) (f : α → Flow β) : done a >>= f = f a := rfl

@[simp] theorem bind_ask (r : Request) (k : r.Answer → Flow α) (f : α → Flow β) :
    ask r k >>= f = ask r fun answer => k answer >>= f := rfl

protected theorem bind_pure (x : Flow α) : x >>= pure = x := by
  induction x with
  | done a => rfl
  | ask r k ih => simpa using funext ih

protected theorem bind_assoc (x : Flow α) (f : α → Flow β) (g : β → Flow γ) :
    x >>= f >>= g = x >>= fun a => f a >>= g := by
  induction x with
  | done a => rfl
  | ask r k ih => simpa using funext ih

instance : LawfulMonad Flow :=
  .mk' Flow Flow.bind_pure (fun _ _ => rfl) Flow.bind_assoc

/-- Answers requests, and keeps a state of type `σ` for that. -/
abbrev Handler (σ : Type) := (r : Request) → σ → r.Answer × σ

/-- The result of a flow whose requests a handler answers, and the state it leaves. -/
def run {σ : Type} (h : Handler σ) : Flow α → σ → α × σ
  | done a, s => (a, s)
  | ask r k, s =>
    let (answer, s) := h r s
    (k answer).run h s

@[simp] theorem run_done {σ : Type} (h : Handler σ) (a : α) (s : σ) :
    (done a).run h s = (a, s) := rfl

@[simp] theorem run_ask {σ : Type} (h : Handler σ) (r : Request) (k : r.Answer → Flow α) (s : σ) :
    (ask r k).run h s = (k (h r s).1).run h (h r s).2 := rfl

/-- A flow after another one starts from the state that the first one leaves. -/
theorem run_bind {σ : Type} (h : Handler σ) (x : Flow α) (f : α → Flow β) (s : σ) :
    (x >>= f).run h s = (f (x.run h s).1).run h (x.run h s).2 := by
  induction x generalizing s with
  | done a => rfl
  | ask r k ih => simp [ih]

end Flow

end SimDepot
