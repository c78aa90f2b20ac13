import SimDepot.Http.Failure
import SimDepot.Http.Url.Reader
import SimDepot.Json.Basic
import SimDepot.Json.Text

/-!
# HTTP exchanges

A dialogue is a series of requests as they are sent, each followed by what is done with its answer.
What comes back is an answer with any status, or nothing at all: the connection was refused, dropped
or too slow.

`HttpRequest.build` makes a request of its parts, and fails where none can be made.
-/

namespace SimDepot

/-- What a request does. -/
inductive HttpMethod
  /-- Reads. -/
  | get
  /-- Sends something to work on. -/
  | post
  /-- Takes something away. -/
  | delete
  deriving DecidableEq, Repr

/-- The word for a method. -/
def HttpMethod.word : HttpMethod → String
  | get => "GET"
  | post => "POST"
  | delete => "DELETE"

/-- A request that can be sent. -/
structure HttpRequest where
  /-- What it does. -/
  method : HttpMethod
  /-- Where it goes. -/
  url : Url
  /-- The headers, besides the one for the type of the body. -/
  headers : List (String × String)
  /-- The body, sent as JSON. -/
  body : Option Json
  deriving Repr

/-- An answer. -/
structure HttpReply where
  /-- The status. -/
  status : Nat
  /-- Where the client may look instead, if the answer has a header that says so. -/
  location : Option String := none
  /-- The body. -/
  body : String
  deriving DecidableEq, Repr

/-- The status says that the request succeeded. -/
def HttpReply.isSuccess (r : HttpReply) : Bool := 200 ≤ r.status && r.status < 300

/-- The status says that the peer failed. -/
def HttpReply.isPeerFailure (r : HttpReply) : Bool := 500 ≤ r.status && r.status < 600

namespace HttpRequest

/-- A text that a header can hold: no control characters other than the tab. -/
def isHeaderText (s : String) : Bool :=
  s.toList.all fun c => c == '\t' || (0x20 ≤ c.toNat && c.toNat != 0x7f)

/-- The request with these parts, if it can be built. -/
def build (method : HttpMethod) (address : String) (headers : List (String × String))
    (body : Option Json) : Except HttpFailure HttpRequest :=
  match Url.ofText? address with
  | none => .error .unbuildable
  | some url =>
    -- The host is looked at when the request is made, all else when it is sent.
    if !url.hasHost then .error (.unsupported url.text)
    else if !headers.all fun h => isHeaderText h.2 then .error .unbuildable
    else
      let url := url.anonymous
      if !url.isWeb || !url.isReachable then .error (.unsupported url.text)
      else .ok { method, url, headers, body }

end HttpRequest

/-- Requests, each followed by what is done with its answer, down to a result. -/
inductive Dialogue (α : Type) : Type
  /-- Nothing is left to send. -/
  | done (result : α)
  /-- Sends a request and goes on with the answer, if one comes. -/
  | send (request : HttpRequest) (next : Option HttpReply → Dialogue α)

namespace Dialogue

variable {α β γ : Type}

/-- One dialogue after another. -/
def bind : Dialogue α → (α → Dialogue β) → Dialogue β
  | done a, f => f a
  | send r k, f => send r fun reply => (k reply).bind f

instance : Monad Dialogue where
  pure := done
  bind := bind

@[simp] theorem pure_def (a : α) : (pure a : Dialogue α) = done a := rfl

@[simp] theorem bind_done (a : α) (f : α → Dialogue β) : done a >>= f = f a := rfl

@[simp] theorem bind_send (r : HttpRequest) (k : Option HttpReply → Dialogue α)
    (f : α → Dialogue β) : send r k >>= f = send r fun reply => k reply >>= f := rfl

protected theorem bind_pure (x : Dialogue α) : x >>= pure = x := by
  induction x with
  | done a => rfl
  | send r k ih => simpa using funext ih

protected theorem bind_assoc (x : Dialogue α) (f : α → Dialogue β) (g : β → Dialogue γ) :
    x >>= f >>= g = x >>= fun a => f a >>= g := by
  induction x with
  | done a => rfl
  | send r k ih => simpa using funext ih

instance : LawfulMonad Dialogue :=
  .mk' Dialogue Dialogue.bind_pure (fun _ _ => rfl) Dialogue.bind_assoc

/-- The result of a dialogue with a peer, and the state that the peer is left in. -/
def run {σ : Type} (peer : HttpRequest → σ → Option HttpReply × σ) : Dialogue α → σ → α × σ
  | done a, s => (a, s)
  | send r k, s =>
    let (reply, s) := peer r s
    (k reply).run peer s

/-- The requests of a dialogue with a peer that answers with the replies of a list, and with nothing
when they are used up. -/
def requests : Dialogue α → List (Option HttpReply) → List HttpRequest
  | done _, _ => []
  | send r k, [] => r :: (k none).requests []
  | send r k, reply :: rest => r :: (k reply).requests rest

/-- The result of a dialogue with a peer that answers with the replies of a list, and with nothing
when they are used up. -/
def result : Dialogue α → List (Option HttpReply) → α
  | done a, _ => a
  | send _ k, [] => (k none).result []
  | send _ k, reply :: rest => (k reply).result rest

end Dialogue

end SimDepot
