import SimDepot.Http.Redirect

/-!
# Correspondences

A client writes a request before anyone has looked at whether it can be built. A correspondence is a
series of such drafts, each followed by what is done with what came of it: that it could not be
built, that it got no answer, or the last answer, where others have sent the client elsewhere.
`Correspondence.dialogue` sends the drafts that can be built.
-/

namespace SimDepot

/-- A request as it is written. -/
structure HttpDraft where
  /-- What it does. -/
  method : HttpMethod
  /-- Where it is to go. -/
  address : String
  /-- The headers, besides the one for the type of the body. -/
  headers : List (String × String)
  /-- The body, sent as JSON. -/
  body : Option Json
  deriving Repr

/-- The request that a draft describes, if it can be built. -/
def HttpDraft.build (d : HttpDraft) : Except HttpFailure HttpRequest :=
  HttpRequest.build d.method d.address d.headers d.body

/-- Sends a draft if it can be built, and goes where the answers send the client. -/
def HttpDraft.exchange (d : HttpDraft) : Dialogue (Except HttpFailure HttpReply) :=
  match d.build with
  | .error failure => return .error failure
  | .ok r => r.follow HttpRequest.maxHops

/-- Drafts, each followed by what is done with what came of it, down to a result. -/
inductive Correspondence (α : Type) : Type
  /-- Nothing is left to write. -/
  | done (result : α)
  /-- Writes a draft and goes on with what came of it. -/
  | write (draft : HttpDraft) (next : Except HttpFailure HttpReply → Correspondence α)

namespace Correspondence

variable {α β : Type}

/-- One correspondence after another. -/
def bind : Correspondence α → (α → Correspondence β) → Correspondence β
  | done a, f => f a
  | write d k, f => write d fun answer => (k answer).bind f

instance : Monad Correspondence where
  pure := done
  bind := bind

/-- The dialogue in which the drafts are sent. -/
def dialogue : Correspondence α → Dialogue α
  | done a => .done a
  | write d k => d.exchange >>= fun answer => (k answer).dialogue

end Correspondence

/-- Writes a draft, and returns what came of it. -/
def HttpDraft.post (d : HttpDraft) : Correspondence (Except HttpFailure HttpReply) :=
  .write d .done

end SimDepot
