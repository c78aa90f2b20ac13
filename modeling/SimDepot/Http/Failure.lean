/-!
# Failures of HTTP exchanges

An exchange fails before anything is sent, on the way, or because the body of the answer is not what
the request asked for. A status that was not hoped for is an answer, not a failure.
-/

namespace SimDepot

/-- Why an HTTP exchange brought no usable answer. -/
inductive HttpFailure
  /-- The request could not be built: its address is no URL, or a header holds a control character.
  -/
  | unbuildable
  /-- The address is a URL that no HTTP request can be made to. -/
  | unsupported (url : String)
  /-- The request brought no answer. -/
  | unanswered (url : String)
  /-- The answers sent the client elsewhere once too often. -/
  | redirectedTooOften (url : String)
  /-- The body of the answer is not the JSON that was asked for. -/
  | unreadableBody
  deriving DecidableEq, Repr

namespace HttpFailure

/-- The text of a failure. -/
def message : HttpFailure → String
  | unbuildable => "builder error"
  | unsupported url => "builder error for url (" ++ url ++ ")"
  | unanswered url => "error sending request for url (" ++ url ++ ")"
  | redirectedTooOften url => "error following redirect for url (" ++ url ++ ")"
  | unreadableBody => "error decoding response body"

end HttpFailure

end SimDepot
