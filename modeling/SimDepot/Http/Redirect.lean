import SimDepot.Http.Exchange

/-!
# Answers that send a client elsewhere

An answer with one of five statuses and a location sends the client to another address. The client
goes there by itself: for two of the statuses with the request as it is, for the others with a plain
request without a body. It does so ten times at most, and only on the web. `HttpRequest.follow` is
all that is sent for one request, down to the answer that its user gets to see.

Reference: the default redirect policy of the HTTP client behind `activate`, `suspend`,
`health_check` and `release`.
-/

namespace SimDepot

namespace Url

/-- The scheme and the authority of an address. -/
def site (u : Url) : String :=
  u.scheme ++ ":" ++ (match u.authority with | some a => "//" ++ a.text | none => "")

/-- The path up to its last slash. -/
def directory (u : Url) : String :=
  String.ofList (u.path.toList.reverse.dropWhile (· != '/')).reverse

/-- The address that a text without a scheme stands for, seen from an address of the web. -/
def relative? (u : Url) (cs : List Char) : Option Url :=
  let written := String.ofList cs
  match cs with
  | [] => some { u with fragment := none }
  | c :: rest =>
    if c = '#' then ofText? ({ u with fragment := none }.text ++ written)
    else if c = '?' then ofText? (u.site ++ u.path ++ written)
    else if asSlash c = '/' then
      if (rest.head?.map asSlash) = some '/' then ofText? (u.scheme ++ ":" ++ written)
      else ofText? (u.site ++ written)
    else ofText? (u.site ++ u.directory ++ written)

/-- The address that a text stands for, seen from an address of the web. One that has the scheme of
this address but no host is read as if it had none. -/
def join? (u : Url) (text : String) : Option Url :=
  let cs := strip text.toList
  match splitScheme cs with
  | none => u.relative? cs
  | some (scheme, rest) =>
    if scheme = u.scheme ∧ (rest.take 2).map asSlash ≠ ['/', '/'] then u.relative? rest
    else ofText? text

end Url

namespace HttpReply

/-- The statuses that can send a client elsewhere. -/
def redirecting : List Nat := [301, 302, 303, 307, 308]

/-- The address that an answer from an address sends the client to, if it is one that a request can
go to. -/
def destination? (reply : HttpReply) (u : Url) : Option Url :=
  if redirecting.contains reply.status then
    (reply.location.bind u.join?).filter fun v => v.hasHost && v.isReachable
  else none

end HttpReply

namespace HttpRequest

/-- How often a client goes elsewhere for one request. -/
def maxHops : Nat := 10

/-- What the next address learns of the one before: nothing where the connection is no longer
encrypted, else the address without its user and its fragment. -/
def referer? (u next : Url) : Option String :=
  if next.scheme = "http" ∧ u.scheme = "https" then none
  else some { u with
    authority := u.authority.map fun a : Authority => .ofHost a.host a.port
    fragment := none }.text

/-- The request that goes on to an address after an answer with this status. -/
def onwards (r : HttpRequest) (status : Nat) (next : Url) : HttpRequest :=
  let headers := match referer? r.url next with
    | some text => r.headers.filter (·.1 != "referer") ++ [("referer", text)]
    | none => r.headers
  if status = 307 ∨ status = 308 then { r with url := next, headers }
  else { method := .get, url := next, headers, body := none }

/-- What an answer to a request makes the client do, if it sends it elsewhere: the request that
goes there, or the failure where it is not on the web. -/
def next? (r : HttpRequest) (reply : HttpReply) : Option (Except HttpFailure HttpRequest) :=
  (reply.destination? r.url).map fun u =>
    if u.isWeb then .ok (r.onwards reply.status u) else .error (.unsupported u.text)

/-- Sends a request, goes where the answers send the client, and returns the last answer. -/
def follow (r : HttpRequest) : (hops : Nat) → Dialogue (Except HttpFailure HttpReply)
  | 0 => .send r fun
    | none => return .error (.unanswered r.url.text)
    | some reply =>
      match r.next? reply with
      | none => return .ok reply
      | some _ => return .error (.redirectedTooOften r.url.text)
  | hops + 1 => .send r fun
    | none => return .error (.unanswered r.url.text)
    | some reply =>
      match r.next? reply with
      | none => return .ok reply
      | some (.error failure) => return .error failure
      | some (.ok r') => r'.follow hops

end HttpRequest

end SimDepot
