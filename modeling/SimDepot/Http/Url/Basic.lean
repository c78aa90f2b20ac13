import SimDepot.Http.Percent
import SimDepot.Text.Utf8

/-!
# Addresses

An address names a scheme, mostly an authority, that is a host with what belongs to it, and a path,
and it may have a query and a fragment. Every part is kept as it is written in the address.

`Url.anonymous` is the address as it goes out with a request, when the name of a user and the
password are sent apart from it.
-/

namespace SimDepot

/-- What an address says of the host. -/
structure Authority where
  /-- The name of a user, if it is not empty. -/
  user : String
  /-- A password, if there is one. -/
  password : Option String
  /-- The host, if it is not empty. -/
  host : String
  /-- The port, unless it goes without saying. -/
  port : Option Nat
  deriving DecidableEq, Repr

/-- An address. -/
structure Url where
  /-- The scheme, in lower case. -/
  scheme : String
  /-- The authority, in an address that has one. -/
  authority : Option Authority
  /-- The path. -/
  path : String
  /-- The query. -/
  query : Option String
  /-- The fragment. -/
  fragment : Option String
  deriving DecidableEq, Repr

namespace Authority

/-- The authority of a host alone. -/
def ofHost (host : String) (port : Option Nat) : Authority := ⟨"", none, host, port⟩

/-- The text of an authority. -/
def text (a : Authority) : String :=
  let user := a.user ++ (match a.password with | some p => ":" ++ p | none => "")
  (if user = "" then "" else user ++ "@") ++ a.host ++
    (match a.port with | some p => ":" ++ toString p | none => "")

/-- The text that a part stands for, if it is one. -/
def partText? (part : String) : Option String := Utf8.text? (Percent.decode part.toList)

/-- The authority without its user. A user whose name is no text stays, and so does one without a
name whose password is no text. -/
def anonymous (a : Authority) : Authority :=
  match partText? a.user with
  | none => a
  | some name =>
    if name ≠ "" ∨ (a.password.bind partText?).isSome then ofHost a.host a.port else a

end Authority

namespace Url

/-- The text of an address. A path that begins with two slashes is marked where there is no
authority, so that it is not taken for one. -/
def text (u : Url) : String :=
  u.scheme ++ ":" ++
    (match u.authority with
     | some a => "//" ++ a.text
     | none => if u.path.startsWith "//" then "/." else "") ++
    u.path ++ (match u.query with | some q => "?" ++ q | none => "") ++
    (match u.fragment with | some f => "#" ++ f | none => "")

/-- The address names a host. -/
def hasHost (u : Url) : Bool := u.authority.any fun a => a.host != ""

/-- The address without its user. -/
def anonymous (u : Url) : Url := { u with authority := u.authority.map Authority.anonymous }

/-- The address is one of the web. -/
def isWeb (u : Url) : Bool := u.scheme == "http" || u.scheme == "https"

/-- The most bytes of an address that a request goes to. -/
def maxLength : Nat := 65534

/-- A request can go to the address: its host has none of four characters, and it is not too long.
-/
def isReachable (u : Url) : Bool :=
  (u.authority.all fun a => a.host.toList.all fun c => c ∉ ['"', '`', '\x7b', '\x7d']) &&
    u.text.utf8ByteSize ≤ maxLength

end Url

end SimDepot
