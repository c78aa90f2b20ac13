import SimDepot.Http.Host
import SimDepot.Http.Url.Basic
import SimDepot.Http.Url.Path

/-!
# Reading addresses

An address is split into scheme, authority, path, query and fragment. Blanks around it, and tabs and
line breaks in it, do not count. The scheme decides how the rest is read. For the schemes of the
web, a backslash is a slash, there is a host, the path begins with a slash, and the port that the
scheme has anyway is left out. A file is on a host or, mostly, on none, and its path begins with a
slash. For any other scheme the authority is behind two slashes, and what has no slash in front is
kept as it stands.
-/

namespace SimDepot.Url

/-- How an address is read. -/
inductive Manner
  /-- On the web and its kin, where a port goes without saying. -/
  | web (usualPort : Nat)
  /-- A file. -/
  | file
  /-- Anything else. -/
  | other
  deriving DecidableEq, Repr

namespace Manner

/-- The schemes of the web with their usual ports. -/
def usualPorts : List (String × Nat) :=
  [("http", 80), ("https", 443), ("ws", 80), ("wss", 443), ("ftp", 21)]

/-- How an address with a scheme is read. -/
def ofScheme (scheme : String) : Manner :=
  if scheme = "file" then file
  else match usualPorts.lookup scheme with
    | some port => web port
    | none => other

/-- What may stand in the query. -/
def inQuery (m : Manner) (c : Char) : Bool := Percent.inQuery c || (m == other && c == '\'')

end Manner

/-- A control character or a blank. -/
def isPadding (c : Char) : Bool := c.toNat ≤ 0x20

/-- The text without padding around it and without tabs and line breaks in it. -/
def strip (cs : List Char) : List Char :=
  ((cs.dropWhile isPadding).reverse.dropWhile isPadding).reverse.filter fun c =>
    c != '\t' && c != '\n' && c != '\r'

/-- The scheme and what follows its colon. -/
def splitScheme (cs : List Char) : Option (String × List Char) :=
  let front := cs.takeWhile fun c => c.isAlphanum || c == '+' || c == '-' || c == '.'
  match front, cs.drop front.length with
  | c :: _, ':' :: rest =>
    if c.isAlpha then some (String.ofList (front.map Char.toLower), rest) else none
  | _, _ => none

/-- The text before the first such character, and the text from there on. -/
def splitAt (c : Char) (cs : List Char) : List Char × List Char := cs.span (· != c)

/-- The text without its fragment, and the fragment. -/
def splitFragment (cs : List Char) : List Char × Option String :=
  match splitAt '#' cs with
  | (front, _ :: rest) => (front, some (String.ofList (Percent.encode Percent.inFragment rest)))
  | (front, []) => (front, none)

/-- The text without its query, and the query. -/
def splitQuery (m : Manner) (cs : List Char) : List Char × Option String :=
  match splitAt '?' cs with
  | (front, _ :: rest) => (front, some (String.ofList (Percent.encode m.inQuery rest)))
  | (front, []) => (front, none)

/-! ## The authority -/

/-- The name and the password before the last `@`, and the text behind it. -/
def splitUser (cs : List Char) : String × Option String × List Char :=
  let behind := (cs.reverse.takeWhile (· != '@')).reverse
  if behind.length = cs.length then ("", none, cs)
  else
    let (user, password) := splitAt ':' (cs.take (cs.length - behind.length - 1))
    let written (part : List Char) := String.ofList (Percent.encode Percent.inUser part)
    (written user, if password.length ≤ 1 then none else some (written (password.drop 1)), behind)

/-- The text of a host, which ends before a colon that is not between brackets, and what follows. -/
def splitHost (inBrackets : Bool) : List Char → List Char × List Char
  | [] => ([], [])
  | c :: rest =>
    if c = ':' ∧ !inBrackets then ([], c :: rest)
    else
      let inBrackets := c = '[' ∨ (c ≠ ']' ∧ inBrackets)
      let (front, rest) := splitHost inBrackets rest
      (c :: front, rest)

/-- The port behind a host, and what follows it. -/
def port? : List Char → Option (Option Nat × List Char)
  | ':' :: cs =>
    let digits := cs.takeWhile Char.isDigit
    let rest := cs.drop digits.length
    let port := Text.valueOf digits
    if 65535 < port ∨ !(rest.head?.all (· == '\\')) then none
    else some (if digits.isEmpty then none else some port, rest)
  | cs => some (none, cs)

/-- The authority of an address of the web. -/
def webAuthority? (usualPort : Nat) (cs : List Char) : Option Authority := do
  let (user, password, cs) := splitUser cs
  let (hostText, cs) := splitHost false cs
  let host ← Host.ofText? hostText
  let (port, _) ← port? cs
  some ⟨user, password, host, if port = some usualPort then none else port⟩

/-- The authority of an address of no known kind, and what follows it. Without a host there is
neither a user nor a port. -/
def otherAuthority? (cs : List Char) (isLast : Bool) : Option (Authority × List Char) := do
  if cs = ['@'] ∧ !isLast then none
  let (user, password, cs) := splitUser cs
  let (hostText, cs) := splitHost false cs
  let host ← Host.ofOpaque? hostText
  if host = "" ∧ (user ≠ "" ∨ password.isSome ∨ !cs.isEmpty) then none
  let (port, rest) ← port? cs
  some (⟨user, password, host, port⟩, rest)

/-- The host of a file; the host `localhost` is none. -/
def fileHost? (cs : List Char) : Option String := do
  if cs.isEmpty then some ""
  else
    let host ← Host.ofText? cs
    some (if host = "localhost" then "" else host)

/-! ## The address -/

/-- A character with a slash in place of a backslash. -/
def asSlash (c : Char) : Char := if c = '\\' then '/' else c

/-- Authority and path of an address of the web. -/
def readWeb? (usualPort : Nat) (cs : List Char) : Option (Option Authority × String) := do
  let (authority, rest) := splitAt '/' ((cs.map asSlash).dropWhile (· == '/'))
  some (some (← webAuthority? usualPort authority), plainPath (rest.drop 1))

/-- Authority and path of a file. A file whose path begins with a drive is on no host. -/
def readFile? (cs : List Char) : Option (Option Authority × String) :=
  let onNone (text : List Char) := some (some (.ofHost "" none), (filePath text).1)
  match cs.map asSlash with
  | '/' :: '/' :: cs => do
    let (hostText, rest) := splitAt '/' cs
    if isDrive hostText then onNone cs
    else
      let host ← fileHost? hostText
      if host = "" then onNone rest
      else
        let (path, hasDrive) := filePath (rest.drop 1)
        some (some (.ofHost (if hasDrive then "" else host) none), path)
  | '/' :: cs => onNone cs
  | cs => onNone cs

/-- Authority and path of an address of no known kind. -/
def readOther? (cs : List Char) (isLast : Bool) : Option (Option Authority × String) :=
  match cs with
  | '/' :: '/' :: cs => do
    let (text, rest) := splitAt '/' cs
    let (authority, more) ← otherAuthority? text (isLast && rest.isEmpty)
    let path := match more ++ rest with
      | [] => ""
      | '/' :: cs => plainPath cs
      | cs => plainPath cs
    some (some authority, path)
  | '/' :: cs => some (none, plainPath cs)
  | cs => some (none, String.ofList (Percent.encode Percent.inOpaque cs))

/-- The address that a text describes. -/
def ofText? (s : String) : Option Url := do
  let (scheme, cs) ← splitScheme (strip s.toList)
  let manner := Manner.ofScheme scheme
  let (cs, fragment) := splitFragment cs
  let (cs, query) := splitQuery manner cs
  let (authority, path) ← match manner with
    | .web usualPort => readWeb? usualPort cs
    | .file => readFile? cs
    | .other => readOther? cs (query.isNone && fragment.isNone)
  some { scheme, authority, path, query, fragment }

end SimDepot.Url
