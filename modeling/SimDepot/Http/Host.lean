import SimDepot.Domain.Basic
import SimDepot.Http.Percent
import SimDepot.Text.Utf8

/-!
# Hosts

The host of an address on the web is a domain, an IPv4 address or an IPv6 address in brackets. A
domain whose last label is a number is an IPv4 address, which may be written with fewer parts and in
octal or hexadecimal, and is shown with four decimal parts. An IPv6 address is shown with its
longest run of zeros left out. What stands between brackets is an IPv6 address and nothing else.
-/

namespace SimDepot.Host

/-! ## IPv4 -/

/-- A part of an IPv4 address; an empty text after `0x` is zero. -/
def ipv4Part? (cs : List Char) : Option Nat :=
  match cs with
  | [] => none
  | '0' :: x :: rest =>
    if x = 'x' ∨ x = 'X' then number 16 rest
    else number 8 (x :: rest)
  | cs => number 10 cs
where
  /-- The number that digits to a base stand for. -/
  number (base : Nat) (cs : List Char) : Option Nat :=
    cs.foldlM (fun n c => do
      let d ← Text.hexValue? c
      if d < base then some (n * base + d) else none) 0

/-- The parts of a dotted address, without an empty one at the end. -/
def parts (domain : List Char) : List (List Char) :=
  let ps := Text.parts '.' domain
  if 1 < ps.length ∧ ps.getLast? = some [] then ps.dropLast else ps

/-- The last part of a domain is a number, so that the domain is an IPv4 address or nothing. -/
def endsInNumber (domain : List Char) : Bool :=
  match (parts domain).getLast? with
  | some last =>
    (!last.isEmpty && last.all Char.isDigit) ||
      (match last with
       | '0' :: 'x' :: rest | '0' :: 'X' :: rest => rest.all fun c => (Text.hexValue? c).isSome
       | _ => false)
  | none => false

/-- The number of an IPv4 address. -/
def ipv4? (domain : List Char) : Option Nat := do
  let ps := parts domain
  if 4 < ps.length then none
  let numbers ← ps.mapM ipv4Part?
  let last ← numbers.getLast?
  let front := numbers.dropLast
  -- The last part stands for all the bytes that the parts before it leave.
  let scale := Nat.pow 256 (4 - front.length)
  if front.any (255 < ·) || scale ≤ last then none
  some (front.foldl (fun n part => n * 256 + part) 0 * scale + last)

/-- An IPv4 address with four decimal parts. -/
def writeIpv4 (n : Nat) : List Char :=
  (toString (n / 16777216) ++ "." ++ toString (n / 65536 % 256) ++ "." ++
    toString (n / 256 % 256) ++ "." ++ toString (n % 256)).toList

/-! ## IPv6 -/

/-- The groups of one side of an IPv6 address; the last may be an IPv4 address. -/
def ipv6Groups? : List (List Char) → Option (List Nat)
  | [] => some []
  | [last] =>
    if last.contains '.' then do
      let ps := Text.parts '.' last
      if ps.length ≠ 4 || ps.any fun p => p.isEmpty || !p.all Char.isDigit || 3 < p.length ||
          (1 < p.length && p.head? == some '0') then none
      let numbers ← ps.mapM ipv4Part?
      if numbers.any (255 < ·) then none
      match numbers with
      | [a, b, c, d] => some [a * 256 + b, c * 256 + d]
      | _ => none
    else (group? last).map ([·])
  | g :: rest => do
    let n ← group? g
    return n :: (← ipv6Groups? rest)
where
  /-- One to four hexadecimal digits. -/
  group? (cs : List Char) : Option Nat :=
    if cs.isEmpty || 4 < cs.length then none
    else cs.foldlM (fun n c => (Text.hexValue? c).map (n * 16 + ·)) 0

/-- The text before the first `::`, and the text after it. -/
def splitDouble : List Char → List Char → Option (List Char × List Char)
  | front, ':' :: ':' :: rest => some (front.reverse, rest)
  | front, c :: rest => splitDouble (c :: front) rest
  | _, [] => none

/-- The eight groups of an IPv6 address. -/
def ipv6? (cs : List Char) : Option (List Nat) :=
  let side (cs : List Char) := if cs.isEmpty then some [] else ipv6Groups? (Text.parts ':' cs)
  match splitDouble [] cs with
  | some (front, back) => do
    if front.contains '.' then none
    let a ← side front
    let b ← side back
    if 8 ≤ a.length + b.length then none
    some (a ++ List.replicate (8 - a.length - b.length) 0 ++ b)
  | none => do
    let gs ← side cs
    if gs.length = 8 then some gs else none

/-- How many zeros a list of groups begins with. -/
def zeros (gs : List Nat) : Nat := (gs.takeWhile (· == 0)).length

/-- Where the longest run of zeros begins, and its length; of several the first. -/
def longestZeros (gs : List Nat) : Nat × Nat :=
  (List.range gs.length).foldl (fun best i =>
    let n := zeros (gs.drop i)
    if best.2 < n then (i, n) else best) (0, 0)

/-- Groups between colons. -/
def writeGroups (gs : List Nat) : List Char :=
  (":".intercalate (gs.map fun g => String.ofList (Nat.toDigits 16 g))).toList

/-- An IPv6 address in brackets. -/
def writeIpv6 (gs : List Nat) : List Char :=
  let (start, length) := longestZeros gs
  let body :=
    if length < 2 then writeGroups gs
    else writeGroups (gs.take start) ++ [':', ':'] ++ writeGroups (gs.drop (start + length))
  '[' :: body ++ [']']

/-! ## Hosts of the web -/

/-- The IPv6 address that a text behind a bracket describes, as it is shown. -/
def bracketed? (cs : List Char) : Option String :=
  if cs.getLast? = some ']' then (ipv6? cs.dropLast).map fun gs => String.ofList (writeIpv6 gs)
  else none

/-- The host of the web that a text describes, as it is shown. -/
def ofText? (cs : List Char) : Option String :=
  match cs with
  | '[' :: rest => bracketed? rest
  | cs => do
    let text ← Utf8.text? (Percent.decode cs)
    let domain ← Domain.ofText? text.toList
    if endsInNumber domain then (ipv4? domain).map fun n => String.ofList (writeIpv4 n)
    else some (String.ofList domain)

/-- A character that no host holds, not even outside the web. -/
def isNeverAllowed (c : Char) : Bool :=
  ['\x00', ' ', '#', '/', ':', '<', '>', '?', '@', '[', '\\', ']', '^', '|'].contains c

/-- The host outside the web that a text describes, as it is shown. -/
def ofOpaque? (cs : List Char) : Option String :=
  match cs with
  | '[' :: rest => bracketed? rest
  | cs =>
    if cs.any isNeverAllowed then none
    else some (String.ofList (Percent.encode Percent.inOpaque cs))

end SimDepot.Host
