import SimDepot.Document.Basic
import SimDepot.Number.Double
import SimDepot.Text.Digits

/-!
# Keys and single values of TOML

Texts in four kinds of quotes, numbers, truth values, dates and times. Every reader returns what it
read and what follows. Fuel that exceeds the number of characters is enough for every reader. A date
or time is kept as a mapping with one member, which is how decoders tell it from a text.
-/

namespace SimDepot.Toml

open Text (hexValue? valueOf)

/-- A reader returns what it read and the characters that follow. -/
abbrev Reader (α : Type) := List Char → Option (α × List Char)

/-- A blank within a line. -/
def isBlank (c : Char) : Bool := c == ' ' || c == '\t'

/-- The characters behind blanks. -/
def skipBlanks (cs : List Char) : List Char := cs.dropWhile isBlank

/-- A character that may stand in comments and texts: the tab, or one that is no control character.
-/
def isPlain (c : Char) : Bool := c == '\t' || (0x20 ≤ c.toNat && c.toNat != 0x7f)

/-- What follows the end of a line. -/
def lineBreak? : List Char → Option (List Char)
  | '\n' :: rest => some rest
  | '\r' :: '\n' :: rest => some rest
  | _ => none

/-- What follows a comment, up to the end of its line. -/
def skipComment (cs : List Char) : List Char :=
  match cs with
  | '#' :: rest => rest.dropWhile isPlain
  | cs => cs

/-! ## Texts -/

/-- The character with a number in hexadecimal digits, exactly so many. -/
def readEscapedNumber (digits : Nat) (cs : List Char) : Option (Char × List Char) := do
  let run := cs.take digits
  if run.length ≠ digits then none
  let n ← run.foldlM (fun n c => (hexValue? c).map (n * 16 + ·)) 0
  if h : n.isValidChar then some (Char.ofNatAux n h, cs.drop digits) else none

/-- The character that is written behind a backslash. -/
def readEscape : Reader Char
  | 'b' :: rest => some ('\x08', rest)
  | 'f' :: rest => some ('\x0c', rest)
  | 'n' :: rest => some ('\n', rest)
  | 'r' :: rest => some ('\r', rest)
  | 't' :: rest => some ('\t', rest)
  | '"' :: rest => some ('"', rest)
  | '\\' :: rest => some ('\\', rest)
  | 'u' :: rest => readEscapedNumber 4 rest
  | 'U' :: rest => readEscapedNumber 8 rest
  | _ => none

/-- The rest of a text in double quotes on one line; `done` is in reverse order. -/
def readBasic (done : List Char) (cs : List Char) : (fuel : Nat) → Option (String × List Char)
  | 0 => none
  | fuel + 1 =>
    match cs with
    | '"' :: rest => some (String.ofList done.reverse, rest)
    | '\\' :: rest => do
      let (c, rest) ← readEscape rest
      readBasic (c :: done) rest fuel
    | c :: rest => if isPlain c then readBasic (c :: done) rest fuel else none
    | [] => none

/-- The rest of a text in single quotes on one line. -/
def readLiteral (cs : List Char) : Option (String × List Char) :=
  let body := cs.takeWhile fun c => isPlain c && c != '\''
  match cs.drop body.length with
  | '\'' :: rest => some (String.ofList body, rest)
  | _ => none

/-- What follows blanks and line breaks. -/
def skipLines (cs : List Char) : (fuel : Nat) → List Char
  | 0 => cs
  | fuel + 1 =>
    match lineBreak? (skipBlanks cs) with
    | some rest => skipLines rest fuel
    | none => skipBlanks cs

/-- Quotes within or at the end of a text of several lines: three end it, and up to two more belong
to it. Returns the quotes that belong to the text and whether it ends. -/
def readQuotes (quote : Char) (cs : List Char) : Option (List Char × Bool × List Char) :=
  let n := (cs.takeWhile (· == quote)).length
  if n < 3 then some (List.replicate n quote, false, cs.drop n)
  else if n ≤ 5 then some (List.replicate (n - 3) quote, true, cs.drop n)
  else none

/-- The rest of a text of several lines; escapes count only where `escapes` says so. -/
def readLong (quote : Char) (escapes : Bool) (done : List Char) (cs : List Char) :
    (fuel : Nat) → Option (String × List Char)
  | 0 => none
  | fuel + 1 =>
    match cs with
    | [] => none
    | c :: rest =>
      if c = quote then do
        let (quotes, ends, rest) ← readQuotes quote cs
        if ends then some (String.ofList (quotes ++ done).reverse, rest)
        else readLong quote escapes (quotes ++ done) rest fuel
      else if c = '\\' ∧ escapes then
        match lineBreak? (skipBlanks rest) with
        | some rest => readLong quote escapes done (skipLines rest fuel) fuel
        | none => do
          let (e, rest) ← readEscape rest
          readLong quote escapes (e :: done) rest fuel
      else match lineBreak? cs with
        | some rest => readLong quote escapes ('\n' :: done) rest fuel
        | none => if isPlain c then readLong quote escapes (c :: done) rest fuel else none

/-- A text of several lines, behind its opening quotes. A line break right there does not count. -/
def readLongText (quote : Char) (escapes : Bool) (fuel : Nat) (cs : List Char) :
    Option (String × List Char) :=
  readLong quote escapes [] ((lineBreak? cs).getD cs) fuel

/-- A text in any quotes. -/
def readString (fuel : Nat) : Reader String
  | '"' :: '"' :: '"' :: rest => readLongText '"' true fuel rest
  | '"' :: rest => readBasic [] rest fuel
  | '\'' :: '\'' :: '\'' :: rest => readLongText '\'' false fuel rest
  | '\'' :: rest => readLiteral rest
  | _ => none

/-! ## Keys -/

/-- A character of a bare key. -/
def isBare (c : Char) : Bool := c.isAlphanum || c == '-' || c == '_'

/-- A key without dots. -/
def readSimpleKey (fuel : Nat) : Reader String
  | '"' :: rest => readBasic [] rest fuel
  | '\'' :: rest => readLiteral rest
  | cs =>
    let key := cs.takeWhile isBare
    if key.isEmpty then none else some (String.ofList key, cs.drop key.length)

/-- The parts of a key, with blanks around each. -/
def readParts (cs : List Char) : (fuel : Nat) → Option (List String × List Char)
  | 0 => none
  | fuel + 1 => do
    let (key, rest) ← readSimpleKey fuel (skipBlanks cs)
    match skipBlanks rest with
    | '.' :: rest =>
      let (keys, rest) ← readParts rest fuel
      return (key :: keys, rest)
    | rest => return ([key], rest)

/-- The number of levels that a text may not reach, in keys and in values. -/
def maxDepth : Nat := 80

/-- A key: all of its parts but the last, and the last. -/
def readKey (fuel : Nat) (cs : List Char) : Option ((List String × String) × List Char) := do
  let (keys, rest) ← readParts cs fuel
  if maxDepth ≤ keys.length then none
  return ((keys.dropLast, ← keys.getLast?), rest)

/-! ## Numbers -/

/-- A sign, if there is one; tells whether it is a minus. -/
def readSign : List Char → Bool × List Char
  | '-' :: rest => (true, rest)
  | '+' :: rest => (false, rest)
  | cs => (false, cs)

/-- A run of digits in which underscores may stand between two digits. -/
def readRun (isDigit : Char → Bool) : List Char → List Char × List Char
  | '_' :: c :: rest =>
    if isDigit c then
      let (digits, rest) := readRun isDigit rest
      (c :: digits, rest)
    else ([], '_' :: c :: rest)
  | c :: rest =>
    if isDigit c then
      let (digits, rest) := readRun isDigit rest
      (c :: digits, rest)
    else ([], c :: rest)
  | [] => ([], [])

/-- Digits with underscores between them; the first is no underscore. -/
def readDigits (isDigit : Char → Bool) (cs : List Char) : Option (List Char × List Char) :=
  match cs with
  | c :: _ => if isDigit c then some (readRun isDigit cs) else none
  | [] => none

/-- The digits of a whole number; one that begins with zero is zero. -/
def readWhole (cs : List Char) : Option (List Char × List Char) :=
  match cs with
  | '0' :: rest => some (['0'], rest)
  | cs => readDigits Char.isDigit cs

/-- An integer, if 64 bits can hold it. -/
def integer? (n : Int) : Option Document :=
  if -9223372036854775808 ≤ n ∧ n ≤ 9223372036854775807 then some (.integer n) else none

/-- An integer in another base than ten. -/
def readBased (base : Nat) (cs : List Char) : Option (Document × List Char) := do
  let isDigit (c : Char) : Bool := match hexValue? c with | some d => d < base | none => false
  let (digits, rest) ← readDigits isDigit cs
  let n := digits.foldl (fun n c => n * base + (hexValue? c).getD 0) 0
  return (← integer? n, rest)

/-- The digits behind a point, if there is one. -/
def readFraction (cs : List Char) : Option (Option (List Char) × List Char) :=
  match cs with
  | '.' :: rest => (readDigits Char.isDigit rest).map fun (ds, rest) => (some ds, rest)
  | cs => some (none, cs)

/-- The exponent, if there is one. -/
def readExponent (cs : List Char) : Option (Option Int × List Char) :=
  match cs with
  | c :: rest =>
    if c = 'e' ∨ c = 'E' then do
      let (negative, rest) := readSign rest
      let (digits, rest) ← readDigits Char.isDigit rest
      let n : Int := valueOf digits
      return (some (if negative then -n else n), rest)
    else some (none, cs)
  | [] => some (none, cs)

/-- A number in base ten. A number with a point or an exponent may not be too large. -/
def readDecimal (cs : List Char) : Option (Document × List Char) := do
  let (negative, cs) := readSign cs
  let (whole, cs) ← readWhole cs
  let (fraction, cs) ← readFraction cs
  let (exponent, cs) ← readExponent cs
  match fraction, exponent with
  | none, none =>
    let n : Int := valueOf whole
    return (← integer? (if negative then -n else n), cs)
  | fraction, exponent =>
    let fraction := fraction.getD []
    let fits := Double.fits (valueOf (whole ++ fraction)) (exponent.getD 0 - fraction.length)
    if fits || negative then return (.real true, cs) else none

/-- What follows a word at the front. -/
def afterWord? (word : String) (cs : List Char) : Option (List Char) :=
  if word.toList.isPrefixOf cs then some (cs.drop word.length) else none

/-- A number that has a name, with or without a sign. -/
def readNamed (cs : List Char) : Option (Document × List Char) := do
  let (_, cs) := readSign cs
  let rest ← (afterWord? "inf" cs).or (afterWord? "nan" cs)
  return (.real true, rest)

/-- A number. -/
def readNumber : Reader Document
  | '0' :: 'x' :: rest => readBased 16 rest
  | '0' :: 'o' :: rest => readBased 8 rest
  | '0' :: 'b' :: rest => readBased 2 rest
  | cs => (readNamed cs).or (readDecimal cs)

/-! ## Dates and times -/

/-- A number of so many digits between two bounds. -/
def readWithin (digits low high : Nat) (cs : List Char) : Option (Nat × List Char) :=
  let run := cs.take digits
  if run.length = digits ∧ run.all Char.isDigit then
    let n := valueOf run
    if low ≤ n ∧ n ≤ high then some (n, cs.drop digits) else none
  else none

/-- What follows a character at the front. -/
def after? (c : Char) : List Char → Option (List Char)
  | d :: rest => if d = c then some rest else none
  | [] => none

/-- What follows a date. -/
def afterDate? (cs : List Char) : Option (List Char) := do
  let (year, cs) ← readWithin 4 0 9999 cs
  let (month, cs) ← readWithin 2 1 12 (← after? '-' cs)
  let leap := year % 4 == 0 && (year % 100 != 0 || year % 400 == 0)
  let days := match month with
    | 2 => if leap then 29 else 28
    | 4 | 6 | 9 | 11 => 30
    | _ => 31
  let (_, cs) ← readWithin 2 1 days (← after? '-' cs)
  return cs

/-- What follows a time of day. -/
def afterTime? (cs : List Char) : Option (List Char) := do
  let (_, cs) ← readWithin 2 0 23 cs
  let (_, cs) ← readWithin 2 0 59 (← after? ':' cs)
  let (_, cs) ← readWithin 2 0 60 (← after? ':' cs)
  match cs with
  | '.' :: d :: rest => if d.isDigit then some (rest.dropWhile Char.isDigit) else some cs
  | cs => some cs

/-- What follows a distance to UTC, if there is one. -/
def afterOffset (cs : List Char) : List Char :=
  match cs with
  | 'Z' :: rest | 'z' :: rest => rest
  | c :: rest =>
    if c = '+' ∨ c = '-' then
      (do
        let (_, cs) ← readWithin 2 0 23 rest
        let (_, cs) ← readWithin 2 0 59 (← after? ':' cs)
        return cs).getD (c :: rest)
    else c :: rest
  | [] => []

/-- What follows a date, a time, or both. -/
def afterMoment? (cs : List Char) : Option (List Char) :=
  match afterDate? cs with
  | some rest =>
    match rest with
    | c :: more =>
      if c = 'T' ∨ c = 't' ∨ c = ' ' then
        match afterTime? more with
        | some rest => some (afterOffset rest)
        -- The date stands alone; what is behind it is left to the caller.
        | none => some rest
      else some rest
    | [] => some rest
  | none => afterTime? cs

/-- A date or time, as a mapping with its text as the only member. -/
def readMoment (cs : List Char) : Option (Document × List Char) := do
  let rest ← afterMoment? cs
  let text := String.ofList (cs.take (cs.length - rest.length))
  return (.mapping [(some "date-time", .text text)] true, rest)

/-- A truth value. -/
def readTruth (cs : List Char) : Option (Document × List Char) :=
  match afterWord? "true" cs with
  | some rest => some (.boolean true, rest)
  | none => (afterWord? "false" cs).map fun rest => (.boolean false, rest)

/-- A value that is no array and no table. -/
def readScalar (fuel : Nat) : Reader Document
  | [] => none
  | c :: rest =>
    if c = '"' ∨ c = '\'' then (readString fuel (c :: rest)).map fun (s, rest) => (.text s, rest)
    else if c.isDigit ∨ c = '+' ∨ c = '-' then
      (readMoment (c :: rest)).or (readNumber (c :: rest))
    else (readTruth (c :: rest)).or (readNamed (c :: rest))

end SimDepot.Toml
