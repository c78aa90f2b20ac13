import SimDepot.DatabaseFile.Header

/-!
# Tables in files of databases

The rows of a table are the leaves of a tree of pages. A page says what it is and has a list of
places of its cells. A cell of an inner page names the page below it; a cell of a leaf holds a row,
whose last part may be in a chain of further pages. A row is a list of values, each with a number
for its form.

`rows` reads a whole table. A page that does not fit together is malformed.
-/

namespace SimDepot.DatabaseFile

/-- A value of a row. -/
inductive Value
  /-- No value. -/
  | null
  /-- A whole number. -/
  | integer (value : Int)
  /-- Bytes, of a text or of any other thing. -/
  | bytes (value : List UInt8)
  deriving DecidableEq, Repr

/-! ## Numbers of variable length -/

/-- The number that bytes begin with, seven bits to a byte, and how many bytes it takes; the ninth
byte has all its bits. -/
def varint (f : DatabaseFile) (place : Nat) : Nat × Nat :=
  go 0 0 8
where
  /-- Goes on behind `n` bytes. -/
  go (n value : Nat) : (left : Nat) → Nat × Nat
    | 0 => (value * 256 + f.byte (place + n), n + 1)
    | left + 1 =>
      let b := f.byte (place + n)
      let value := value * 128 + b % 128
      if b < 128 then (value, n + 1) else go (n + 1) value left

/-! ## Values -/

/-- How many bytes a value of a form has. -/
def valueSize (form : Nat) : Nat :=
  if 12 ≤ form then (form - 12) / 2 else [0, 1, 2, 3, 4, 6, 8, 8, 0, 0, 0, 0].getD form 0

/-- The number in some bytes, the most significant first, of which the first bit is the sign. -/
def signed (f : DatabaseFile) (place count : Nat) : Int :=
  let n := f.number place count
  if f.byte place < 128 then n else (n : Int) - (Nat.pow 256 count : Nat)

/-- The value of a form. -/
def value (f : DatabaseFile) (place form : Nat) : Value :=
  if 12 ≤ form then .bytes (f.slice place (valueSize form))
  else if 1 ≤ form ∧ form ≤ 6 then .integer (f.signed place (valueSize form))
  else if form = 8 then .integer 0
  else if form = 9 then .integer 1
  else if form = 7 then .bytes "0.0".toUTF8.toList
  else .null

/-- The forms between two places, at most `count`, and where they end. -/
def forms (f : DatabaseFile) (place stop : Nat) : (count : Nat) → List Nat × Nat
  | 0 => ([], place)
  | count + 1 =>
    if stop ≤ place then ([], place)
    else
      let (form, length) := f.varint place
      let (rest, last) := f.forms (place + length) stop count
      (form :: rest, last)

/-- The values of forms, one behind the other. -/
def values (f : DatabaseFile) (place : Nat) : List Nat → List Value
  | [] => []
  | form :: rest => f.value place form :: f.values (place + valueSize form) rest

/-- The first `count` values of the row that a file consists of. The row begins with the size of its
header and the forms; where a row has no more values, it has no more bytes. -/
def row (f : DatabaseFile) (headerSize length count : Nat) : Except Refusal (List Value) :=
  if f.bytes.size < headerSize then .error .malformed
  else if headerSize = 0 then .ok []
  else
    let (forms, last) := f.forms length headerSize count
    let size := headerSize + forms.foldr (fun form n => valueSize form + n) 0
    if headerSize < last ∨ f.bytes.size < size ∨ (last = headerSize ∧ f.bytes.size ≠ size) then
      .error .malformed
    else .ok (f.values headerSize forms)

/-! ## Pages -/

/-- The bytes of a chain of pages. -/
def chain (f : DatabaseFile) (h : Header) (page left : Nat) :
    (fuel : Nat) → Except Refusal (List UInt8)
  | 0 => .error .malformed
  | fuel + 1 =>
    if left = 0 then .ok []
    else if page = 0 ∨ h.pages < page then .error .malformed
    else do
      let start := (page - 1) * h.pageSize
      let count := min left (h.usable - 4)
      return f.slice (start + 4) count ++ (← f.chain h (f.number start 4) (left - count) fuel)

/-- How many bytes of a row that takes `size` are in its cell. -/
def localSize (h : Header) (size : Nat) : Nat :=
  let least := (h.usable - 12) * 32 / 255 - 23
  let most := h.usable - 35
  let fitting := least + (size - least) % (h.usable - 4)
  if size ≤ most then size else if fitting ≤ most then fitting else least

/-- How many values a row for something in a database has. -/
def columns : Nat := 5

/-- The row of a cell, which is at a place of a page. -/
def cellRow (f : DatabaseFile) (h : Header) (start place : Nat) : Except Refusal (List Value) := do
  let (size, length) := f.varint (start + place)
  let (_, keyLength) := f.varint (start + place + length)
  let content := place + length + keyLength
  let inCell := localSize h size
  if (if inCell = size then h.pageSize else h.usable) < content + inCell then throw .malformed
  let here := f.slice (start + content) inCell
  let rest ← f.chain h (f.number (start + content + inCell) 4) (size - inCell) (h.pages + 2)
  let (headerSize, headerLength) := f.varint (start + content)
  row ⟨(here ++ rest).toArray⟩ headerSize headerLength columns

/-- What the leaf of a table begins with. -/
def tableLeaf : Nat := 13

/-- What an inner page of a table begins with. -/
def innerTable : Nat := 5

/-- What pages begin with: those of tables, and leaves and inner pages of indexes. -/
def pageKinds : List Nat := [tableLeaf, innerTable, 10, 2]

/-- Where the header of a page begins; the first page has the header of the file in front. -/
def pageHeader (h : Header) (page : Nat) : Nat :=
  if page = 1 then 100 else (page - 1) * h.pageSize

/-- Where the list of the places of cells begins; an inner page has one more number before it. -/
def cellList (f : DatabaseFile) (h : Header) (page : Nat) : Nat :=
  let header := pageHeader h page
  if f.byte header = innerTable then header + 12 else header + 8

/-- Results of things one after the other, up to the first failure. -/
def gather {α β : Type} (step : α → List β × Option Refusal) : List α → List β × Option Refusal
  | [] => ([], none)
  | a :: rest =>
    match step a with
    | (found, some r) => (found, some r)
    | (found, none) =>
      let (more, failure) := gather step rest
      (found ++ more, failure)

/-- The rows of a table below a page, which is the topmost or has at least one cell, up to the first
one that cannot be read; `depth` bounds how many pages are above one another. -/
def rows (f : DatabaseFile) (h : Header) (isTop : Bool) (page : Nat) :
    (depth : Nat) → List (List Value) × Option Refusal
  | 0 => ([], some .malformed)
  | depth + 1 =>
    if page = 0 ∨ h.pages < page then ([], some .malformed)
    else
      let start := (page - 1) * h.pageSize
      let header := pageHeader h page
      let kind := f.byte header
      let count := f.number (header + 3) 2
      if kind ∉ [tableLeaf, innerTable] ∨ (h.pageSize - 8) / 6 < count ∨
          (count = 0 ∧ !isTop) then
        ([], some .malformed)
      else
        let cells := (List.range count).map fun i =>
          f.number (f.cellList h page + 2 * i) 2 % h.pageSize
        if kind = tableLeaf then
          cells.foldr (fun place (found, failure) =>
            match f.cellRow h start place with
            | .ok row => (row :: found, failure)
            | .error r => ([], some r)) ([], none)
        else
          let below := cells.map fun place => f.number (start + place) 4
          gather (fun child => f.rows h false child depth) (below ++ [f.number (header + 8) 4])

/-- The most pages that are above one another. -/
def maxDepth : Nat := 20

/-! ## Free space -/

/-- The first free page that names others and the free pages that it names are pages of the file. -/
def hasSoundFreePages (f : DatabaseFile) (h : Header) : Bool :=
  let isPage (n : Nat) : Bool := 2 ≤ n && n ≤ h.pages
  let start := (h.firstFree - 1) * h.pageSize
  let count := f.number (start + 4) 4
  h.freePages == 0 || isPage h.firstFree && count + 2 ≤ h.usable / 4 &&
    (List.range count).all fun i => isPage (f.number (start + 8 + 4 * i) 4)

/-- Where a file keeps track of the topmost pages of trees, the next one follows the last one. What
is there already is moved away, for which a map tells what it is: below another page of a tree, or
of a chain. The page of the map is in front of the pages that it is for. -/
def canMoveTop (f : DatabaseFile) (h : Header) : Bool :=
  let perMap := h.usable / 5 + 1
  let next := if (h.lastTop - 1) % perMap = 0 then h.lastTop + 2 else h.lastTop + 1
  let mapPage := (next - 2) / perMap * perMap + 2
  let kind := f.byte ((mapPage - 1) * h.pageSize + 5 * (next - mapPage - 1))
  h.lastTop == 0 || h.pages < next || (3 ≤ kind && kind ≤ 5) || (kind == 2 && h.freePages != 0)

/-- The pages from a page down to the last leaf below it. -/
def lastPages (f : DatabaseFile) (h : Header) (page : Nat) : (depth : Nat) → List Nat
  | 0 => [page]
  | depth + 1 =>
    let header := pageHeader h page
    if f.byte header = innerTable then page :: f.lastPages h (f.number (header + 8) 4) depth
    else [page]

/-- The bytes in the free blocks of a page, which are linked in ascending order from `place` on. -/
def freeBlocks? (f : DatabaseFile) (h : Header) (start place : Nat) : (fuel : Nat) → Option Nat
  | 0 => none
  | fuel + 1 =>
    if h.usable < place + 4 then none
    else
      let next := f.number (start + place) 2
      let size := f.number (start + place + 2) 2
      if next ≤ place + size + 3 then
        if next = 0 ∧ place + size ≤ h.usable then some size else none
      else (f.freeBlocks? h start next fuel).map (size + ·)

/-- What is said of the free space of a page fits together. -/
def hasSoundSpace (f : DatabaseFile) (h : Header) (page : Nat) : Bool :=
  let header := pageHeader h page
  let start := (page - 1) * h.pageSize
  let stated := f.number (header + 5) 2
  let top := if stated = 0 then 65536 else stated
  let first := f.cellList h page - start + 2 * f.number (header + 3) 2
  let block := f.number (header + 1) 2
  let blocks := if block = 0 then some 0
    else if block < top then none else f.freeBlocks? h start block h.pageSize
  blocks.any fun n =>
    let free := top + f.byte (header + 7) + n
    first ≤ free && free ≤ h.usable

end SimDepot.DatabaseFile
