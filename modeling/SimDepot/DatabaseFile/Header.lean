import SimDepot.Store.Failure

/-!
# Files of databases

The file of a database consists of pages of one size and begins with a header of a hundred bytes. An
empty file is a database without tables. `Header.ofFile?` reads the header; what it cannot be is
refused as no database, and a file that is shorter than its header says is malformed.
-/

namespace SimDepot

/-- The bytes of the file of a database. -/
structure DatabaseFile where
  /-- The bytes. -/
  bytes : Array UInt8
  deriving DecidableEq

namespace DatabaseFile

/-- How many bytes the file has; a single byte counts as none. -/
def size (f : DatabaseFile) : Nat := if f.bytes.size = 1 then 0 else f.bytes.size

/-- The byte at a place; zero behind the end. -/
def byte (f : DatabaseFile) (place : Nat) : Nat := (f.bytes.getD place 0).toNat

/-- The number in `count` bytes, the most significant first. -/
def number (f : DatabaseFile) (place count : Nat) : Nat :=
  (List.range count).foldl (fun n i => n * 256 + f.byte (place + i)) 0

/-- The bytes from a place on. -/
def slice (f : DatabaseFile) (place count : Nat) : List UInt8 :=
  (List.range count).map fun i => f.bytes.getD (place + i) 0

/-- What the file of a database begins with. -/
def mark : List UInt8 := "SQLite format 3\x00".toUTF8.toList

/-- How texts are written in a database. -/
inductive Encoding
  /-- In UTF-8. -/
  | utf8
  /-- In UTF-16 with the least significant byte first. -/
  | utf16le
  /-- In UTF-16 with the most significant byte first. -/
  | utf16be
  deriving DecidableEq, Repr

/-- What the header of a file says. -/
structure Header where
  /-- The size of a page. -/
  pageSize : Nat
  /-- How many bytes of a page are used. -/
  usable : Nat
  /-- How many pages there are. -/
  pages : Nat
  /-- How many of them are free. -/
  freePages : Nat
  /-- The first of them that names others. -/
  firstFree : Nat
  /-- The last page that is the topmost of a tree, if the file keeps track of that. -/
  lastTop : Nat
  /-- The file may be written. -/
  isWritable : Bool
  /-- How texts are written. -/
  encoding : Encoding
  deriving DecidableEq, Repr

/-- The sizes that a page may have: the powers of two from 512 to 65536. -/
def pageSizes : List Nat := (List.range 8).map fun n => Nat.pow 2 (n + 9)

/-- The size of a page where the header does not say it. -/
def usualPageSize : Nat := 4096

/-- The size of a page, if the header says it. The largest one does not fit into two bytes and is
written with the bytes that would overflow. -/
def pageSize? (f : DatabaseFile) : Option Nat :=
  pageSizes.find? fun n => n == f.byte 16 * 256 + f.byte 17 * 65536

/-- How many pages a file has. -/
def pageCount (f : DatabaseFile) : Nat :=
  let pageSize := f.pageSize?.getD usualPageSize
  (f.size + pageSize - 1) / pageSize

/-- Changes are written to a log beside the file. -/
def usesLog (f : DatabaseFile) : Bool := f.slice 0 mark.length == mark && f.byte 19 == 2

namespace Header

/-- What the header says where the file is empty. -/
def ofEmpty : Header where
  pageSize := usualPageSize
  usable := usualPageSize
  pages := 0
  freePages := 0
  firstFree := 0
  lastTop := 0
  isWritable := true
  encoding := .utf8

/-- What the header of a file says. -/
def ofFile? (f : DatabaseFile) : Except Refusal Header := do
  if f.size = 0 then return ofEmpty
  if f.slice 0 mark.length ≠ mark ∨ 2 < f.byte 19 then throw .notADatabase
  if f.slice 21 3 ≠ [64, 32, 32] then throw .notADatabase
  match f.pageSize? with
  | none => throw .notADatabase
  | some pageSize =>
    -- The number of pages counts only where the last change of the file was of this format.
    let stated := if f.number 24 4 = f.number 92 4 then f.number 28 4 else 0
    let pages := if stated = 0 then f.pageCount else stated
    if f.pageCount < pages then throw .malformed
    let usable := pageSize - f.byte 20
    if usable < 480 then throw .notADatabase
    return {
      pageSize, usable, pages
      freePages := f.number 36 4
      firstFree := f.number 32 4
      lastTop := f.number 52 4
      isWritable := f.byte 18 ≤ 2
      encoding := match f.byte 59 % 4 with
        | 2 => .utf16le
        | 3 => .utf16be
        | _ => .utf8 }

end Header

end DatabaseFile

end SimDepot
