import SimDepot.Files.Failure
import SimDepot.Text.Parts

/-!
# Trees of files

A tree holds files and directories, each at a place, which is given in parts from the root. Names
that are not absolute start from one of its directories, the top. Of what is outside of the top only
the directories above it are known, and what was made there. A name is followed part by part; every
part but the last has to be a directory, and `..` leads up.
-/

namespace SimDepot

/-- Something with a name in a tree. -/
inductive FileNode
  /-- A file with its bytes. -/
  | file (bytes : List UInt8)
  /-- A directory. -/
  | directory
  deriving DecidableEq, Repr

/-- Files and directories, each with its place. -/
structure FileTree where
  /-- What the tree holds, but for the top and the directories above it. -/
  nodes : List (List String × FileNode)
  deriving DecidableEq, Repr

namespace FileTree

/-- The place of the top: a temporary directory with a name of the usual form. -/
def home : List String := ["tmp", ".tmpXXXXXX"]

/-- The tree with nothing in it. -/
def empty : FileTree := ⟨[]⟩

/-- What is at a place; the top and the places above it are directories. -/
def node? (t : FileTree) (place : List String) : Option FileNode :=
  if place.isPrefixOf home then some .directory else t.nodes.lookup place

/-- A directory is at a place. -/
def isDirectory (t : FileTree) (place : List String) : Bool := t.node? place == some .directory

/-- Puts something at a place. -/
def set (t : FileTree) (place : List String) (node : FileNode) : FileTree :=
  ⟨(place, node) :: t.nodes.filter (·.1 != place)⟩

/-- Puts something at a place that is given in parts from the top. -/
def put (t : FileTree) (parts : List String) (node : FileNode) : FileTree :=
  t.set (home ++ parts) node

/-- Makes all directories above a place that is given in parts from the top, where there is
nothing. -/
def putParents (t : FileTree) (parts : List String) : FileTree :=
  (List.range parts.length).foldl (fun t n =>
    if (t.node? (home ++ parts.take n)).isNone then t.put (parts.take n) .directory else t) t

/-- The parts of a name; a slash at the end asks for a directory, as a last part `.` does. -/
def partsOf (name : String) : List String :=
  let parts := (Text.parts '/' name.toList).map String.ofList
  let inner := parts.filter (· ≠ "")
  if parts.getLast? = some "" then inner ++ ["."] else inner

/-- The name is absolute. -/
def isAbsolute (name : String) : Bool := name.toList.head? == some '/'

/-- The place that a name starts from. -/
def start (isAbsolute : Bool) : List String := if isAbsolute then [] else home

/-- The place that a part of a name leads to, if there are no obstacles. -/
def enter (place : List String) (part : String) : List String :=
  if part = "." then place else if part = ".." then place.dropLast else place ++ [part]

/-- Follows the parts of a name from a place. -/
def walk (t : FileTree) (place : List String) : List String → Except FileFailure (List String)
  | [] => .ok place
  | part :: rest =>
    match t.node? place with
    | none => .error .notFound
    | some (.file _) => .error .notADirectory
    | some .directory =>
      if 255 < part.utf8ByteSize then .error .nameTooLong
      else walk t (enter place part) rest

/-- The place that a name leads to. -/
def place? (t : FileTree) (name : String) : Except FileFailure (List String) :=
  if name.toList.contains '\x00' then .error .zeroInName
  else if name = "" then .error .notFound
  else if 4095 < name.utf8ByteSize then .error .nameTooLong
  else t.walk (start (isAbsolute name)) (partsOf name)

/-- The text of a file. -/
def readText (t : FileTree) (name : String) : Except FileFailure String := do
  match t.node? (← t.place? name) with
  | none => .error .notFound
  | some .directory => .error .isADirectory
  | some (.file bytes) =>
    match String.fromUTF8? ⟨bytes.toArray⟩ with
    | some s => .ok s
    | none => .error .notText

/-- Makes a directory with a name in parts from a place; everything above it has to be there. -/
def makeDirectory (t : FileTree) (start parts : List String) : Except FileFailure FileTree := do
  let parent ← t.walk start parts.dropLast
  match t.node? parent with
  | none => .error .notFound
  | some (.file _) => .error .notADirectory
  | some .directory =>
    let last := parts.getLastD "."
    if 255 < last.utf8ByteSize then .error .nameTooLong
    else if last = "." ∨ last = ".." then .error .occupied
    else if (t.node? (parent ++ [last])).isSome then .error .occupied
    else .ok (t.set (parent ++ [last]) .directory)

/-- The parts of a name lead from a place to a directory. -/
def leadsToDirectory (t : FileTree) (start parts : List String) : Bool :=
  match t.walk start parts with
  | .ok place => t.isDirectory place
  | .error _ => false

/-- Makes a directory, unless there is one already. -/
def ensureDirectory (t : FileTree) (start parts : List String) :
    Except FileFailure Unit × FileTree :=
  match t.makeDirectory start parts with
  | .ok t => (.ok (), t)
  | .error e => if t.leadsToDirectory start parts then (.ok (), t) else (.error e, t)

/-- Makes a directory and all that are missing above it. Where one cannot be made, those above it
have been made all the same. -/
def ensureDirectories (t : FileTree) (start parts : List String) :
    Except FileFailure Unit × FileTree :=
  if _h : parts = [] then (.ok (), t)
  else match t.makeDirectory start parts with
    | .error .notFound =>
      match t.ensureDirectories start parts.dropLast with
      | (.ok (), t) => t.ensureDirectory start parts
      | (.error e, t) => (.error e, t)
    | _ => t.ensureDirectory start parts
termination_by parts.length
decreasing_by
  have := List.length_pos_iff.2 _h
  simp only [List.length_dropLast]
  omega

/-- Every name below the top, directories with a slash at the end, in ascending order. -/
def listing (t : FileTree) : List String :=
  (t.nodes.filterMap fun (place, node) =>
    if home.isPrefixOf place then
      some ("/".intercalate (place.drop home.length) ++ (if node = .directory then "/" else ""))
    else none).mergeSort

end FileTree

end SimDepot
