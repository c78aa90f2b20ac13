import SimDepot.Connection.Target
import SimDepot.Files.Tree

/-!
# Places of databases

The name of a database file is followed from the root of the file system: `.` and `..` are taken by
their names alone, and every place on the way is looked at. What is not there may still be followed;
what leads through a file may not, nor may a name that is too long. `Target.place?` is where the
name of a target leads.

Reference: the opening of a file by the database that `create_connection` connects to.
-/

namespace SimDepot.Connection

/-- How many bytes a name from the root has. -/
def nameLength (parts : List String) : Nat := parts.foldr (fun p n => p.utf8ByteSize + 1 + n) 0

/-- The most bytes that a name from the root may have. -/
def longestName : Nat := 511

/-- Something may be at a place. -/
def canLookUp (t : FileTree) (place : List String) : Bool :=
  match t.walk [] place with
  | .ok _ | .error .notFound => true
  | .error _ => false

/-- Follows the parts of a name from a place. The root itself is none for a database, and a name has
to leave room for the names of the files beside it. -/
def follow (t : FileTree) (place : List String) : List String → Option (List String)
  | [] => if place = [] ∨ longestName < nameLength place + 7 then none else some place
  | part :: rest =>
    if part = "." then follow t place rest
    else if part = ".." then follow t place.dropLast rest
    else
      let place := place ++ [part]
      if longestName < nameLength place ∨ !canLookUp t place then none else follow t place rest

/-- The place of the file of a target. -/
def Target.place? (t : FileTree) (target : Target) : Option (List String) :=
  follow t (FileTree.start (FileTree.isAbsolute target.file)) (nameParts target.file.toList)

/-- A database that is open. -/
structure Connected where
  /-- What was opened. -/
  target : Target
  /-- Where its file is; nothing for a database without a file of its own. -/
  place : Option (List String)
  deriving DecidableEq, Repr

/-- Opens what a target says. A directory cannot be opened for writing, and fails when it is read.
-/
def Target.opened (t : FileTree) (target : Target) : Except Refusal Connected × FileTree :=
  if target.isTransient then (.ok ⟨target, none⟩, t)
  else match target.place? t with
    | none => (.error .cannotOpen, t)
    | some place =>
      let found (name : String) : Bool := match t.place? name with
        | .ok p => (t.node? p).isSome
        | .error _ => false
      if !target.modeOf.all found then (.error (.other 1802 "disk I/O error"), t)
      else match t.node? place with
        | some .directory =>
          (.error (if target.access = .read then .ioFailure else .cannotOpen), t)
        | some (.file _) => (.ok ⟨target, some place⟩, t)
        | none =>
          if target.access = .create ∧ t.leadsToDirectory [] place.dropLast then
            (.ok ⟨target, some place⟩, t.set place (.file []))
          else (.error .cannotOpen, t)

end SimDepot.Connection
