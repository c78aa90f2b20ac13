import SimDepot.Connection.Place
import SimDepot.DatabaseFile.Header

/-!
# Files beside databases

A database has files beside its own: a journal of a change that was not finished, a log of changes
with the memory that its readers share, and a lock. `Connected.recover` looks at them when the
database is first used: it undoes the change that was not finished and opens the log.
-/

namespace SimDepot.Connection

/-- A file beside a database. -/
inductive Companion
  /-- What is to be put back if a change is not finished. -/
  | journal
  /-- The log of changes. -/
  | log
  /-- What the readers of the log share. -/
  | sharedMemory
  /-- The lock. -/
  | lock
  deriving DecidableEq, Repr

namespace Companion

/-- What the name of a companion ends with. -/
def ending : Companion → String
  | journal => "-journal"
  | log => "-wal"
  | sharedMemory => "-shm"
  | lock => ".lock"

/-- The place of a companion. -/
def placeOf (c : Companion) (place : List String) : List String :=
  place.dropLast ++ [place.getLastD "" ++ c.ending]

/-- The name of a companion is not too long. -/
def canBe (c : Companion) (place : List String) : Bool :=
  ((c.placeOf place).getLastD "").utf8ByteSize ≤ 255

/-- What is at the place of a companion; an empty file does not count. -/
def found? (c : Companion) (t : FileTree) (place : List String) : Option FileNode :=
  (t.node? (c.placeOf place)).filter (· != .file [])

/-- The tree without the file of a companion; a directory stays. -/
def remove (c : Companion) (t : FileTree) (place : List String) : FileTree :=
  if t.isDirectory (c.placeOf place) then t
  else ⟨t.nodes.filter (·.1 != c.placeOf place)⟩

end Companion

namespace Connected

/-- Locks of the operating system are taken. -/
def takesLocks (c : Connected) : Bool := c.target.vfs.hasLocks && !c.target.noLock

/-- The lock is a file, and it is there already or cannot be made. -/
def checkLock (c : Connected) (t : FileTree) (place : List String) : Except Refusal Unit :=
  if c.target.vfs ≠ .lockFile ∨ c.target.noLock then .ok ()
  else if !Companion.lock.canBe place then .error (.other 3850 "disk I/O error")
  else if (t.node? (Companion.lock.placeOf place)).isSome then .error .locked
  else .ok ()

/-- Undoes a change that was not finished: the journal of one begins with a byte that is not zero.
The journal of an empty database is of no use. -/
def undo (c : Connected) (t : FileTree) (place : List String) (isEmpty : Bool) :
    Except Refusal FileTree :=
  -- A change that somebody has a lock for is not undone; a file as the lock does not tell whose.
  let isLocked := c.target.vfs == .lockFile &&
    (!c.target.noLock || (t.node? (Companion.lock.placeOf place)).isSome)
  match Companion.journal.found? t place with
  | none => .ok t
  | some node =>
    if isLocked then .ok t
    else if isEmpty then
      .ok (if c.target.access = .read ∧ c.takesLocks then t else Companion.journal.remove t place)
    else match node with
      | .directory => .error .ioFailure
      | .file bytes =>
        if bytes.headD 0 = 0 then .ok t
        else if c.target.access = .read then .error (.other 776 Refusal.readOnly.text)
        else .ok (Companion.journal.remove t place)

/-- A journal can be written. -/
def checkJournal (t : FileTree) (place : List String) : Except Refusal Unit :=
  if !Companion.journal.canBe place ∨ t.isDirectory (Companion.journal.placeOf place) then
    .error .cannotOpen
  else .ok ()

/-- Opens the log; its readers share memory, which not every way of accessing files can give them.
-/
def openLog (c : Connected) (t : FileTree) (place : List String) : Except Refusal FileTree :=
  if !c.takesLocks ∨ !Companion.log.canBe place ∨ t.isDirectory (Companion.log.placeOf place) then
    .error .cannotOpen
  else
    let kept (t : FileTree) (companion : Companion) : FileTree :=
      if (t.node? (companion.placeOf place)).isSome then t
      else t.set (companion.placeOf place) (.file [])
    let t := kept t .log
    .ok (if c.target.vfs = .locking then kept t .sharedMemory else t)

/-- Makes a database ready for use, and tells whether its log was opened. A log is opened if there
is one or the database uses one. -/
def recover (c : Connected) (t : FileTree) (place : List String) (f : DatabaseFile) :
    Except Refusal Bool × FileTree :=
  let isEmpty := f.size == 0
  if c.target.immutable then (.ok false, t)
  else match c.checkLock t place with
    | .error r => (.error r, t)
    | .ok () =>
      match c.undo t place isEmpty with
      | .error r => (.error r, t)
      | .ok t =>
        match Companion.log.found? t place with
        | some .directory =>
          if isEmpty then (.error (.other 2570 "disk I/O error"), t)
          else (.error .cannotOpen, t)
        | found =>
          if isEmpty then (.ok false, if found.isSome then Companion.log.remove t place else t)
          else if found.isSome || f.usesLog then
            match c.openLog t place with
            | .ok t => (.ok true, t)
            | .error r => (.error r, t)
          else (.ok false, t)

/-- The log may be written: what its readers share is no directory, which could only be read. -/
def canLog (c : Connected) (t : FileTree) (place : List String) : Bool :=
  c.target.vfs != .locking || !t.isDirectory (Companion.sharedMemory.placeOf place)

/-- What is left beside a database when it is closed: the log is written back by whoever may write.
-/
def closed (c : Connected) (t : FileTree) (place : List String) (hasLog : Bool) : FileTree :=
  if hasLog ∧ c.target.access ≠ .read ∧ c.canLog t place then
    Companion.sharedMemory.remove (Companion.log.remove t place) place
  else t

end Connected

end SimDepot.Connection
