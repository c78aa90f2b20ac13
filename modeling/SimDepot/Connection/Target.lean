import SimDepot.Connection.Location

/-!
# What is opened

A target says which file is opened, for what, and by which way of accessing files. The options of a
location can take rights back but not add any. `Target.ofOptions` is the target of options.

Reference: the reading of options by the database that `create_connection` connects to.
-/

namespace SimDepot.Connection

/-- What a file is opened for. -/
inductive Access
  /-- For reading only. -/
  | read
  /-- For reading and writing. -/
  | write
  /-- For reading and writing; the file is made if there is none. -/
  | create
  deriving DecidableEq, Repr

/-- One right after the other: who may create may write, and who may write may read. -/
def Access.rank : Access → Nat
  | read => 0
  | write => 1
  | create => 2

/-- How files are accessed. -/
inductive Vfs
  /-- With locks of the operating system. -/
  | locking
  /-- With one lock for as long as the database is open. -/
  | exclusive
  /-- With a file beside the database as the lock. -/
  | lockFile
  /-- Without locks. -/
  | lockless
  /-- Not at all: the database is kept in memory. -/
  | memory
  deriving DecidableEq, Repr

namespace Vfs

/-- The way of accessing files that a name stands for. -/
def ofName? : String → Option Vfs
  | "unix" => some locking
  | "unix-excl" => some exclusive
  | "unix-dotfile" => some lockFile
  | "unix-none" => some lockless
  | "memdb" => some memory
  | _ => none

/-- Locks are kept by the operating system, which also shares memory. -/
def hasLocks (v : Vfs) : Bool := v == locking || v == exclusive

end Vfs

/-- What is opened. -/
structure Target where
  /-- The name of the file. -/
  file : String
  /-- What it is opened for. -/
  access : Access
  /-- The database is kept in memory, whatever its name. -/
  inMemory : Bool
  /-- How files are accessed. -/
  vfs : Vfs
  /-- Nobody changes the file, nor does the database. -/
  immutable : Bool
  /-- No locks are taken. -/
  noLock : Bool
  /-- The file whose permissions a new file takes. -/
  modeOf : Option String
  deriving DecidableEq, Repr

namespace Target

/-- What a value of the option `mode` asks for; nothing for a database in memory. -/
def accessOf? : String → Option (Option Access)
  | "ro" => some (some .read)
  | "rw" => some (some .write)
  | "rwc" => some (some .create)
  | "memory" => some none
  | _ => none

/-- The target with one more option of its location. A database in memory may be opened for
anything. -/
def set (target : Target) (option value : String) : Except Refusal Target :=
  match option with
  | "cache" =>
    if ["shared", "private"].contains value then .ok target
    else .error (.other 1 ("no such cache mode: " ++ value))
  | "mode" =>
    match accessOf? value with
    | none => .error (.other 1 ("no such access mode: " ++ value))
    | some none => .ok { target with access := .write, inMemory := true }
    | some (some access) =>
      if !target.inMemory && target.access.rank < access.rank then
        .error (.other 3 ("access mode not allowed: " ++ value))
      else .ok { target with access, inMemory := false }
  | _ => .ok target

/-- The target of a location. -/
def ofLocation (o : Options) (l : Location) : Except Refusal Target := do
  let start : Target := {
    file := l.file
    access := if o.readOnly then .read else if o.create then .create else .write
    inMemory := o.inMemory
    vfs := .locking
    immutable := l.isSet "immutable"
    noLock := l.isSet "nolock"
    modeOf := l.options.lookup "modeof" }
  let target ← l.options.foldlM (fun target (option, value) => target.set option value) start
  match l.options.reverse.lookup "vfs" with
  | none => return target
  | some name =>
    match Vfs.ofName? name with
    | some vfs => return { target with vfs }
    | none => throw (.other 1 ("no such vfs: " ++ name))

/-- The target of options. -/
def ofOptions (o : Options) : Except StoreFailure Target := do
  (ofLocation o (← Location.ofOptions o)).mapError (.refused .connection)

/-- The database has no file that the tree could show: it is kept in memory, or in a file that is
gone when it is closed. -/
def isTransient (target : Target) : Bool :=
  target.inMemory || target.file == "" || target.file == ":memory:" || target.vfs == .memory

/-- The database is not to be written. -/
def isReadOnly (target : Target) : Bool :=
  let hasName := !target.inMemory && target.file != "" && target.file != ":memory:"
  target.access == .read || hasName && target.immutable

end Target

end SimDepot.Connection
