import SimDepot.Flow.Basic
import SimDepot.Rehearsal.Stray

/-!
# A database to rehearse with

Rehearsals run operations against a database in which things can go wrong. Its tables may not have
been made yet, rows may be frozen, so that no command changes them, states may hold stray texts, and
another connection may hold the write lock, for good or for a few milliseconds.

`Contents.read` and `Contents.write` are the statements of the store under these conditions; with
none of them at work they are `Query.eval` and `Command.exec`. `Database.answer` adds transactions,
which are taken back by returning to the contents before them, and the lock.
-/

namespace SimDepot.Rehearsal

/-- A table with rows that can be frozen. -/
inductive FreezableTable
  /-- The SIMs. -/
  | sims
  /-- The batches. -/
  | batches
  deriving DecidableEq, Repr

/-- The name of a table. -/
def FreezableTable.name : FreezableTable → String
  | sims => "sim_resources"
  | batches => "import_batches"

/-- What a database holds. -/
structure Contents where
  /-- The rows. -/
  store : Store
  /-- States that hold stray texts. -/
  strays : Strays
  /-- SIMs that no command changes. -/
  frozenSims : List SimId
  /-- Batches that no command changes. -/
  frozenBatches : List BatchId
  /-- The tables have been made. -/
  hasTables : Bool

namespace Contents

/-- A database that was just made. -/
def fresh (hasTables : Bool) : Contents := ⟨.empty, .none, [], [], hasTables⟩

/-- The store as the conditions of a question see it: without the SIMs that have a stray text where
the question looks. -/
def visible (c : Contents) (q : Query) : Store :=
  { c.store with sims := c.store.sims.restrict fun s => !c.strays.isIn s.id q.tested }

/-- The answer to a question, unless a row of it cannot be read. -/
def checked (c : Contents) : (q : Query) → q.Answer → Except StoreFailure q.Answer
  | .sim _, some s =>
    match c.strays.failure? s.id StateColumn.all with
    | some failure => .error failure
    | none => .ok (some s)
  | .pendingSims _, sims =>
    match sims.findSome? fun s => c.strays.failure? s.id StateColumn.all with
    | some failure => .error failure
    | none => .ok sims
  | .batch _, some b =>
    match c.strays.batchFailure? b.id with
    | some failure => .error failure
    | none => .ok (some b)
  | .batches _, batches =>
    match batches.findSome? fun b => c.strays.batchFailure? b.id with
    | some failure => .error failure
    | none => .ok batches
  | .poolGroups pool, groups =>
    match c.strays.groupFailure? (c.store.sims.select fun s => s.pool == pool) with
    | some failure => .error failure
    | none => .ok groups
  | _, answer => .ok answer

/-- Puts a question to the store. -/
def read (c : Contents) (q : Query) : Except StoreFailure q.Answer :=
  if !c.hasTables then .error (.refused .query (.noSuchTable q.table))
  else c.checked q (q.eval (c.visible q))

/-- Gives the store a command. -/
def write (c : Contents) (cmd : Command) : Except Refusal (Contents × cmd.Answer) :=
  if !c.hasTables then .error (.noSuchTable cmd.table)
  else match cmd with
    | .changeSim id change =>
      if c.frozenSims.contains id || c.strays.isIn id change.tested then .ok (c, (0 : Nat))
      else
        let (store, changed) := c.store.changeSim id change
        let strays := if changed = 0 then c.strays else c.strays.clear id change.written
        .ok ({ c with store, strays }, changed)
    | .closeBatch id size status time =>
      -- The guard of the command looks at the status, and a stray one is no open batch.
      if c.frozenBatches.contains id || (c.strays.batchFailure? id).isSome then .ok (c, (0 : Nat))
      else
        let (store, closed) := c.store.closeBatch id size status time
        .ok ({ c with store }, closed)
    | cmd => (cmd.exec c.store).map fun (store, answer) => ({ c with store }, answer)

/-- Takes a SIM out of the store, and counts the SIMs taken out. -/
def deleteSim (c : Contents) (id : SimId) : Except Refusal (Contents × Nat) :=
  if !c.hasTables then .error (.noSuchTable "sim_resources")
  else .ok ({ c with
    store := { c.store with sims := c.store.sims.restrict fun s => s.id != id }
    strays := c.strays.clear id StateColumn.all },
    if c.store.sims.hasId id then 1 else 0)

/-- Puts a text into a state of a SIM, and counts the SIMs changed. -/
def putState (c : Contents) (id : SimId) (column : StateColumn) (text : String) :
    Except Refusal (Contents × Nat) :=
  if !c.hasTables then .error (.noSuchTable "sim_resources")
  else if c.frozenSims.contains id || !c.store.sims.hasId id then .ok (c, 0)
  else
    let cleared := c.strays.clear id [column]
    let set (s : Sim) : Sim :=
      match column.set? s.toSimData text with
      | some d => { s with
          registryState := d.registryState, vendorState := d.vendorState
          provisionState := d.provisionState }
      | none => s
    let isState := ((c.store.sims.withId? id).bind fun s => column.set? s.toSimData text).isSome
    .ok ({ c with
      store := { c.store with
        sims := c.store.sims.update id (fun _ => true) set
          (fun s => by dsimp only [set]; split <;> rfl)
          (fun s => by dsimp only [set]; split <;> rfl) }
      strays := if isState then cleared
        else { cleared with sims := (id, column, text) :: cleared.sims } }, 1)

/-- Puts a text into the status of a batch, and counts the batches changed. -/
def putStatus (c : Contents) (id : BatchId) (text : String) : Except Refusal (Contents × Nat) :=
  if !c.hasTables then .error (.noSuchTable "import_batches")
  else if c.frozenBatches.contains id || !c.store.batches.hasId id then .ok (c, 0)
  else
    let cleared := c.strays.clearBatch id
    match (Worded.ofWord? text : Option BatchStatus) with
    | some status =>
      .ok ({ c with
        store := { c.store with
          batches := c.store.batches.update id (fun _ => true) (fun b => { b with status })
            (fun _ => rfl) (fun _ => rfl) }
        strays := cleared }, 1)
    | none =>
      .ok ({ c with strays := { cleared with batches := (id, text) :: cleared.batches } }, 1)

/-- A row is frozen. -/
def isFrozen (c : Contents) (table : FreezableTable) (id : Int) : Bool :=
  match table with
  | .sims => c.frozenSims.contains id
  | .batches => c.frozenBatches.contains id

/-- Freezes a row, or ends that. -/
def setFrozen (c : Contents) (frozen : Bool) (table : FreezableTable) (id : Int) :
    Except Refusal (Contents × Unit) :=
  let set (ids : List Int) := if frozen then id :: ids else ids.filter (· != id)
  if !c.hasTables then .error (.noSuchTable ("main." ++ table.name))
  else match table with
    | .sims => .ok ({ c with frozenSims := set c.frozenSims }, ())
    | .batches => .ok ({ c with frozenBatches := set c.frozenBatches }, ())

/-- Makes the tables. -/
def makeTables (c : Contents) : Except Refusal (Contents × Unit) :=
  .ok ({ c with hasTables := true }, ())

/-- Every row, table by table. -/
structure Dump where
  /-- The registries. -/
  registries : List Entry
  /-- The vendors. -/
  vendors : List Entry
  /-- The permissions, in the order of vendors, then registries. -/
  permissions : List Permission
  /-- The batches. -/
  batches : List Batch
  /-- The SIMs. -/
  sims : List Sim

/-- Reads every row. -/
def dump (c : Contents) : Except StoreFailure Dump :=
  if !c.hasTables then .error (.refused .query (.noSuchTable "registries"))
  else
    let s := c.store
    match (s.batches.rows.findSome? fun b => c.strays.batchFailure? b.id).or
        (s.sims.rows.findSome? fun sim => c.strays.failure? sim.id StateColumn.all) with
    | some failure => .error failure
    | none => .ok {
        registries := s.registries.rows
        vendors := s.vendors.rows
        permissions := s.permissions.mergeSort fun p q =>
          p.vendorId < q.vendorId || (p.vendorId == q.vendorId && p.registryId ≤ q.registryId)
        batches := s.batches.rows
        sims := s.sims.rows }

end Contents

/-- Who holds the write lock. -/
inductive Lock
  /-- Nobody. -/
  | free
  /-- Another connection, until it is told to let go. -/
  | held
  /-- Another connection, for some more milliseconds. -/
  | heldFor (milliseconds : Nat)
  deriving DecidableEq, Repr

namespace Lock

/-- Another connection holds the lock. -/
def isHeld : Lock → Bool
  | free => false
  | held | heldFor _ => true

/-- The lock after some milliseconds. -/
def elapse (passed : Nat) : Lock → Lock
  | heldFor n => if n ≤ passed then free else heldFor (n - passed)
  | lock => lock

end Lock

/-- A database with the transactions that are open on it. -/
structure Database where
  /-- What it holds. -/
  contents : Contents
  /-- What it held before each of the open transactions, the last one first. -/
  saved : List Contents
  /-- Who holds the write lock. -/
  lock : Lock

namespace Database

/-- A database that was just made. -/
def fresh (hasTables : Bool) : Database := ⟨.fresh hasTables, [], .free⟩

/-- Runs a statement that writes, unless another connection holds the lock. -/
def execute {α : Type} (db : Database) (statement : Contents → Except Refusal (Contents × α)) :
    Except StoreFailure α × Database :=
  match statement db.contents with
  -- A statement is prepared before it asks for the lock, and fails there if its table is missing.
  | .error (.noSuchTable table) => (.error (.refused .execution (.noSuchTable table)), db)
  | result =>
    if db.lock.isHeld then (.error (.refused .execution .locked), db)
    else match result with
      | .error refusal => (.error (.refused .execution refusal), db)
      | .ok (contents, a) => (.ok a, { db with contents })

/-- Makes the tables, if they have not been made. -/
def makeTables (db : Database) : Except StoreFailure Unit × Database :=
  if db.contents.hasTables then (.ok (), db) else db.execute Contents.makeTables

/-- Freezes a row, or ends that, unless it is so already. -/
def setFrozen (db : Database) (frozen : Bool) (table : FreezableTable) (id : Int) :
    Except StoreFailure Unit × Database :=
  if db.contents.isFrozen table id = frozen then (.ok (), db)
  else db.execute fun c => c.setFrozen frozen table id

/-- Begins a transaction. -/
def begin (db : Database) : Database := { db with saved := db.contents :: db.saved }

/-- Makes the innermost transaction last. -/
def commit (db : Database) : Database := { db with saved := db.saved.drop 1 }

/-- Takes the innermost transaction back. -/
def rollback (db : Database) : Database :=
  match db.saved with
  | contents :: saved => { db with contents, saved }
  | [] => db

/-- Answers the requests to a database. Behind a database alone there are no services: calls of them
fail. -/
def answer : Flow.Handler Database
  | .read q, db => (db.contents.read q, db)
  | .write cmd, db => db.execute fun c => c.write cmd
  | .begin, db => (.ok (), db.begin)
  | .commit, db => (.ok (), db.commit)
  | .rollback, db => (.ok (), db.rollback)
  | .abandon, db => ((), db.rollback)
  | .now, db => (.epoch, db)
  | .pause milliseconds, db => ((), { db with lock := db.lock.elapse milliseconds })
  | .activate .., db => (.error (.service "" (.stated "no service")), db)
  | .suspend .., db => (.error (.service "" (.stated "no service")), db)
  | .release .., db => (.error (.service "" (.stated "no service")), db)
  | .probe _, db => (false, db)

end Database

end SimDepot.Rehearsal
