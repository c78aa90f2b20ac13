import SimDepot.Flow.Action
import SimDepot.Json.Basic
import SimDepot.Rehearsal.Database

/-!
# Steps on the store

A rehearsal is made of steps. Those on the store alone run an action and show its value, or do
something to the database that no action does: take a row out, freeze it, put a text into a state.
They also run inside a transaction, and while the call of a service is out.
-/

namespace SimDepot.Rehearsal

/-- What comes of a step. -/
inductive Result
  /-- A value. -/
  | value (json : Json)
  /-- An error. -/
  | failed (error : Error)
  /-- The step could not be read, and was not run. -/
  | unread (reason : String)

namespace Result

/-- The value of a step that has none to show. -/
def unit : Result := value .null

instance : Inhabited Result := ⟨unit⟩

/-- What comes of an action. -/
def ofExcept : Except Error Json → Result
  | .ok json => value json
  | .error e => failed e

/-- What comes of a statement. -/
def ofStatement {α : Type} (render : α → Json) : Except StoreFailure α → Result
  | .ok a => value (render a)
  | .error e => failed (.store e)

end Result

/-- A step on the store alone. -/
inductive StoreStep
  /-- Runs an action. -/
  | act (action : Action Json)
  /-- Takes a SIM out. -/
  | deleteSim (id : SimId)
  /-- Lets no command change a row. -/
  | freeze (table : FreezableTable) (id : Int)
  /-- Lets commands change a row again. -/
  | unfreeze (table : FreezableTable) (id : Int)
  /-- Puts a text into a state of a SIM. -/
  | putState (id : SimId) (column : StateColumn) (text : String)
  /-- Puts a text into the status of a batch. -/
  | putStatus (id : BatchId) (text : String)
  /-- Shows every row. -/
  | dump (render : Contents.Dump → Json)
  /-- A step that could not be read. -/
  | unread (reason : String)

namespace Database

/-- A number of rows. -/
def count (n : Nat) : Json := .integer n

/-- Runs a step. -/
def perform (db : Database) : StoreStep → Result × Database
  | .act action =>
    let (result, db) := action.run.run answer db
    (.ofExcept result, db)
  | .deleteSim id =>
    let (result, db) := db.execute fun c => c.deleteSim id
    (.ofStatement count result, db)
  | .freeze table id =>
    let (result, db) := db.setFrozen true table id
    (.ofStatement (fun _ => .null) result, db)
  | .unfreeze table id =>
    let (result, db) := db.setFrozen false table id
    (.ofStatement (fun _ => .null) result, db)
  | .putState id column text =>
    let (result, db) := db.execute fun c => c.putState id column text
    (.ofStatement count result, db)
  | .putStatus id text =>
    let (result, db) := db.execute fun c => c.putStatus id text
    (.ofStatement count result, db)
  | .dump render => (.ofStatement render db.contents.dump, db)
  | .unread reason => (.unread reason, db)

/-- Runs steps in order. -/
def performAll (db : Database) : List StoreStep → List Result × Database
  | [] => ([], db)
  | step :: rest =>
    let (result, db) := db.perform step
    let (results, db) := db.performAll rest
    (result :: results, db)

/-- Runs steps in one transaction, and makes them last or takes them back. -/
def transaction (db : Database) (lasts : Bool) (steps : List StoreStep) : List Result × Database :=
  let (results, db) := db.begin.performAll steps
  (results, if lasts then db.commit else db.rollback)

end Database

end SimDepot.Rehearsal
