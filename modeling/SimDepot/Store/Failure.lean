/-!
# Failures of the store

A statement fails because the database refuses it, because a stored text is no value of its type, or
because the database cannot be reached at all. `StoreFailure.isContention` tells the failures that
pass by themselves: another connection holds the write lock.
-/

namespace SimDepot

/-- Why the database refuses a statement. -/
inductive Refusal
  /-- Another connection holds the write lock. -/
  | locked
  /-- There is no identity left for a new row. -/
  | full
  /-- A row refers to a row that does not exist. -/
  | danglingReference
  /-- Another row has the same value in columns that are unique. -/
  | duplicate (columns : String)
  /-- The table does not exist. -/
  | noSuchTable (table : String)
  /-- The database was opened for reading only. -/
  | readOnly
  /-- The file cannot be opened. -/
  | cannotOpen
  /-- The file cannot be read. -/
  | ioFailure
  /-- The file holds something else. -/
  | notADatabase
  /-- The file does not fit together. -/
  | malformed
  /-- Any other refusal, by its number and text. -/
  | other (code : Nat) (text : String)
  deriving DecidableEq, Repr

namespace Refusal

/-- The number of a refusal. -/
def code : Refusal → Nat
  | locked => 5
  | full => 13
  | danglingReference => 787
  | duplicate _ => 2067
  | noSuchTable _ => 1
  | readOnly => 8
  | cannotOpen => 14
  | ioFailure => 266
  | notADatabase => 26
  | malformed => 11
  | other code _ => code

/-- What a refusal says. -/
def text : Refusal → String
  | locked => "database is locked"
  | full => "database or disk is full"
  | danglingReference => "FOREIGN KEY constraint failed"
  | duplicate columns => "UNIQUE constraint failed: " ++ columns
  | noSuchTable table => "no such table: " ++ table
  | readOnly => "attempt to write a readonly database"
  | cannotOpen => "unable to open database file"
  | ioFailure => "disk I/O error"
  | notADatabase => "file is not a database"
  | malformed => "database disk image is malformed"
  | other _ text => text

/-- The lower eight bits of the number of a refusal tell its class: 5 and 6 are the refusals for a
lock that another connection holds. -/
def isContention (r : Refusal) : Bool := r.code % 256 == 5 || r.code % 256 == 6

end Refusal

/-- What the store was doing when a statement was refused. -/
inductive Phase
  /-- Opening the database, or beginning a transaction. -/
  | connection
  /-- Running a statement that changes the database. -/
  | execution
  /-- Running a statement that reads. -/
  | query
  deriving DecidableEq, Repr

/-- How messages call a phase. -/
def Phase.title : Phase → String
  | connection => "Connection Error"
  | execution => "Execution Error"
  | query => "Query Error"

/-- Why the store did not do what it was asked for. -/
inductive StoreFailure
  /-- The database refused a statement. -/
  | refused (phase : Phase) (refusal : Refusal)
  /-- A stored text is no value of the type `kind`. -/
  | unreadable (kind text : String)
  /-- A row that was stored is not found again. -/
  | unfound
  /-- No connection could be made. -/
  | unconnected (text : String)
  /-- A failure known by its text only. -/
  | stated (text : String)
  deriving DecidableEq, Repr

namespace StoreFailure

/-- The text of a failure. -/
def message : StoreFailure → String
  | refused phase r =>
    phase.title ++ ": error returned from database: (code: " ++ toString r.code ++ ") " ++ r.text
  | unreadable kind text => "Type Error: unexpected value for " ++ kind ++ " enum: " ++ text
  | unfound => "RecordNotFound Error: Failed to find inserted item"
  | unconnected text => "Connection Error: " ++ text
  | stated text => "Custom Error: " ++ text

/-- Another connection holds the write lock; the same statement may succeed later. -/
def isContention : StoreFailure → Bool
  | refused _ r => r.isContention
  | _ => false

end StoreFailure

end SimDepot
