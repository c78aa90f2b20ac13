import SimDepot.Store.Command
import SimDepot.Store.Query

/-!
# Stray texts

A database keeps states as texts, and somebody else may have put a text there that is no state. Such
a stray text makes a row unreadable. A condition on the state finds the row no more, while a command
that writes the state puts it right.

What follows says, for every question and every change, which states of a SIM its conditions look at
and which it writes.
-/

namespace SimDepot

/-- A column that holds a state of a SIM, in the order of the columns. -/
inductive StateColumn
  /-- What the registry knows. -/
  | registryState
  /-- The vendor axis. -/
  | vendorState
  /-- The claim axis. -/
  | provisionState
  deriving DecidableEq, Repr

namespace StateColumn

/-- Every column, in order. -/
def all : List StateColumn := [registryState, vendorState, provisionState]

/-- The name of a column. -/
def name : StateColumn → String
  | registryState => "registry_state"
  | vendorState => "vendor_state"
  | provisionState => "provision_state"

/-- What messages call the states of a column. -/
def kind : StateColumn → String
  | registryState => Worded.kind RegistryState
  | vendorState => Worded.kind VendorState
  | provisionState => Worded.kind ProvisionState

/-- The column with a name. -/
def ofName? (s : String) : Option StateColumn := all.find? fun c => c.name == s

/-- The word that a SIM has in a column. -/
def word (s : SimData) : StateColumn → String
  | registryState => s.registryState.word
  | vendorState => s.vendorState.word
  | provisionState => s.provisionState.word

/-- The SIM with the state that a word names, if it names one. -/
def set? (s : SimData) (text : String) : StateColumn → Option SimData
  | registryState => (Worded.ofWord? text).map fun state => { s with registryState := state }
  | vendorState => (Worded.ofWord? text).map fun state => { s with vendorState := state }
  | provisionState => (Worded.ofWord? text).map fun state => { s with provisionState := state }

end StateColumn

/-- The states that the conditions of a question look at. -/
def Query.tested : Query → List StateColumn
  | .sim (.raw _) => [.vendorState]
  | .sim (.ready _) => [.vendorState, .provisionState]
  | .pendingSims _ => [.provisionState, .registryState]
  | _ => []

/-- The table that a question is put to. -/
def Query.table : Query → String
  | .entries role | .entryWithId role _ | .entryNamed role _ => Store.entryTable role
  | .permission _ => "vendor_registry_permissions"
  | .batch _ | .batches _ => "import_batches"
  | .profileTypes _ | .sim _ | .pendingSims _ | .poolGroups _ => "sim_resources"

/-- The table that a command writes. -/
def Command.table : Command → String
  | .addEntry role _ => Store.entryTable role
  | .addPermission _ => "vendor_registry_permissions"
  | .openBatch .. | .closeBatch .. => "import_batches"
  | .changeSim .. | .addSims _ => "sim_resources"

namespace SimChange

/-- The states that the guard of a change looks at. -/
def tested : SimChange → List StateColumn
  | setRegistryState .activated | release _ | setProvisionState .provisioned => [.vendorState]
  | setVendorState .available => [.provisionState, .registryState]
  | setProvisionState .available => [.registryState]
  | claim => [.vendorState, .provisionState]
  | setEid _ | setMsisdn _ | setRegistryState .notActivated | suspend _
  | setVendorState .released => []

/-- The states that a change writes. -/
def written : SimChange → List StateColumn
  | setRegistryState _ | suspend _ => [.registryState]
  | setVendorState _ | release _ => [.vendorState]
  | setProvisionState _ | claim => [.provisionState]
  | setEid _ | setMsisdn _ => []

end SimChange

/-- The stray texts of a database. -/
structure Strays where
  /-- Stray states of SIMs. -/
  sims : List (SimId × StateColumn × String)
  /-- Stray statuses of batches. -/
  batches : List (BatchId × String)
  deriving DecidableEq, Repr

namespace Strays

/-- No stray texts. -/
def none : Strays := ⟨[], []⟩

/-- The stray text of a SIM in a column. -/
def text? (s : Strays) (id : SimId) (column : StateColumn) : Option String :=
  (s.sims.find? fun e => e.1 == id && e.2.1 == column).map (·.2.2)

/-- A SIM has a stray text in one of these columns. -/
def isIn (s : Strays) (id : SimId) (columns : List StateColumn) : Bool :=
  columns.any fun c => (s.text? id c).isSome

/-- Why a SIM cannot be read, if it cannot. -/
def failure? (s : Strays) (id : SimId) (columns : List StateColumn) : Option StoreFailure :=
  columns.findSome? fun c => (s.text? id c).map fun text => .unreadable c.kind text

/-- Why a batch cannot be read, if it cannot. -/
def batchFailure? (s : Strays) (id : BatchId) : Option StoreFailure :=
  (s.batches.lookup id).map fun text => .unreadable (Worded.kind BatchStatus) text

/-- A SIM has no stray text in these columns any more. -/
def clear (s : Strays) (id : SimId) (columns : List StateColumn) : Strays :=
  { s with sims := s.sims.filter fun e => !(e.1 == id && columns.contains e.2.1) }

/-- A batch has no stray status any more. -/
def clearBatch (s : Strays) (id : BatchId) : Strays :=
  { s with batches := s.batches.filter fun e => e.1 != id }

/-- The stray texts of a group of SIMs make its figures unreadable: of the groups, in the order of
their texts, the first that has one. -/
def groupFailure? (s : Strays) (sims : List Sim) : Option StoreFailure :=
  let columns : List StateColumn := [.vendorState, .provisionState]
  let key (sim : Sim) : List String :=
    columns.map fun c => (s.text? sim.id c).getD (c.word sim.toSimData)
  let first? (best : Option Sim) (sim : Sim) : Option Sim :=
    match best with
    | some b => if key sim < key b then some sim else some b
    | .none => some sim
  (sims.filter fun sim => s.isIn sim.id columns).foldl first? .none |>.bind fun sim =>
    s.failure? sim.id columns

end Strays

end SimDepot
