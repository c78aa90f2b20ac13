import SimDepot.Sim.Change
import SimDepot.Store.Basic
import SimDepot.Store.Failure

/-!
# Commands to the store

A `Command` is one statement that writes. The store executes all of it, or refuses it and stays as
it was. References are checked when a statement is complete, so that of a repeated value and a
reference to nothing the repeated value is reported.
-/

namespace SimDepot

/-- A SIM to be stored, with the identity it is to get if that was fixed beforehand. -/
structure SimDraft extends SimData where
  /-- Identity of the SIM; the table chooses one where there is none. -/
  id? : Option SimId
  deriving DecidableEq, Repr

/-- A statement that writes. -/
inductive Command
  /-- Stores an entry. -/
  | addEntry (role : Role) (name : String)
  /-- Stores a permission. -/
  | addPermission (p : Permission)
  /-- Stores a batch that is running. -/
  | openBatch (importer : String) (registry : RegistryId) (vendor : VendorId) (time : Timestamp)
  /-- Closes a batch, if it is running. -/
  | closeBatch (id : BatchId) (size : Nat) (status : BatchStatus) (time : Timestamp)
  /-- Changes a SIM, if it admits the change. -/
  | changeSim (id : SimId) (change : SimChange)
  /-- Stores SIMs. -/
  | addSims (drafts : List SimDraft)
  deriving DecidableEq, Repr

namespace Store

/-- The table that keeps the entries of a role. -/
def entryTable : Role → String
  | .registry => "registries"
  | .vendor => "profile_vendors"

/-- Stores a row under the identity `id?`, or under the next one that the table has. Messages call
the table `table` and the column with unique texts `column`. -/
def insertRow {α : Type} [Row α] (table column : String) (t : Table α) (id? : Option Int)
    (row : Int → α) : Except Refusal (Table α × α) :=
  match id?.or t.nextId? with
  | none => .error .full
  | some id =>
    match t.add (row id) with
    | .ok t => .ok (t, row id)
    | .error .id => .error (.duplicate (table ++ ".id"))
    | .error .text => .error (.duplicate (table ++ "." ++ column))

/-- Stores an entry. -/
def addEntry (s : Store) (role : Role) (name : String) : Except Refusal (Store × Entry) := do
  let (t, e) ← insertRow (entryTable role) "name" (s.entries role) none fun id => ⟨id, name⟩
  return (s.setEntries role t, e)

/-- Stores a permission between a vendor and a registry that exist. -/
def addPermission (s : Store) (p : Permission) : Except Refusal (Store × Permission) :=
  if h : p ∈ s.permissions then
    .error (.duplicate
      "vendor_registry_permissions.vendor_id, vendor_registry_permissions.registry_id")
  else if !(s.vendors.hasId p.vendorId && s.registries.hasId p.registryId) then
    .error .danglingReference
  else
    .ok ({ s with
      permissions := s.permissions ++ [p]
      nodup_permissions := by
        rw [List.nodup_append]
        exact ⟨s.nodup_permissions, by simp, fun a ha b hb => by
          rw [List.mem_singleton] at hb
          exact fun e => h (hb ▸ e ▸ ha)⟩ }, p)

/-- Stores a batch that is running. -/
def openBatch (s : Store) (importer : String) (registry : RegistryId) (vendor : VendorId)
    (time : Timestamp) : Except Refusal (Store × Batch) := do
  let (t, b) ← insertRow "import_batches" "id" s.batches none fun id =>
    { id, importer, registryId := registry, vendorId := vendor, size := 0, status := .started,
      startedAt := time, endedAt := none }
  return ({ s with batches := t }, b)

/-- The batch is running. -/
def isRunning (b : Batch) : Bool := b.status == .started

/-- Closes a batch, if it is running, and counts the batches closed. -/
def closeBatch (s : Store) (id : BatchId) (size : Nat) (status : BatchStatus) (time : Timestamp) :
    Store × Nat :=
  ({ s with
    batches := s.batches.update id isRunning
      (fun b => { b with size := size, status := status, endedAt := some time })
      (fun _ => rfl) (fun _ => rfl) },
    s.batches.countMatching id isRunning)

/-- Changes a SIM, if it admits the change, and counts the SIMs changed. -/
def changeSim (s : Store) (id : SimId) (change : SimChange) : Store × Nat :=
  ({ s with
    sims := s.sims.update id (fun sim => change.admits sim.toSimData) (fun sim => sim.change change)
      (fun _ => rfl) (fun sim => by simp [Row.uniqueText?]) },
    s.sims.countMatching id fun sim => change.admits sim.toSimData)

/-- Stores one SIM; its references are not looked at. -/
def addSim (s : Store) (draft : SimDraft) : Except Refusal Store := do
  let (t, _) ← insertRow "sim_resources" "iccid" s.sims draft.id? fun id =>
    { draft.toSimData with id }
  return { s with sims := t }

/-- Stores SIMs, in order, and then checks their references. -/
def addSims (s : Store) (drafts : List SimDraft) : Except Refusal Store := do
  let s ← drafts.foldlM addSim s
  if drafts.all fun d => s.hasReferences d.toSimData then .ok s else .error .danglingReference

end Store

namespace Command

/-- What a command is answered with: the row that was stored, or the number of rows changed. -/
abbrev Answer : Command → Type
  | addEntry .. => Entry
  | addPermission _ => Permission
  | openBatch .. => Batch
  | closeBatch .. | changeSim .. => Nat
  | addSims _ => Unit

/-- The store after a command and the answer, or the refusal. -/
def exec (s : Store) : (c : Command) → Except Refusal (Store × c.Answer)
  | addEntry role name => s.addEntry role name
  | addPermission p => s.addPermission p
  | openBatch importer registry vendor time => s.openBatch importer registry vendor time
  | closeBatch id size status time => .ok (s.closeBatch id size status time)
  | changeSim id change => .ok (s.changeSim id change)
  | addSims drafts => (s.addSims drafts).map fun s => (s, ())

end Command

end SimDepot
