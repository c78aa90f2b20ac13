import SimDepot.Batch.Basic
import SimDepot.Directory.Basic
import SimDepot.Sim.Basic
import SimDepot.Store.Table

/-!
# The store

The store keeps the directory of services, the permissions, the import batches and the SIMs. Names
are unique within a role and card numbers among all SIMs. `Store.Referential` says that permissions
and SIMs refer to rows that exist; batches are not held to that.
-/

namespace SimDepot

instance : Row Entry := ⟨Entry.id, fun e => some e.name⟩

instance : Row Batch := ⟨Batch.id, fun _ => none⟩

instance : Row Sim := ⟨Sim.id, fun s => some s.iccid⟩

/-- Everything that is stored. -/
structure Store where
  /-- The registries. -/
  registries : Table Entry
  /-- The vendors. -/
  vendors : Table Entry
  /-- The permissions, in the order in which they were given. -/
  permissions : List Permission
  /-- The import batches. -/
  batches : Table Batch
  /-- The SIMs. -/
  sims : Table Sim
  /-- No permission is stored twice. -/
  nodup_permissions : permissions.Nodup

namespace Store

/-- The store without rows. -/
def empty : Store := ⟨.empty, .empty, [], .empty, .empty, .nil⟩

instance : Inhabited Store := ⟨empty⟩

/-- The entries of a role. -/
def entries (s : Store) : Role → Table Entry
  | .registry => s.registries
  | .vendor => s.vendors

/-- The store with other entries of a role. -/
def setEntries (s : Store) (role : Role) (t : Table Entry) : Store :=
  match role with
  | .registry => { s with registries := t }
  | .vendor => { s with vendors := t }

/-- The rows that a SIM refers to exist. -/
def hasReferences (s : Store) (sim : SimData) : Bool :=
  s.registries.hasId sim.registryId && s.vendors.hasId sim.vendorId &&
    s.batches.hasId sim.batchId

/-- Permissions and SIMs refer to rows that exist. -/
structure Referential (s : Store) : Prop where
  /-- The vendor of every permission exists. -/
  vendor : ∀ p ∈ s.permissions, s.vendors.hasId p.vendorId
  /-- The registry of every permission exists. -/
  registry : ∀ p ∈ s.permissions, s.registries.hasId p.registryId
  /-- The rows that every SIM refers to exist. -/
  sim : ∀ sim ∈ s.sims.rows, s.hasReferences sim.toSimData

theorem referential_empty : empty.Referential :=
  ⟨by simp [empty], by simp [empty], by simp [empty, Table.empty]⟩

end Store

end SimDepot
