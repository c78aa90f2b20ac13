import SimDepot.Store.Basic
import SimDepot.Text.Names

/-!
# Questions to the store

A `Query` is one statement that reads, with an answer of its own type; `Query.eval` gives the answer
of a store. SIMs are found by `SimQuery`: the first one, in the order of identities, that satisfies
the conditions of the question.
-/

namespace SimDepot

/-- Which SIM is looked for; of several the one with the smallest identity is found. -/
inductive SimQuery
  /-- The SIM with this identity. -/
  | withId (id : SimId)
  /-- The SIM with this card number. -/
  | withIccid (iccid : String)
  /-- A SIM with this subscriber identity. -/
  | withImsi (imsi : String)
  /-- A SIM with this subscriber number. -/
  | withMsisdn (msisdn : String)
  /-- Raw stock of a pool. -/
  | raw (pool : Pool)
  /-- A SIM of a pool that is ready to use. -/
  | ready (pool : Pool)
  deriving DecidableEq, Repr

/-- The SIM satisfies the conditions of a question. -/
def SimQuery.holds : SimQuery → Sim → Bool
  | withId id, s => s.id == id
  | withIccid iccid, s => s.iccid == iccid
  | withImsi imsi, s => s.imsi == imsi
  | withMsisdn msisdn, s => s.msisdn == some msisdn
  | raw pool, s => s.pool == pool && s.isRaw
  | ready pool, s => s.pool == pool && s.isReady

/-- The SIMs of a pool that agree on the vendor axis and the claim axis. -/
structure PoolGroup where
  /-- Their place on the vendor axis. -/
  vendorState : VendorState
  /-- Their place on the claim axis. -/
  provisionState : ProvisionState
  /-- Their number. -/
  count : Nat
  deriving DecidableEq, Repr

/-- A statement that reads. -/
inductive Query
  /-- The entries of a role. -/
  | entries (role : Role)
  /-- The entry of a role with this identity. -/
  | entryWithId (role : Role) (id : Int)
  /-- The entry of a role with this name. -/
  | entryNamed (role : Role) (name : String)
  /-- A permission, if it was given. -/
  | permission (p : Permission)
  /-- The profile types of the SIMs of a registry. -/
  | profileTypes (registry : RegistryId)
  /-- The batch with this identity. -/
  | batch (id : BatchId)
  /-- The batches imported for a registry, the newest first. -/
  | batches (registry : RegistryId)
  /-- A SIM. -/
  | sim (q : SimQuery)
  /-- The pending SIMs of a registry. -/
  | pendingSims (registry : RegistryId)
  /-- The SIMs of a pool, counted by vendor axis and claim axis. -/
  | poolGroups (pool : Pool)
  deriving DecidableEq, Repr

namespace Query

/-- What a question is answered with. -/
abbrev Answer : Query → Type
  | entries _ => List Entry
  | entryWithId .. | entryNamed .. => Option Entry
  | permission _ => Option Permission
  | profileTypes _ => List String
  | batch _ => Option Batch
  | batches _ => List Batch
  | sim _ => Option Sim
  | pendingSims _ => List Sim
  | poolGroups _ => List PoolGroup

/-- Every place on the vendor axis and the claim axis, in the order of the words for them. -/
def axes : List (VendorState × ProvisionState) :=
  [(.available, .available), (.available, .provisioned),
    (.released, .available), (.released, .provisioned)]

/-- The groups of a list of SIMs that are not empty. -/
def groups (sims : List Sim) : List PoolGroup :=
  (axes.map fun (v, p) =>
    ⟨v, p, sims.countP fun s => s.vendorState == v && s.provisionState == p⟩).filter
      fun g => g.count != 0

/-- The answer of a store. -/
def eval (s : Store) : (q : Query) → q.Answer
  | entries role => (s.entries role).rows
  | entryWithId role id => (s.entries role).withId? id
  | entryNamed role name => (s.entries role).find? fun e => e.name == name
  | permission p => s.permissions.find? fun q => q == p
  | profileTypes registry =>
    Text.distinctNames ((s.sims.select fun sim => sim.registryId == registry).map (·.profileType))
  | batch id => s.batches.withId? id
  | batches registry => (s.batches.select fun b => b.registryId == registry).reverse
  | sim q => s.sims.find? q.holds
  | pendingSims registry => s.sims.select fun sim =>
    sim.registryId == registry && sim.provisionState == .provisioned &&
      sim.registryState == .notActivated && sim.suspendedAt.isNone
  | poolGroups pool => groups (s.sims.select fun sim => sim.pool == pool)

/-- The conditions of the question for the pending SIMs say of every SIM that it is pending. -/
theorem eval_pendingSims (s : Store) (registry : RegistryId) : eval s (pendingSims registry) =
    s.sims.select fun sim => sim.registryId == registry && sim.isPending := by
  simp only [eval, SimData.isPending, Bool.and_assoc]

end Query

end SimDepot
