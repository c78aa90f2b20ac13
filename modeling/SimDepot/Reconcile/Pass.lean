import SimDepot.Directory.Upkeep
import SimDepot.Reconcile.Pool

/-!
# A pass over all pools

A pass visits every registry in the order of identities, and the pools of each in the order of
profile types. The failure of one pool is reported and leaves the others alone; only when the
pools cannot be listed does the pass fail.

Reference: `total_released`, `failures`, `reconcile`.
-/

namespace SimDepot

/-- What a pass did: one report for each pool, in the order of the visits. -/
structure PassReport where
  /-- The reports. -/
  pools : List PoolReport
  deriving DecidableEq, Repr

namespace PassReport

/-- How many SIMs the pass released. -/
def released (r : PassReport) : Nat := (r.pools.map (·.released)).foldr (· + ·) 0

/-- The pools whose run failed. -/
def failures (r : PassReport) : List PoolReport := r.pools.filter fun p => p.error?.isSome

end PassReport

namespace Reconcile

open SimDepot.Action

/-- Visits the pools of a registry with these profile types. -/
def poolsOf (bindings : Bindings) (tuning : Tuning) (registry : RegistryId) :
    List String → Flow (List PoolReport)
  | [] => return []
  | profile :: rest => do
    let report ← pool bindings tuning ⟨registry, profile⟩
    return report :: (← poolsOf bindings tuning registry rest)

/-- Visits the pools of registries. -/
def registries (bindings : Bindings) (tuning : Tuning) : List Entry → Action (List PoolReport)
  | [] => return []
  | entry :: rest => do
    let profiles ← Directory.profileTypes entry.id
    let reports ← ofFlow (poolsOf bindings tuning entry.id profiles)
    return reports ++ (← registries bindings tuning rest)

/-- Runs one pass. -/
def pass (bindings : Bindings) (tuning : Tuning) : Action PassReport := do
  return ⟨← registries bindings tuning (← Directory.list .registry)⟩

end Reconcile

end SimDepot
