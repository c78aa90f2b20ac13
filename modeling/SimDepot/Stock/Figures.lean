import SimDepot.Flow.Action

/-!
# Figures of a pool

How many SIMs of a pool there are, how many are raw stock, how many are ready to use and how many
are claimed.

Reference: `get_pool_statistics`.
-/

namespace SimDepot

/-- The numbers of SIMs of a pool. -/
structure PoolFigures where
  /-- All SIMs. -/
  total : Nat
  /-- Raw stock. -/
  raw : Nat
  /-- Released and not claimed. -/
  ready : Nat
  /-- Released and claimed. -/
  claimed : Nat
  deriving DecidableEq, Repr

namespace PoolFigures

/-- No SIMs. -/
def zero : PoolFigures := ⟨0, 0, 0, 0⟩

/-- The figures with a further group of SIMs. -/
def add (f : PoolFigures) (g : PoolGroup) : PoolFigures :=
  let f := { f with total := f.total + g.count }
  match g.vendorState, g.provisionState with
  | .available, _ => { f with raw := f.raw + g.count }
  | .released, .available => { f with ready := f.ready + g.count }
  | .released, .provisioned => { f with claimed := f.claimed + g.count }

/-- The figures of the groups of a pool. -/
def ofGroups (groups : List PoolGroup) : PoolFigures := groups.foldl add zero

/-- The figures of a pool. -/
def read (pool : Pool) : Action PoolFigures :=
  return ofGroups (← Action.read (.poolGroups pool))

end PoolFigures

end SimDepot
