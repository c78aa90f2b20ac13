import SimDepot.Stock.Lookup

/-!
# Claiming a SIM

A claim hands out the SIM of a pool that is ready to use and has the smallest identity. The SIM is
chosen and claimed in one transaction, and the claim is guarded: if another caller came first, the
transaction is taken back and the next SIM is tried. A store whose write lock another connection
holds is tried again after a pause that grows with every attempt.

Reference: `find_next_ready_to_use`, `try_claim`, `is_lock_contention`.
-/

namespace SimDepot.Stock

open SimDepot.Action

/-- The number of attempts before a claim is given up. -/
def claimAttempts : Nat := 32

/-- The pause after the first attempt at a locked store, in milliseconds; later pauses are multiples
of it. -/
def claimPause : Nat := 5

/-- How one attempt to claim a SIM ended. -/
inductive ClaimAttempt
  /-- The SIM was claimed. -/
  | claimed (sim : Sim)
  /-- Nothing is ready to use. -/
  | nothingReady
  /-- Another caller claimed the SIM first. -/
  | lost
  deriving DecidableEq, Repr

/-- One attempt to claim the first SIM of a pool that is ready to use. -/
def tryClaim (pool : Pool) : Action ClaimAttempt :=
  inTransaction do
    match ← read (.sim (.ready pool)) with
    | none =>
      rollback
      return .nothingReady
    | some candidate =>
      let claimed ← write (.changeSim candidate.id .claim)
      -- The guard found the row changed since it was read.
      if claimed ≠ 1 then
        rollback
        return .lost
      else
        let sim ← withId candidate.id
        commit
        return .claimed sim

/-- Tries to claim a SIM of a pool, `left` times at most; `number` is the number of the first of
these attempts. -/
def claimWithin (pool : Pool) (number : Nat) : (left : Nat) → Action Sim
  | 0 => throw (.system (.claimGivenUp pool claimAttempts))
  | left + 1 => do
    match ← attempt (tryClaim pool) with
    | .ok (.claimed sim) => return sim
    | .ok .nothingReady => throw (.notFound (.readySim pool))
    | .ok .lost => claimWithin pool (number + 1) left
    | .error (.store failure) =>
      if failure.isContention then
        pause (claimPause * number)
        claimWithin pool (number + 1) left
      else throw (.store failure)
    | .error e => throw e

/-- Claims the first SIM of a pool that is ready to use. -/
def claim (pool : Pool) : Action Sim := claimWithin pool 1 claimAttempts

end SimDepot.Stock
