import SimDepot.Settings.Basic
import SimDepot.Stock.Figures
import SimDepot.Stock.Lookup
import SimDepot.Stock.Update

/-!
# Reconciling a pool

A pool with fewer SIMs ready to use than the low-water mark is topped up: raw SIMs are released by
their vendors, one after the other, up to a number that is the budget of the pass. The run ends
early when no raw stock is left or when something fails; what was released before stays released.

The SIM to release is chosen, the vendor called and the release recorded in separate steps. The
recording is guarded, so that of two overlapping runs the first one wins, and the second goes on
with the next SIM.

Reference: `release_next`, `reconcile_pool`.
-/

namespace SimDepot

/-- How the run over a pool ended. -/
inductive PoolOutcome
  /-- Enough SIMs were ready to use. -/
  | aboveLowWater
  /-- The budget was used up. -/
  | replenished
  /-- No raw stock was left. -/
  | exhausted
  /-- Something failed. -/
  | failed (error : Error)
  deriving DecidableEq, Repr

/-- What the run over a pool did. -/
structure PoolReport where
  /-- The pool. -/
  pool : Pool
  /-- How many SIMs were ready to use before the run. -/
  readyBefore : Nat
  /-- How many SIMs the run released. -/
  released : Nat
  /-- How the run ended. -/
  outcome : PoolOutcome
  deriving DecidableEq, Repr

/-- The error that a run ended with, if it failed. -/
def PoolReport.error? (r : PoolReport) : Option Error :=
  match r.outcome with
  | .failed e => some e
  | _ => none

namespace Reconcile

open SimDepot.Action

/-- How the release of one SIM ended. -/
inductive ReleaseStep
  /-- The SIM was released. -/
  | released
  /-- An overlapping run released the SIM first. -/
  | alreadyReleased
  /-- No raw stock is left. -/
  | exhausted
  deriving DecidableEq, Repr

/-- Records what a vendor handed out for a SIM. A chip identity that cannot be recorded is passed
over. -/
def record (id : SimId) (release : Release) : Action ReleaseStep := do
  match ← attempt (Stock.setReleased id release.matchingId) with
  | .error (.notUpdated _) => return .alreadyReleased
  | .error e => throw e
  | .ok _ =>
    match release.eid with
    | none => return .released
    | some eid =>
      -- The SIM is released in any case; its chip identity is a note.
      let _ ← attempt (Stock.setEid id eid)
      return .released

/-- Releases the next raw SIM of a pool. -/
def releaseNext (bindings : Bindings) (pool : Pool) : Action ReleaseStep := do
  match ← attempt (Stock.nextRaw pool) with
  | .error (.notFound _) => return .exhausted
  | .error e => throw e
  | .ok sim =>
    let _ ← expect (bindings.vendors.get? sim.vendorId) (.system (.vendorService sim.vendorId))
    record sim.id (← Action.release sim.vendorId sim)

/-- Releases SIMs of the pool of a report, `budget` at most, and counts them in the report. -/
def topUp (bindings : Bindings) (report : PoolReport) : (budget : Nat) → Flow PoolReport
  | 0 => return report
  | budget + 1 => do
    match ← (releaseNext bindings report.pool).run with
    | .ok .released => topUp bindings { report with released := report.released + 1 } budget
    | .ok .alreadyReleased => topUp bindings report budget
    | .ok .exhausted => return { report with outcome := .exhausted }
    | .error e => return { report with outcome := .failed e }

/-- Tops up a pool, if too few of its SIMs are ready to use. -/
def pool (bindings : Bindings) (tuning : Tuning) (pool : Pool) : Flow PoolReport := do
  match ← (PoolFigures.read pool).run with
  | .error e => return { pool, readyBefore := 0, released := 0, outcome := .failed e }
  | .ok figures =>
    let report := { pool, readyBefore := figures.ready, released := 0, outcome := .replenished }
    if tuning.lowWaterMark ≤ figures.ready then return { report with outcome := .aboveLowWater }
    else topUp bindings report tuning.maxToAllocate

end Reconcile

end SimDepot
