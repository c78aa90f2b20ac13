import SimDepot.Reconcile.Pass

/-!
# The reconciliation worker

The worker runs a pass at every tick of its clock. It waits for a tick or for news from its handle,
and where both are at hand either may come first. News is that the shutdown signal was sent, or that
nobody is left who could send it; on either, a worker that waits ends. A worker that is in a pass
finishes it, and ends then if the signal was sent.

Reference: `spawn_reconciler`, `shutdown`.
-/

namespace SimDepot

/-- What the worker is doing. -/
inductive WorkerPhase
  /-- Waiting for a tick or for news. -/
  | waiting
  /-- In a pass. -/
  | passing
  /-- Done for good. -/
  | ended
  deriving DecidableEq, Repr

/-- The state of the worker and of its handle. -/
structure Worker where
  /-- What the worker is doing. -/
  phase : WorkerPhase
  /-- The shutdown signal was sent. -/
  signalled : Bool
  /-- Nobody is left who could send the signal. -/
  abandoned : Bool
  deriving DecidableEq, Repr

/-- What can happen to a worker. -/
inductive WorkerEvent
  /-- The clock ticks, and the worker takes notice. -/
  | tick
  /-- The pass ends, whether it failed or not. -/
  | passEnds
  /-- The shutdown signal is sent. -/
  | signal
  /-- The handle goes away without a signal. -/
  | abandon
  /-- The worker takes notice of news from its handle. -/
  | news
  deriving DecidableEq, Repr

namespace Worker

/-- A worker that has just been started. -/
def started : Worker := ⟨.waiting, false, false⟩

/-- The worker after an event; nothing where the event cannot happen. -/
def step (w : Worker) : WorkerEvent → Option Worker
  | .tick => if w.phase = .waiting then some { w with phase := .passing } else none
  | .passEnds =>
    if w.phase = .passing then
      some { w with phase := if w.signalled then .ended else .waiting }
    else none
  | .signal => if w.abandoned then none else some { w with signalled := true }
  | .abandon => some { w with abandoned := true }
  | .news =>
    if w.phase = .waiting ∧ (w.signalled ∨ w.abandoned) then some { w with phase := .ended }
    else none

/-- The worker after events, in order. -/
def run (w : Worker) : List WorkerEvent → Option Worker
  | [] => some w
  | e :: rest => (w.step e).bind fun w => w.run rest

/-- What a worker does while events happen to it: it runs a pass at every tick it takes notice of,
and passes over what comes of it. -/
def serve (bindings : Bindings) (tuning : Tuning) (w : Worker) :
    List WorkerEvent → Flow Worker
  | [] => return w
  | e :: rest =>
    match w.step e with
    | none => serve bindings tuning w rest
    | some w' => do
      if e = .tick then
        let _ ← (Reconcile.pass bindings tuning).run
      serve bindings tuning w' rest

end Worker

end SimDepot
