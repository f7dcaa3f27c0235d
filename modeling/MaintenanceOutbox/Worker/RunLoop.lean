import MaintenanceOutbox.Config.Settings
import MaintenanceOutbox.Worker.Delivery

set_option autoImplicit false

/-! # Batches and the run loop

A worker handles messages in batches, and a running worker goes from batch to batch. After a batch
that ran out of messages, or that was given up, it sleeps until the poll interval is over or its
stop signal changes; after a full batch it goes on at once.

**The stop signal is looked at between messages,** before a batch and within it, never during a
delivery, so whatever was claimed is committed or rolled back before the worker stops.

The loop itself may go on forever. What is a program here is one turn of it, from waking up to
falling asleep or to the next turn.
-/

namespace MaintenanceOutbox

namespace Worker

variable {κ ω : Type} [EventFamily κ]

/-- A worker with the usual settings. -/
def standard (name : String) (store : StoreId) (registry : Registry κ ω) : Worker κ ω :=
  ⟨name, store, registry, OutboxConfig.standard.batchSize, OutboxConfig.standard.pollMs⟩

/-- The worker with another batch size, at least one message. -/
def withBatchSize (w : Worker κ ω) (size : Nat) : Worker κ ω :=
  { w with batchSize := max size 1 }

/-- The worker with another poll interval. -/
def withPollMs (w : Worker κ ω) (ms : Nat) : Worker κ ω :=
  { w with pollMs := ms }

/-- The worker that settings ask for. -/
def ofConfig (name : String) (store : StoreId) (registry : Registry κ ω) (config : OutboxConfig) :
    Worker κ ω :=
  ((standard name store registry).withBatchSize config.batchSize).withPollMs config.pollMs

/-! ## Batches -/

/-- Is there a reason to end the batch here? A batch outside of a run loop has no stop signal. -/
def stopsHere (watched : Bool) : OutboxProgram ω Bool :=
  if watched then OutboxProgram.stopRequested else pure false

/-- Deliver up to `left` more messages. -/
def deliverUpTo (w : Worker κ ω) (watched : Bool) :
    (left : Nat) → BatchReport → OutboxProgram ω (Except WorkerError BatchReport)
  | 0, report => pure (.ok report)
  | left + 1, report => do
    if ← stopsHere watched then pure (.ok report)
    else
      match ← w.processNext with
      | .ok (some outcome) => w.deliverUpTo watched left (report.record outcome)
      | .ok none => pure (.ok { report with drained := true })
      | .error e => pure (.error e)

/-- **Handle a batch of messages.** -/
def batch (w : Worker κ ω) (watched : Bool) : OutboxProgram ω (Except WorkerError BatchReport) :=
  w.deliverUpTo watched w.batchSize {}

/-! ## The run loop -/

/-- Where a running worker is between two turns. -/
inductive LoopPoint where
  /-- at the top of the loop -/
  | ready
  /-- asleep until the poll interval is over or the stop signal changes -/
  | asleep
  /-- out of the loop -/
  | ended
deriving DecidableEq, Repr

/-- Why a sleeping worker wakes up. -/
inductive Wake where
  /-- the poll interval is over -/
  | elapsed
  /-- the stop signal was given a value -/
  | signalled
  /-- nobody is left who could give the stop signal -/
  | abandoned
deriving DecidableEq, Repr

/-- Does a worker sleep after a batch? -/
def sleepsAfter : Except WorkerError BatchReport → Bool
  | .ok report => report.drained
  | .error _ => true

/-- Leave the loop. -/
def leave : OutboxProgram ω LoopPoint := do
  OutboxProgram.enter .stopped
  pure .ended

/-- **One turn of the loop**, from its top, with the statistics kept along the way. -/
def turn (w : Worker κ ω) (stats : WorkerStats) : OutboxProgram ω (LoopPoint × WorkerStats) := do
  if ← OutboxProgram.stopRequested then
    let point ← leave
    pure (point, stats)
  else
    let result ← w.batch true
    pure (if sleepsAfter result then .asleep else .ready, stats.afterBatch result)

/-- Wake a sleeping worker up. -/
def wake : Wake → OutboxProgram ω LoopPoint
  | .abandoned => leave
  | .elapsed => pure .ready
  | .signalled => pure .ready

end Worker

end MaintenanceOutbox
