import MaintenanceOutbox.Message.Queued
import MaintenanceOutbox.Store.Error

set_option autoImplicit false

/-! # What workers report

The outcome of one delivery, the report of one batch and the statistics of a worker, and why a
worker gives up a batch.
-/

namespace MaintenanceOutbox

/-- Why a worker gave up. -/
inductive WorkerError where
  /-- the store, or something that a handler depends on, cannot be reached -/
  | infrastructure (reason : String)
  /-- the bookkeeping in the store failed for another reason -/
  | store (error : StoreError)
deriving DecidableEq

namespace WorkerError

/-- The text of a worker's error. -/
def message : WorkerError → String
  | .infrastructure reason => "outbox infrastructure unavailable: " ++ reason
  | .store e => e.message

/-- A failure of the store as a worker reports it. -/
def ofStore (e : StoreError) : WorkerError :=
  if e.isConnectivity then .infrastructure e.message else .store e

end WorkerError

/-- What became of a claimed message. -/
inductive MessageOutcome where
  /-- delivered, to so many handlers -/
  | processed (id : MessageId) (handlers : Nat)
  | retried (id : MessageId) (retryCount : UInt32)
  | deadLettered (id : MessageId) (retryCount : UInt32)
deriving DecidableEq

/-- The outcome of a failed delivery. -/
def MessageOutcome.ofRetry (id : MessageId) : RetryOutcome → MessageOutcome
  | .retrying n => .retried id n
  | .deadLettered n => .deadLettered id n

/-- What a batch did. -/
structure BatchReport where
  processed : Nat := 0
  retried : Nat := 0
  deadLettered : Nat := 0
  /-- nothing was left to claim before the batch was full -/
  drained : Bool := false
deriving DecidableEq, Repr

namespace BatchReport

/-- The report with one more outcome. -/
def record (r : BatchReport) : MessageOutcome → BatchReport
  | .processed _ _ => { r with processed := r.processed + 1 }
  | .retried _ _ => { r with retried := r.retried + 1 }
  | .deadLettered _ _ => { r with deadLettered := r.deadLettered + 1 }

/-- The messages that the batch handled. -/
def handled (r : BatchReport) : Nat :=
  r.processed + r.retried + r.deadLettered

end BatchReport

/-- What a worker did so far. -/
structure WorkerStats where
  batches : Nat := 0
  messagesProcessed : Nat := 0
  messagesRetried : Nat := 0
  messagesDeadLettered : Nat := 0
  infrastructureErrors : Nat := 0
deriving DecidableEq, Repr

/-- The statistics after one more batch. A batch that was given up counts as an error only, whatever
it did before. -/
def WorkerStats.afterBatch (s : WorkerStats) : Except WorkerError BatchReport → WorkerStats
  | .error _ => { s with infrastructureErrors := s.infrastructureErrors + 1 }
  | .ok r =>
    { s with
      batches := s.batches + 1
      messagesProcessed := s.messagesProcessed + r.processed
      messagesRetried := s.messagesRetried + r.retried
      messagesDeadLettered := s.messagesDeadLettered + r.deadLettered }

end MaintenanceOutbox
