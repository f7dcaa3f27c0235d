import MaintenanceOutbox.Event.Registry
import MaintenanceOutbox.Worker.Report

set_option autoImplicit false

/-! # The delivery of one message

A worker delivers every message in a short transaction of its own:

    begin → claim → savepoint → deferred handlers
      all succeed:      release the savepoint → mark processed → commit
      one fails:        roll back to the savepoint → count the failure → commit
      connectivity:     roll back

so that what a failed handler wrote is undone, while the failure is counted under the same lock
under which the message was claimed. A message that cannot be decoded fails like one whose handler
does. If the store itself refuses a call before the commit, the transaction is rolled back and the
message stays as it was.

**Every stage is a program of its own,** named for the call that it starts with; it goes on with the
next one, so the stages are the points at which a worker can be between two calls.
-/

namespace MaintenanceOutbox

/-- A worker on a store. -/
structure Worker (κ ω : Type) [EventFamily κ] where
  name : String
  store : StoreId
  registry : Registry κ ω
  /-- messages in one batch -/
  batchSize : Nat
  /-- how long an idle worker sleeps, in milliseconds -/
  pollMs : Nat

namespace Worker

variable {κ ω : Type} [EventFamily κ]

/-- What the delivery of a message results in; `none` where nothing was claimable. -/
abbrev Result := Except WorkerError (Option MessageOutcome)

/-! ## The ends of a delivery -/

/-- Give a delivery up for an error of the store. A failing rollback is not reported. -/
def abort (w : Worker κ ω) (tx : TxHandle) (e : StoreError) : OutboxProgram ω Result := do
  OutboxProgram.enter .failed
  let _ ← OutboxProgram.rollback w.store tx
  pure (.error (.ofStore e))

/-- Give a delivery up because a handler lost connectivity. -/
def giveBack (w : Worker κ ω) (tx : TxHandle) (e : HandlerError) : OutboxProgram ω Result := do
  OutboxProgram.enter .failed
  let _ ← OutboxProgram.rollback w.store tx
  pure (.error (.infrastructure e.message))

/-- Nothing is claimable. -/
def nothingToDo (w : Worker κ ω) (tx : TxHandle) : OutboxProgram ω Result := do
  OutboxProgram.enter .idle
  match ← OutboxProgram.rollback w.store tx with
  | .error e => pure (.error (.ofStore e))
  | .ok () => pure (.ok none)

/-! ## The way of success -/

/-- Commit a delivery that succeeded. -/
def commitSuccess (w : Worker κ ω) (tx : TxHandle) (outcome : MessageOutcome) :
    OutboxProgram ω Result := do
  match ← OutboxProgram.commit w.store tx with
  | .error e => pure (.error (.ofStore e))
  | .ok () =>
    OutboxProgram.enter .succeeded
    pure (.ok (some outcome))

/-- Mark the message as delivered. -/
def mark (w : Worker κ ω) (tx : TxHandle) (m : QueuedMessage) (handlers : Nat) :
    OutboxProgram ω Result := do
  match ← OutboxProgram.request w.store tx (.markProcessed m.id) with
  | .error e => w.abort tx e
  | .ok () => w.commitSuccess tx (.processed m.id handlers)

/-- Keep what the handlers wrote. -/
def succeed (w : Worker κ ω) (tx : TxHandle) (m : QueuedMessage) (handlers : Nat) :
    OutboxProgram ω Result := do
  match ← OutboxProgram.request w.store tx .releaseSavepoint with
  | .error e => w.abort tx e
  | .ok () => w.mark tx m handlers

/-! ## The way of failure -/

/-- Commit a delivery that failed. -/
def commitFailure (w : Worker κ ω) (tx : TxHandle) (outcome : MessageOutcome) :
    OutboxProgram ω Result := do
  match ← OutboxProgram.commit w.store tx with
  | .error e => pure (.error (.ofStore e))
  | .ok () => pure (.ok (some outcome))

/-- Count the failure. -/
def countFailure (w : Worker κ ω) (tx : TxHandle) (m : QueuedMessage) (reason : String) :
    OutboxProgram ω Result := do
  match ← OutboxProgram.request w.store tx (.incrementRetry m.id reason) with
  | .error e => w.abort tx e
  | .ok outcome => w.commitFailure tx (.ofRetry m.id outcome)

/-- Undo what the handlers wrote. -/
def fail (w : Worker κ ω) (tx : TxHandle) (m : QueuedMessage) (reason : HandlerError) :
    OutboxProgram ω Result := do
  OutboxProgram.enter .failed
  match ← OutboxProgram.request w.store tx .rollbackToSavepoint with
  | .error e => w.abort tx e
  | .ok () => w.countFailure tx m reason.message

/-! ## The way there -/

/-- Decode a message and run its deferred handlers, which are counted. -/
def deliver (w : Worker κ ω) (m : QueuedMessage) : DeferredM ω Nat := do
  let now ← ExceptT.lift TxProgram.now
  match w.registry.decode now m.eventType m.payload with
  | .error e => throw (.failed e.message)
  | .ok event => w.registry.dispatchDeferred event

/-- Go on as the handlers say. -/
def settle (w : Worker κ ω) (tx : TxHandle) (m : QueuedMessage) :
    Except HandlerError Nat → OutboxProgram ω Result
  | .ok handlers => w.succeed tx m handlers
  | .error e => if e.isConnectivity then w.giveBack tx e else w.fail tx m e

/-- Run the handlers inside the transaction. -/
def dispatch (w : Worker κ ω) (tx : TxHandle) (m : QueuedMessage) : OutboxProgram ω Result := do
  let result ← OutboxProgram.within tx (w.deliver m).run
  w.settle tx m result

/-- Set the savepoint before the handlers. -/
def guard (w : Worker κ ω) (tx : TxHandle) (m : QueuedMessage) : OutboxProgram ω Result := do
  OutboxProgram.enter .dispatching
  match ← OutboxProgram.request w.store tx .savepoint with
  | .error e => w.abort tx e
  | .ok () => w.dispatch tx m

/-- Claim the message that is next. -/
def claim (w : Worker κ ω) (tx : TxHandle) : OutboxProgram ω Result := do
  match ← OutboxProgram.request w.store tx .claimNext with
  | .error e => w.abort tx e
  | .ok none => w.nothingToDo tx
  | .ok (some m) => w.guard tx m

/-- **Claim and deliver one message.** -/
def processNext (w : Worker κ ω) : OutboxProgram ω Result := do
  OutboxProgram.enter .claiming
  match ← OutboxProgram.beginTx w.store with
  | .error e => pure (.error (.ofStore e))
  | .ok tx => w.claim tx

end Worker

end MaintenanceOutbox
