import MaintenanceOutbox.Config.Settings
import MaintenanceOutbox.Event.Registry
import MaintenanceOutbox.Pipeline.Error

set_option autoImplicit false

/-! # The event stage

What happens to the events of a business transaction before it commits. They are dispatched to the
transactional handlers round by round: the events that handlers raise in one round are dispatched in
the next, until a round raises none. Only then is every event recorded in the outbox, in the order
of dispatch, within the same transaction.

**Rounds are capped,** so handlers that raise events forever end in an error. As nothing is recorded
before all rounds are over, no failure of a handler leaves a message behind.
-/

namespace MaintenanceOutbox

/-- The event stage of a store. -/
structure EventStage (κ ω : Type) [EventFamily κ] where
  store : StoreId
  registry : Registry κ ω
  maxRounds : Nat
  /-- the retry budget of the messages that the stage records -/
  maxRetries : UInt32

namespace EventStage

variable {κ ω : Type} [EventFamily κ]

/-- A stage with the cap and the budget that are usual. -/
def standard (store : StoreId) (registry : Registry κ ω) : EventStage κ ω :=
  ⟨store, registry, OutboxConfig.standard.maxDispatchRounds, defaultMaxRetries⟩

/-- The stage with another cap, at least one round. -/
def withMaxRounds (s : EventStage κ ω) (rounds : Nat) : EventStage κ ω :=
  { s with maxRounds := max rounds 1 }

/-- The stage with another budget, at least one attempt. -/
def withMaxRetries (s : EventStage κ ω) (budget : UInt32) : EventStage κ ω :=
  { s with maxRetries := atLeastOne budget }

/-- The stage that settings ask for. -/
def ofConfig (store : StoreId) (registry : Registry κ ω) (config : OutboxConfig) :
    EventStage κ ω :=
  ((standard store registry).withMaxRounds config.maxDispatchRounds).withMaxRetries
    config.maxRetries

/-- What the stage does: it works in the business transaction, on its unit of work, and may
fail. -/
abbrev StageM (κ ω : Type) [EventFamily κ] :=
  ExceptT (PipelineError Empty) (StateT (UnitOfWork κ) (TxProgram ω))

/-- The work of transactional handlers as work of the stage. -/
def handled {α : Type} (work : TransactionalM κ ω α) : StageM κ ω α :=
  ExceptT.adapt PipelineError.handler work

/-- Code in the transaction as work of the stage. -/
def lifted {α : Type} (work : TxProgram ω α) : StageM κ ω α :=
  ExceptT.lift (StateT.lift work)

/-- Take the waiting events out of the unit of work. -/
def collect : StageM κ ω (List (RaisedEvent κ)) :=
  ExceptT.lift fun uow => pure uow.collect

/-- Dispatch events to their transactional handlers. -/
def dispatchAll (s : EventStage κ ω) (events : List (RaisedEvent κ)) : StageM κ ω Unit :=
  events.forM fun e => do
    let _ ← handled (s.registry.dispatchTransactional e)
    pure ()

/-- **Dispatch round by round** until no events are waiting, with `left` rounds to go. The result is
all dispatched events, those in `dispatched` first. -/
def dispatchRounds (s : EventStage κ ω) :
    (left : Nat) → (dispatched : List (RaisedEvent κ)) → StageM κ ω (List (RaisedEvent κ))
  | left, dispatched => do
    let batch ← collect
    if batch.isEmpty then pure dispatched
    else
      match left with
      | 0 => throw (.roundsExceeded s.maxRounds)
      | left + 1 =>
        s.dispatchAll batch
        s.dispatchRounds left (dispatched ++ batch)

/-- The message that records an event. -/
def messageOf (s : EventStage κ ω) (e : RaisedEvent κ) : StageM κ ω QueuedMessage :=
  match e.payload with
  | .error reason => throw (.serialization e.tag reason)
  | .ok payload => do
    let id ← lifted TxProgram.freshId
    let now ← lifted TxProgram.now
    pure ((QueuedMessage.fresh id now e.tag payload).withMaxRetries s.maxRetries)

/-- Record an event in the outbox. -/
def record (s : EventStage κ ω) (e : RaisedEvent κ) : StageM κ ω Unit := do
  let m ← s.messageOf e
  match ← lifted (TxProgram.request s.store (.add m)) with
  | .ok () => pure ()
  | .error err => throw (.store err)

/-- **Dispatch and record the events of a unit of work**, and count them. -/
def run (s : EventStage κ ω) : StageM κ ω Nat := do
  let events ← s.dispatchRounds s.maxRounds []
  events.forM s.record
  pure events.length

end EventStage

end MaintenanceOutbox
