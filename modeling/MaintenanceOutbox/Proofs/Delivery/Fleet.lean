import MaintenanceOutbox.Proofs.Delivery.Points
import MaintenanceOutbox.Proofs.Store.Origins
import MaintenanceOutbox.Store.Host

set_option autoImplicit false

/-! # A fleet of workers on one store

A `Fleet` is some workers that deliver messages from one store, each with what is left of the
delivery that it is at, next to producers that add messages and operators. It moves by single calls:
`Fleet.work` takes the next call of one worker's program and answers it as a host does, so that
every interleaving of the deliveries, call by call, is a list of moves.

The fleet keeps two records that nothing in it looks at: the calls that were made on the system, and
a journal of what matters for delivery. A message counts as handed to the handlers when the
savepoint in front of them is set, and an outcome as settled when the transaction behind it is
committed.
-/

namespace MaintenanceOutbox

/-- The name of the message. -/
def MessageOutcome.id : MessageOutcome → MessageId
  | .processed id _ => id
  | .retried id _ => id
  | .deadLettered id _ => id

/-- An entry of the journal. -/
inductive Entry where
  /-- a worker hands a message to its handlers -/
  | handed (worker : Nat) (id : MessageId)
  /-- a worker commits a delivery with an outcome -/
  | settled (worker : Nat) (outcome : MessageOutcome)
  /-- a dead letter is put back into the queue -/
  | requeued (id : MessageId)

namespace Entry

/-- The message that the entry is about. -/
def id : Entry → MessageId
  | .handed _ id => id
  | .settled _ outcome => outcome.id
  | .requeued id => id

/-- The failures of a message, with one more entry: a failed delivery is one more, and there are
none after the message was put back. -/
def count (x : MessageId) (failures : Nat) : Entry → Nat
  | .settled _ (.retried id _) => if id = x then failures + 1 else failures
  | .settled _ (.deadLettered id _) => if id = x then failures + 1 else failures
  | .requeued id => if id = x then 0 else failures
  | _ => failures

/-- **The failed deliveries of a message** since it was last put back into the queue, or ever. -/
def failures (x : MessageId) (journal : List Entry) : Nat :=
  journal.foldl (count x) 0

end Entry

/-- The outcome that a program is bound to report, when all that is left is to publish the state. -/
def OutboxProgram.announced {ω : Type} : OutboxProgram ω Worker.Result → Option MessageOutcome
  | .done (.ok outcome) => outcome
  | .done (.error _) => none
  | .call (OutboxOp.enter _) next => announced (next ())
  | .call _ _ => none

/-- A worker at its work. -/
structure Member (κ ω : Type) [EventFamily κ] where
  worker : Worker κ ω
  /-- what is left of its delivery -/
  rest : OutboxProgram ω Worker.Result
  /-- the message that it has claimed and not settled yet -/
  held : Option QueuedMessage := none

/-- Workers, producers and operators on one store. -/
structure Fleet (κ ω : Type) [EventFamily κ] (n : Nat) where
  store : StoreId
  system : System
  crew : Fin n → Member κ ω
  /-- the transactions that producers have begun -/
  producers : List TxHandle := []
  /-- the calls that were made so far, oldest first -/
  calls : List Call := []
  /-- what happened to messages so far, oldest first -/
  journal : List Entry := []

/-- What can happen next. -/
inductive Move (n : Nat) where
  /-- a worker makes its next call, at the time `now`; a new name would be `name` -/
  | work (k : Fin n) (now : Timestamp) (name : MessageId)
  /-- a producer begins a transaction -/
  | produce
  /-- a producer adds a message -/
  | add (now : Timestamp) (tx : TxHandle) (m : QueuedMessage)
  /-- a producer ends its transaction -/
  | commit (tx : TxHandle)
  | rollback (tx : TxHandle)
  | drop (tx : TxHandle)
  /-- an operator does something -/
  | requeue (id : MessageId)
  | deleteDeadLetter (id : MessageId)
  | purge (cutoff : Timestamp)

/-- The calls on a system that an operation amounts to. -/
def OutboxOp.calls {ω : Type} (now : Timestamp) : OutboxOp ω → List Call
  | .beginTx i => [.beginTx i]
  | .commit i tx => [.commit i tx]
  | .rollback i tx => [.rollback i tx]
  | .inside tx (.request i r) => [.request now i tx r]
  | _ => []

/-- The call that follows on an operation that breaks off: its transaction is dropped. -/
def OutboxOp.dropCalls {ω : Type} : OutboxOp ω → List Call
  | .inside tx _ => [.drop tx]
  | _ => []

namespace Member

variable {κ ω : Type} [EventFamily κ]

/-- The message that a worker holds after an answer. -/
def heldAfter (held : Option QueuedMessage) : (op : OutboxOp ω) → op.Reply → Option QueuedMessage
  | .inside _ (.request _ .claimNext), .ok (some m) => some m
  | .commit _ _, _ => none
  | .rollback _ _, _ => none
  | _, _ => held

/-- What is noted when worker `k` gets an answer, with `rest` left after it. -/
def noted (k : Nat) (held : Option QueuedMessage) (rest : OutboxProgram ω Worker.Result) :
    (op : OutboxOp ω) → op.Reply → List Entry
  | .inside _ (.request _ .savepoint), .ok _ => (held.map fun m => .handed k m.id).toList
  | .commit _ _, .ok _ => (rest.announced.map (.settled k)).toList
  | _, _ => []

end Member

namespace Fleet

variable {κ ω : Type} [EventFamily κ] {n : Nat}

/-- The workers `workers` before their first deliveries, on store `i` of `stores` empty ones. -/
def launch (stores : Nat) (i : StoreId) (workers : Fin n → Worker κ ω) : Fleet κ ω n where
  store := i
  system := .ofSize stores
  crew k := ⟨workers k, (workers k).processNext, none⟩

/-- Make a call. -/
def call (f : Fleet κ ω n) (c : Call) : Fleet κ ω n :=
  { f with system := f.system.step c, calls := f.calls ++ [c] }

/-- **The next call of worker `k`**, or its next delivery. With a call that breaks off, the delivery
is over. -/
def work (f : Fleet κ ω n) (k : Fin n) (now : Timestamp) (name : MessageId) : Fleet κ ω n :=
  let member := f.crew k
  match member.rest with
  | .done _ =>
    { f with crew := Function.update f.crew k { member with rest := member.worker.processNext } }
  | .call op next =>
    match (Host.answer (ω := ω) op
      { system := f.system, clock := now, names := fun _ => name } : Option op.Reply × Host ω) with
    | (some reply, host) =>
      { f with
        system := host.system
        crew := Function.update f.crew k
          { member with rest := next reply, held := Member.heldAfter member.held op reply }
        calls := f.calls ++ op.calls now
        journal := f.journal ++ Member.noted k member.held (next reply) op reply }
    | (none, host) =>
      { f with
        system := host.system
        crew := Function.update f.crew k
          { member with rest := member.worker.processNext, held := none }
        calls := f.calls ++ (op.calls now ++ op.dropCalls) }

/-- The fleet after a move. Producers work on transactions of their own only. -/
def step (f : Fleet κ ω n) : Move n → Fleet κ ω n
  | .work k now name => f.work k now name
  | .produce =>
    { f.call (.beginTx f.store) with producers := f.producers ++ [⟨f.system.begun⟩] }
  | .add now tx m => if tx ∈ f.producers then f.call (.request now f.store tx (.add m)) else f
  | .commit tx => if tx ∈ f.producers then f.call (.commit f.store tx) else f
  | .rollback tx => if tx ∈ f.producers then f.call (.rollback f.store tx) else f
  | .drop tx => if tx ∈ f.producers then f.call (.drop tx) else f
  | .requeue id =>
    let after := f.call (.requeue f.store id)
    match (f.system.requeue f.store id).1 with
    | .error _ => after
    | .ok _ => { after with journal := f.journal ++ [.requeued id] }
  | .deleteDeadLetter id => f.call (.deleteDeadLetter f.store id)
  | .purge cutoff => f.call (.purge f.store cutoff)

/-- **The fleet after some moves.** -/
def run (f : Fleet κ ω n) (moves : List (Move n)) : Fleet κ ω n :=
  moves.foldl step f

end Fleet

end MaintenanceOutbox
