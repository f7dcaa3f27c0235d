import MaintenanceOutbox.Program
import MaintenanceOutbox.Store.System

set_option autoImplicit false

/-! # What programs may ask of an outbox

Two interfaces, one inside the other. Code that runs in a transaction, a handler for instance, may
make requests on it, look at the clock, draw a new message name and tell the outside world
something; it can neither end its transaction nor reach another one. Code that owns transactions,
a worker or the command pipeline, may also begin and end them, and runs the other kind of code
inside one by `Program.within`. A worker moreover publishes its state and looks at its stop signal.

What is told to the outside world is of a type `ω` that the application chooses: mail to send, lines
of a journal.
-/

namespace MaintenanceOutbox

/-- Where a worker is in its cycle. -/
inductive WorkerState where
  | idle
  | claiming
  | dispatching
  | succeeded
  | failed
  | stopped
deriving DecidableEq, Repr, Inhabited

/-- The name of a state. -/
def WorkerState.name : WorkerState → String
  | .idle => "idle"
  | .claiming => "claiming"
  | .dispatching => "dispatching"
  | .succeeded => "succeeded"
  | .failed => "failed"
  | .stopped => "stopped"

/-- What code in a transaction may ask for. -/
inductive TxOp (ω : Type) where
  /-- a request on the transaction at hand, made on the given store -/
  | request (store : StoreId) (r : TxRequest)
  /-- what time is it? -/
  | now
  /-- a name for a new message -/
  | freshId
  /-- tell the outside world something -/
  | tell (w : ω)

/-- The answers to code in a transaction. -/
def TxOp.Reply {ω : Type} : TxOp ω → Type
  | .request _ r => Except StoreError r.Answer
  | .now => Timestamp
  | .freshId => MessageId
  | .tell _ => Unit

/-- The interface of code in a transaction. -/
def TxInterface (ω : Type) : Interface :=
  ⟨TxOp ω, TxOp.Reply⟩

/-- Code in a transaction. -/
abbrev TxProgram (ω : Type) := Program (TxInterface ω)

/-- What code that owns transactions may ask for. -/
inductive OutboxOp (ω : Type) where
  | beginTx (store : StoreId)
  | commit (store : StoreId) (tx : TxHandle)
  | rollback (store : StoreId) (tx : TxHandle)
  /-- an operation inside a transaction -/
  | inside (tx : TxHandle) (op : TxOp ω)
  /-- publish the state of the worker -/
  | enter (state : WorkerState)
  /-- is the worker asked to stop? -/
  | stopRequested

/-- The answers to code that owns transactions. -/
def OutboxOp.Reply {ω : Type} : OutboxOp ω → Type
  | .beginTx _ => Except StoreError TxHandle
  | .commit _ _ => Except StoreError Unit
  | .rollback _ _ => Except StoreError Unit
  | .inside _ op => op.Reply
  | .enter _ => Unit
  | .stopRequested => Bool

/-- The interface of code that owns transactions. -/
def OutboxInterface (ω : Type) : Interface :=
  ⟨OutboxOp ω, OutboxOp.Reply⟩

/-- Code that owns transactions. -/
abbrev OutboxProgram (ω : Type) := Program (OutboxInterface ω)

namespace TxProgram

variable {ω : Type}

/-- Make a request on the transaction at hand. -/
def request (store : StoreId) (r : TxRequest) : TxProgram ω (Except StoreError r.Answer) :=
  Program.perform (I := TxInterface ω) (.request store r)

/-- Look at the clock. -/
def now : TxProgram ω Timestamp :=
  Program.perform (I := TxInterface ω) .now

/-- Draw a name for a new message. -/
def freshId : TxProgram ω MessageId :=
  Program.perform (I := TxInterface ω) .freshId

/-- Tell the outside world something. -/
def tell (w : ω) : TxProgram ω Unit :=
  Program.perform (I := TxInterface ω) (.tell w)

end TxProgram

namespace OutboxProgram

variable {ω : Type}

/-- Begin a transaction. -/
def beginTx (store : StoreId) : OutboxProgram ω (Except StoreError TxHandle) :=
  Program.perform (I := OutboxInterface ω) (.beginTx store)

/-- Commit a transaction. -/
def commit (store : StoreId) (tx : TxHandle) : OutboxProgram ω (Except StoreError Unit) :=
  Program.perform (I := OutboxInterface ω) (.commit store tx)

/-- Roll a transaction back. -/
def rollback (store : StoreId) (tx : TxHandle) : OutboxProgram ω (Except StoreError Unit) :=
  Program.perform (I := OutboxInterface ω) (.rollback store tx)

/-- Make a request inside a transaction. -/
def request (store : StoreId) (tx : TxHandle) (r : TxRequest) :
    OutboxProgram ω (Except StoreError r.Answer) :=
  Program.perform (I := OutboxInterface ω) (.inside tx (.request store r))

/-- Publish the state of the worker. -/
def enter (state : WorkerState) : OutboxProgram ω Unit :=
  Program.perform (I := OutboxInterface ω) (.enter state)

/-- Look at the stop signal. -/
def stopRequested : OutboxProgram ω Bool :=
  Program.perform (I := OutboxInterface ω) .stopRequested

/-- **Run code inside a transaction.** -/
def within {α : Type} (tx : TxHandle) (p : TxProgram ω α) : OutboxProgram ω α :=
  p.run fun op => Program.perform (I := OutboxInterface ω) (.inside tx op)

end OutboxProgram

end MaintenanceOutbox
