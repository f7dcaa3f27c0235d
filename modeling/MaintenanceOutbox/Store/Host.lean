import MaintenanceOutbox.Store.Interface

set_option autoImplicit false

/-! # A host for programs

A `Host` answers a program from stores in memory: it has a system of stores, a clock, a supply of
names for new messages and a journal of what programs told the outside world. `Host.answer` is what
the interface of an outbox means, with nothing going wrong on the way.

The clock stands still while a program runs. The supply of names is any sequence; what is asked of
it, that names do not repeat, is asked where it is needed.

**A program breaks off with its request.** If a request breaks off, the transaction is dropped, and
the program does not go on: there is no result, only the host as it is left behind.
-/

namespace MaintenanceOutbox

/-- Surroundings in which programs run. -/
structure Host (ω : Type) where
  system : System
  clock : Timestamp
  /-- the names for new messages, in the order in which they are drawn -/
  names : Nat → MessageId
  /-- how many names were drawn so far -/
  drawn : Nat := 0
  /-- what programs told the outside world, oldest first -/
  told : List ω := []
  /-- the states that a worker published, oldest first -/
  states : List WorkerState := []
  /-- is the worker asked to stop? -/
  stop : Bool := false

namespace Host

variable {ω : Type}

/-- Answer code in the transaction `tx`. -/
def answerTx (tx : TxHandle) : (op : TxOp ω) → OptionT (StateM (Host ω)) op.Reply
  | .request store r => fun h =>
    match h.system.request h.clock store tx r with
    | (.error e, system) => (some (.error e), { h with system := system })
    | (.ok (some answer), system) => (some (.ok answer), { h with system := system })
    | (.ok none, system) => (none, { h with system := system.drop tx })
  | .now => fun h => (some h.clock, h)
  | .freshId => fun h => (some (h.names h.drawn), { h with drawn := h.drawn + 1 })
  | .tell w => fun h => (some (), { h with told := h.told ++ [w] })

/-- Answer code that owns transactions. -/
def answer : (op : OutboxOp ω) → OptionT (StateM (Host ω)) op.Reply
  | .beginTx store => fun h =>
    let (tx, system) := h.system.beginTx store
    (some (.ok tx), { h with system := system })
  | .commit store tx => fun h =>
    let (reply, system) := h.system.commit store tx
    (some reply, { h with system := system })
  | .rollback store tx => fun h =>
    let (reply, system) := h.system.rollback store tx
    (some reply, { h with system := system })
  | .inside tx op => answerTx tx op
  | .enter state => fun h => (some (), { h with states := h.states ++ [state] })
  | .stopRequested => fun h => (some h.stop, h)

/-- **Run a program on a host**: its result, unless it breaks off, and the host afterwards. -/
def run {α : Type} (p : OutboxProgram ω α) (h : Host ω) : Option α × Host ω :=
  (show OptionT (StateM (Host ω)) α from p.run answer) h

end Host

end MaintenanceOutbox
