import MaintenanceOutbox.Simulation.Action
import MaintenanceOutbox.Simulation.Fault
import MaintenanceOutbox.Store.Host
import MaintenanceOutbox.Worker.RunLoop

set_option autoImplicit false

/-! # The world of a simulation

A `World` is a host with what a simulation adds to it: faults, a trace of the calls that reach a
store or are made to fail, workers with their states and statistics, and the run loops that are
under way, each with its stop signal, on a time line of its own in milliseconds.

`World.answer` is the host's answer with these additions. A line of the trace is the name of a call,
the state of the worker that is watched, and a mark if the call was made to fail. The call need not
be the watched worker's own.
-/

namespace MaintenanceOutbox

/-- A worker in a simulation. -/
structure SimWorker where
  worker : Worker SimKind Note
  state : WorkerState := .idle
  stats : WorkerStats := {}

/-- The stop signal of a run loop. Each value that is sent makes a new version of it. -/
structure StopSignal where
  value : Bool
  version : Nat := 0
  /-- nobody is left who could send a value -/
  closed : Bool := false

/-- The signal after a value was sent on it. A closed one stays as it is. -/
def StopSignal.send (s : StopSignal) (value : Bool) : StopSignal :=
  if s.closed then s else { s with value := value, version := s.version + 1 }

/-- A run loop that is under way, or has ended. -/
structure Task where
  /-- the worker, by its place -/
  worker : Nat
  signal : StopSignal
  /-- the version of the signal that the loop has seen -/
  seen : Nat := 0
  point : Worker.LoopPoint := .ready

/-- A run loop that is asleep: which one, and until when. -/
structure Sleeper where
  task : Nat
  wakeAt : Nat

/-- The world of a simulation. -/
structure World where
  host : Host Note
  faults : List Fault := []
  /-- the calls of the present step, oldest first -/
  trace : List String := []
  workers : List SimWorker := []
  /-- the worker that is at work, by its place -/
  onDuty : Option Nat := none
  /-- the worker whose state the trace shows, by its place -/
  watched : Option Nat := none
  tasks : List Task := []
  /-- the run loop that is at work -/
  running : Option Nat := none
  /-- the run loop that the simulation itself goes through, if it does; scripts can give its stop
  signal -/
  foreground : Option Nat := none
  /-- the loops that are ready to go on, in the order in which they became so -/
  queue : List Nat := []
  /-- the loops that are asleep, in the order in which they fell asleep -/
  sleepers : List Sleeper := []
  /-- milliseconds on the time line of the run loops -/
  time : Nat := 0

/-- What a simulation does. It breaks off with a program that does. -/
abbrev SimM := OptionT (StateM World)

namespace World

/-- A world with `n` empty stores. -/
def ofStores (n : Nat) : World :=
  { host := { system := System.ofSize n, clock := Timestamp.year2024, names := DrawnName.name } }

/-- Let the host act. -/
def onHost {α : Type} (act : OptionT (StateM (Host Note)) α) : SimM α := fun w =>
  let (a, host) := act w.host
  (a, { w with host := host })

/-! ## Workers and their signals -/

/-- Change a worker. -/
def changeWorker (index : Nat) (f : SimWorker → SimWorker) : SimM Unit :=
  modify fun w => { w with workers := w.workers.modify index f }

/-- Change a run loop. -/
def changeTask (index : Nat) (f : Task → Task) : SimM Unit :=
  modify fun w => { w with tasks := w.tasks.modify index f }

/-- The state of the watched worker, as a line of the trace shows it. -/
def watchMark (w : World) : String :=
  match w.watched.bind fun i => w.workers[i]? with
  | some worker => "@" ++ worker.state.name
  | none => ""

/-- Move a loop that is asleep to the end of the queue. -/
def rouse (task : Nat) : SimM Unit :=
  modify fun w =>
    if w.sleepers.any (·.task = task) then
      { w with
        sleepers := w.sleepers.filter (·.task ≠ task)
        queue := w.queue ++ [task] }
    else w

/-- Send a value on the stop signal of a run loop. -/
def sendStop (task : Nat) (value : Bool) : SimM Unit := do
  changeTask task fun t => { t with signal := t.signal.send value }
  rouse task

/-- Close the stop signal of a run loop: no value will be sent any more. -/
def closeStop (task : Nat) : SimM Unit := do
  changeTask task fun t => { t with signal := { t.signal with closed := true } }
  rouse task

/-! ## Answers -/

/-- Note a call in the trace, and ask the faults on it. -/
def strike (store : StoreId) (call : CallKind) : SimM (Option StoreError) := fun w =>
  let (error, faults) := Fault.ask store call w.faults
  let line := call.name ++ w.watchMark ++ (if error.isSome then "!" else "")
  (some error, { w with faults := faults, trace := w.trace ++ [line] })

/-- Answer code in the transaction `tx`. -/
def answerTx (tx : TxHandle) : (op : TxOp Note) → SimM op.Reply
  | .request store r => do
    match ← strike store (CallKind.ofRequest r) with
    | some e => pure (.error e)
    | none => onHost (Host.answerTx tx (.request store r))
  | .now => onHost (Host.answerTx tx .now)
  | .freshId => onHost (Host.answerTx tx .freshId)
  | .tell (.line text) => onHost (Host.answerTx tx (.tell (.line text)))
  | .tell (.stop value) => do
    match (← get).foreground with
    | some task => sendStop task value
    | none => pure ()

/-- Abandon a transaction. -/
def dropTx (tx : TxHandle) : SimM Unit :=
  modify fun w => { w with host := { w.host with system := w.host.system.drop tx } }

/-- **Answer code that owns transactions.** A commit or rollback that is made to fail ends the
transaction nevertheless. -/
def answer : (op : OutboxOp Note) → SimM op.Reply
  | .beginTx store => do
    match ← strike store .beginTx with
    | some e => pure (.error e)
    | none => onHost (Host.answer (.beginTx store))
  | .commit store tx => do
    match ← strike store .commit with
    | some e => do
      dropTx tx
      pure (.error e)
    | none => onHost (Host.answer (.commit store tx))
  | .rollback store tx => do
    match ← strike store .rollback with
    | some e => do
      dropTx tx
      pure (.error e)
    | none => onHost (Host.answer (.rollback store tx))
  | .inside tx op => answerTx tx op
  | .enter state => do
    match (← get).onDuty with
    | some i => changeWorker i fun worker => { worker with state := state }
    | none => pure ()
  | .stopRequested => do
    let w ← get
    match w.running.bind fun i => w.tasks[i]? with
    | some t => pure t.signal.value
    | none => pure false

/-- Run a program in the world. -/
def runProgram {α : Type} (p : OutboxProgram Note α) : SimM α :=
  p.run answer

/-- Run code in a transaction of the world. -/
def runInTx {α : Type} (tx : TxHandle) (p : TxProgram Note α) : SimM α :=
  p.run (answerTx tx)

/-- Do something while the trace shows the state of a worker. -/
def watching {α : Type} (worker : Nat) (act : SimM α) : SimM α := do
  modify fun w => { w with watched := some worker }
  let a ← act
  modify fun w => { w with watched := none }
  pure a

/-- Run a program with a worker on duty. -/
def runOnDuty {α : Type} (worker : Nat) (p : OutboxProgram Note α) : SimM α := do
  modify fun w => { w with onDuty := some worker }
  let a ← runProgram p
  modify fun w => { w with onDuty := none }
  pure a

end World

end MaintenanceOutbox
