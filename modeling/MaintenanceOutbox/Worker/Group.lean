import MaintenanceOutbox.Config.Settings

set_option autoImplicit false

/-! # Worker groups

A group has as many slots as its settings ask for workers. A slot is empty or holds a running
worker, of which the group keeps a handle of type `η`; slots are started and stopped one by one or
all together. Workers of a group share nothing but the store.
-/

namespace MaintenanceOutbox

/-- Why a group refuses a call. -/
inductive GroupError where
  | unknownWorker (index count : Nat)
  | alreadyRunning (index : Nat)
deriving DecidableEq, Repr

/-- The text of a refused call. -/
def GroupError.message : GroupError → String
  | .unknownWorker index count =>
    "worker slot " ++ toString index ++ " does not exist (group has " ++ toString count ++ ")"
  | .alreadyRunning index => "worker slot " ++ toString index ++ " is already running"

/-- A group of workers, the running ones known by handles. -/
structure WorkerGroup (η : Type) where
  config : OutboxConfig
  slots : List (Option η)

namespace WorkerGroup

variable {η : Type}

/-- The group that settings ask for, with no worker running. -/
def ofConfig (config : OutboxConfig) : WorkerGroup η :=
  ⟨config, List.replicate config.workerCount none⟩

/-- The name of the worker in a slot. -/
def workerName (index : Nat) : String :=
  "outbox-worker-" ++ toString index

/-- The number of slots. -/
def workerCount (g : WorkerGroup η) : Nat :=
  g.slots.length

/-- The handle of the worker in a slot, if one is running there. -/
def handle? (g : WorkerGroup η) (index : Nat) : Option η :=
  (g.slots[index]?).join

/-- Is a worker running in the slot? -/
def isRunning (g : WorkerGroup η) (index : Nat) : Bool :=
  (g.handle? index).isSome

/-- The handles of the running workers, in the order of their slots. -/
def running (g : WorkerGroup η) : List η :=
  g.slots.filterMap id

/-- The number of running workers. -/
def runningCount (g : WorkerGroup η) : Nat :=
  g.running.length

/-- The slots that a start of all would start, in order. -/
def idleSlots (g : WorkerGroup η) : List Nat :=
  (List.range g.workerCount).filter fun index => !g.isRunning index

/-- May a worker be started in the slot? -/
def checkStart (g : WorkerGroup η) (index : Nat) : Except GroupError Unit :=
  match g.slots[index]? with
  | none => .error (.unknownWorker index g.workerCount)
  | some (some _) => .error (.alreadyRunning index)
  | some none => .ok ()

/-- Put a running worker into a slot. -/
def occupy (g : WorkerGroup η) (index : Nat) (worker : η) : WorkerGroup η :=
  { g with slots := g.slots.set index (some worker) }

/-- Start a worker in a slot. -/
def start (g : WorkerGroup η) (index : Nat) (worker : η) : Except GroupError (WorkerGroup η) := do
  g.checkStart index
  pure (g.occupy index worker)

/-- Empty a slot; what was in it is the result. -/
def take (g : WorkerGroup η) (index : Nat) : Except GroupError (Option η × WorkerGroup η) :=
  match g.slots[index]? with
  | none => .error (.unknownWorker index g.workerCount)
  | some worker => .ok (worker, { g with slots := g.slots.set index none })

/-- Empty all slots; the workers that ran are the result. -/
def takeAll (g : WorkerGroup η) : List η × WorkerGroup η :=
  (g.running, { g with slots := g.slots.map fun _ => none })

end WorkerGroup

end MaintenanceOutbox
