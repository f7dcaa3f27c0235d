import MaintenanceOutbox.Simulation.Schedule
import MaintenanceOutbox.Worker.Group

set_option autoImplicit false

/-! # Scenes

A scene is a world in which things have names: stores, registries, open transactions, units of work
and workers, and at most one group of workers. The functions here are the steps of a scene. Each
refers to things by name, does one thing and results in what there is to see of it, or fails.

A name that is given again belongs to the new thing. What had it before is dropped: a transaction is
abandoned, and the workers of a group are told to stop.
-/

namespace MaintenanceOutbox

/-- A unit of work with its transaction. -/
structure OpenWork where
  tx : TxHandle
  uow : UnitOfWork SimKind

/-- A group of workers, with what its workers work on. -/
structure SimGroup where
  /-- the running workers, by the places of their run loops -/
  slots : WorkerGroup Nat
  store : StoreId
  registry : Registry SimKind Note

/-- A world in which things have names. -/
structure Scene where
  world : World
  stores : List String
  registries : List (String × Registry SimKind Note) := []
  txs : List (String × TxHandle) := []
  works : List (String × OpenWork) := []
  workers : List (String × Nat) := []
  group : Option SimGroup := none

/-- A step of a scene. -/
abbrev SceneM := ExceptT Failure (OptionT (StateM Scene))

namespace Scene

/-- A scene with the given stores, all of them empty. -/
def ofStores (names : List String) : Scene :=
  { world := World.ofStores names.length, stores := names }

/-- Let the world act. -/
def onWorld {α : Type} (act : SimM α) : SceneM α :=
  ExceptT.lift (show OptionT (StateM Scene) α from fun s =>
    let (a, world) := act s.world
    (a, { s with world := world }))

/-- Go on with a result, or fail. -/
def orFail {ε α : Type} (failure : ε → Failure) : Except ε α → SceneM α
  | .ok a => pure a
  | .error e => throw (failure e)

/-! ## Names -/

/-- Set the thing under a name. -/
def setNamed {α : Type} (name : String) (a : α) : List (String × α) → List (String × α)
  | [] => [(name, a)]
  | (n, b) :: rest => if n = name then (n, a) :: rest else (n, b) :: setNamed name a rest

/-- Remove the thing under a name. -/
def removeNamed {α : Type} (name : String) (things : List (String × α)) : List (String × α) :=
  things.filter (·.1 ≠ name)

/-- The thing under a name, which must be there. -/
def named {α : Type} (what name : String) (things : List (String × α)) : SceneM α :=
  match things.lookup name with
  | some a => pure a
  | none => throw (.badInput ("no " ++ what ++ " " ++ name))

/-- The store with a name. -/
def storeId (name : String) : SceneM StoreId := do
  match (← get).stores.idxOf? name with
  | some i => pure ⟨i⟩
  | none => throw (.badInput ("no store " ++ name))

/-- The tables of the store with a name. -/
def tables (name : String) : SceneM Store := do
  let i ← storeId name
  pure ((← get).world.host.system.store i)

/-- The registry with a name. A registry that was never made has no routes. -/
def registry (name : String) : SceneM (Registry SimKind Note) := do
  pure (((← get).registries.lookup name).getD Registry.empty)

/-- The transaction with a name. -/
def tx (name : String) : SceneM TxHandle := do
  named "transaction" name (← get).txs

/-- The unit of work with a name. -/
def work (name : String) : SceneM OpenWork := do
  named "unit of work" name (← get).works

/-- The worker with a name, by its place. -/
def worker (name : String) : SceneM Nat := do
  named "worker" name (← get).workers

/-- What there is to know about the worker at a place. -/
def workerAt (index : Nat) : SceneM SimWorker := do
  match (← get).world.workers[index]? with
  | some w => pure w
  | none => throw (.badInput "no such worker")

/-! ## The beginning of a step -/

/-- Begin a step: the trace and the journal are empty then. -/
def beginStep : SceneM Unit :=
  onWorld (modify fun w => { w with trace := [], host := { w.host with told := [] } })

/-- The lines that were written into the journal since the step began. -/
def journal : SceneM (List String) := do
  pure ((← get).world.host.told.filterMap fun n =>
    match n with
    | .line text => some text
    | .stop _ => none)

/-- The calls that were made since the step began. -/
def trace : SceneM (List String) := do
  pure (← get).world.trace

/-- The time on the clock. -/
def clock : SceneM Timestamp := do
  pure (← get).world.host.clock

/-- Set the clock. -/
def setClock (time : Timestamp) : SceneM Unit :=
  onWorld (modify fun w => { w with host := { w.host with clock := time } })

/-- Set a fault. -/
def addFault (store : String) (call : CallKind) (error : StoreError) (skip times : Nat) :
    SceneM Unit := do
  let i ← storeId store
  onWorld (modify fun w => { w with faults := w.faults ++ [⟨i, call, error, skip, times⟩] })

/-! ## Transactions -/

/-- Abandon the transaction with a name, if there is one. -/
def forgetTx (name : String) : SceneM Unit := do
  match (← get).txs.lookup name with
  | some h => do
    onWorld (World.dropTx h)
    modify fun s => { s with txs := removeNamed name s.txs }
  | none => pure ()

/-- Begin a transaction. -/
def beginTx (store name : String) : SceneM Unit := do
  let i ← storeId store
  let h ← orFail Failure.store (← onWorld (World.runProgram (OutboxProgram.beginTx i)))
  forgetTx name
  modify fun s => { s with txs := setNamed name h s.txs }

/-- Take a transaction out of the scene, in order to end it. -/
def takeTx (name : String) : SceneM TxHandle := do
  let h ← tx name
  modify fun s => { s with txs := removeNamed name s.txs }
  pure h

/-- Commit a transaction. -/
def commitTx (store name : String) : SceneM Unit := do
  let i ← storeId store
  let h ← takeTx name
  orFail Failure.store (← onWorld (World.runProgram (OutboxProgram.commit i h)))

/-- Roll a transaction back. -/
def rollbackTx (store name : String) : SceneM Unit := do
  let i ← storeId store
  let h ← takeTx name
  orFail Failure.store (← onWorld (World.runProgram (OutboxProgram.rollback i h)))

/-- Drop a transaction without ending it. -/
def dropTx (name : String) : SceneM Unit := do
  let h ← takeTx name
  onWorld (World.dropTx h)

/-- Make a request on a transaction. -/
def request (store name : String) (r : TxRequest) : SceneM r.Answer := do
  let i ← storeId store
  let h ← tx name
  orFail Failure.store (← onWorld (World.runInTx h (TxProgram.request i r)))

/-- Add a message to a transaction. -/
def add (store name : String) (spec : MessageSpec) : SceneM QueuedMessage := do
  let h ← tx name
  let m ← orFail id (← onWorld (World.runInTx h spec.build))
  let () ← request store name (.add m)
  pure m

/-- Add messages in a transaction of their own, one after the other. -/
def putAll (i : StoreId) (h : TxHandle) : List MessageSpec → SceneM Unit
  | [] => pure ()
  | spec :: rest => do
    let m ← orFail id (← onWorld (World.runInTx h spec.build))
    let () ← orFail Failure.store (← onWorld (World.runInTx h (TxProgram.request i (.add m))))
    putAll i h rest

/-- Add messages and commit them. The transaction cannot be made to fail at its ends. -/
def put (store : String) (specs : List MessageSpec) : SceneM Unit := do
  let i ← storeId store
  let begun ← onWorld (World.onHost (Host.answer (.beginTx i)))
  let h ← orFail Failure.store (begun : Except StoreError TxHandle)
  try putAll i h specs
  catch e => do
    onWorld (World.dropTx h)
    throw e
  let done ← onWorld (World.onHost (Host.answer (.commit i h)))
  orFail Failure.store (done : Except StoreError Unit)

/-! ## Administration -/

/-- Act on the system of stores. -/
def onSystem {α : Type} (act : System → α × System) : SceneM α :=
  onWorld fun w =>
    let (a, system) := act w.host.system
    (some a, { w with host := { w.host with system := system } })

/-- Put a dead letter back into the queue. -/
def requeue (store : String) (id : MessageId) : SceneM QueuedMessage := do
  let i ← storeId store
  orFail Failure.store (← onSystem fun s => s.requeue i id)

/-- Delete a dead letter. -/
def deleteDeadLetter (store : String) (id : MessageId) : SceneM Unit := do
  let i ← storeId store
  orFail Failure.store (← onSystem fun s => s.deleteDeadLetter i id)

/-- Delete old rows and count them. -/
def purge (store : String) (cutoff : Timestamp) : SceneM Nat := do
  let i ← storeId store
  onSystem fun s => s.purge i cutoff

/-! ## Events -/

/-- Raise an event outside of any unit of work. -/
def raised (spec : EventSpec) : SceneM (RaisedEvent SimKind) := do
  let body ← orFail id spec.read
  pure (RaisedEvent.raise (← clock) body.1 body.2)

/-- Decode a stored event. -/
def decode (registryName tag : String) (payload : Json) : SceneM (RaisedEvent SimKind) := do
  let r ← registry registryName
  orFail Failure.decode (r.decode (← clock) tag payload)

/-- Run the deferred handlers of an event in a transaction, and count them. -/
def dispatchDeferred (registryName txName : String) (spec : EventSpec) : SceneM Nat := do
  let r ← registry registryName
  let h ← tx txName
  let e ← raised spec
  orFail Failure.handler (← onWorld (World.runInTx h (r.dispatchDeferred e).run))

/-! ## Units of work -/

/-- Change the unit of work with a name by code in its transaction. -/
def inWork {ε α : Type} (failure : ε → Failure) (name : String)
    (act : ExceptT ε (StateT (UnitOfWork SimKind) (TxProgram Note)) α) : SceneM α := do
  let o ← work name
  let (result, uow) ← onWorld (World.runInTx o.tx (act.run.run o.uow))
  modify fun s => { s with works := setNamed name { o with uow := uow } s.works }
  orFail failure result

/-- Begin a unit of work. -/
def beginWork (store name : String) : SceneM Unit := do
  let i ← storeId store
  let h ← orFail Failure.store (← onWorld (World.runProgram (OutboxProgram.beginTx i)))
  match (← get).works.lookup name with
  | some o => onWorld (World.dropTx o.tx)
  | none => pure ()
  modify fun s => { s with works := setNamed name ⟨h, UnitOfWork.empty⟩ s.works }

/-- Take a unit of work out of the scene, in order to end it. -/
def takeWork (name : String) : SceneM OpenWork := do
  let o ← work name
  modify fun s => { s with works := removeNamed name s.works }
  pure o

/-- Commit the transaction of a unit of work. -/
def commitWork (store name : String) : SceneM Unit := do
  let i ← storeId store
  let o ← takeWork name
  orFail Failure.store (← onWorld (World.runProgram (OutboxProgram.commit i o.tx)))

/-- Roll back the transaction of a unit of work. -/
def rollbackWork (store name : String) : SceneM Unit := do
  let i ← storeId store
  let o ← takeWork name
  orFail Failure.store (← onWorld (World.runProgram (OutboxProgram.rollback i o.tx)))

/-- Are events waiting in a unit of work? -/
def hasPending (name : String) : SceneM Bool := do
  pure (← work name).uow.hasPending

/-- Follow a script in a unit of work. -/
def follow (store name : String) (script : List ScriptedAction) : SceneM Bool := do
  let i ← storeId store
  inWork Failure.handler name (followScript i none script)
  hasPending name

/-- Take the waiting events out of a unit of work. -/
def collect (name : String) : SceneM (List (RaisedEvent SimKind)) := do
  let o ← work name
  let (events, uow) := o.uow.collect
  modify fun s => { s with works := setNamed name { o with uow := uow } s.works }
  pure events

/-- Run the transactional handlers of an event in a unit of work, and count them. -/
def dispatchTransactional (registryName name : String) (spec : EventSpec) : SceneM Nat := do
  let r ← registry registryName
  let _ ← work name
  let e ← raised spec
  inWork Failure.handler name (r.dispatchTransactional e)

/-! ## The pipeline -/

/-- How an event stage is to be set up. -/
inductive StageSetup where
  | ofConfig (config : OutboxConfig)
  /-- as usual, apart from what is given -/
  | usual (maxRounds : Option Nat) (maxRetries : Option UInt32)

/-- The event stage of a store, as it is to be set up. -/
def stage (store registryName : String) (setup : StageSetup) :
    SceneM (EventStage SimKind Note) := do
  let i ← storeId store
  let r ← registry registryName
  match setup with
  | .ofConfig config => pure (EventStage.ofConfig i r config)
  | .usual maxRounds maxRetries =>
    let s := EventStage.standard i r
    let s := (maxRounds.map s.withMaxRounds).getD s
    pure ((maxRetries.map s.withMaxRetries).getD s)

/-- Run the event stage on a unit of work, and count the messages that it recorded. -/
def runStage (store registryName name : String) (setup : StageSetup) : SceneM Nat := do
  let s ← stage store registryName setup
  inWork (fun e => .pipeline e.widen) name s.run

/-- Execute a scripted command. -/
def execute (store registryName : String) (setup : StageSetup) (script : List ScriptedAction) :
    SceneM Unit := do
  let s ← stage store registryName setup
  orFail Failure.pipeline
    (← onWorld (World.runProgram (s.execute (scriptedCommand s.store script))))

/-! ## Workers -/

/-- How a worker is to be set up. -/
inductive WorkerSetup where
  | ofConfig (config : OutboxConfig)
  /-- as usual, apart from what is given -/
  | usual (batchSize pollMs : Option Nat)

/-- The worker that is to be set up. -/
def WorkerSetup.worker (name : String) (store : StoreId) (r : Registry SimKind Note) :
    WorkerSetup → Worker SimKind Note
  | .ofConfig config => Worker.ofConfig name store r config
  | .usual batchSize pollMs =>
    let w := Worker.standard name store r
    let w := (batchSize.map w.withBatchSize).getD w
    (pollMs.map w.withPollMs).getD w

/-- Put a worker into the world. Its place is the result. -/
def addWorker (w : Worker SimKind Note) : SceneM Nat :=
  onWorld fun world =>
    (some world.workers.length, { world with workers := world.workers ++ [{ worker := w }] })

/-- Make a worker. -/
def makeWorker (store registryName name : String) (setup : WorkerSetup) : SceneM SimWorker := do
  let i ← storeId store
  let r ← registry registryName
  let index ← addWorker (setup.worker name i r)
  modify fun s => { s with workers := setNamed name index s.workers }
  workerAt index

/-- Let a worker deliver one message. -/
def processNext (name : String) : SceneM (Option MessageOutcome) := do
  let index ← worker name
  let w ← workerAt index
  orFail Failure.worker
    (← onWorld (World.watching index (World.runOnDuty index w.worker.processNext)))

/-- Let a worker handle one batch. -/
def processBatch (name : String) : SceneM BatchReport := do
  let index ← worker name
  let w ← workerAt index
  let result ← onWorld (World.watching index (World.runOnDuty index (w.worker.batch false)))
  onWorld (World.changeWorker index fun w => { w with stats := w.stats.afterBatch result })
  orFail Failure.worker result

/-- Run a worker until its loop ends. -/
def runWorker (name : String) (start : Bool) (signals : List World.SignalStep) :
    SceneM SimWorker := do
  let index ← worker name
  onWorld (World.runWorker index start signals)
  workerAt index

/-! ## The group of workers -/

/-- The group of the scene. -/
def theGroup : SceneM SimGroup := do
  match (← get).group with
  | some g => pure g
  | none => throw (.badInput "no group")

/-- Change the slots of the group. -/
def setSlots (slots : WorkerGroup Nat) : SceneM Unit :=
  modify fun s => { s with group := s.group.map fun g => { g with slots := slots } }

/-- Tell run loops to stop. -/
def askToStop (tasks : List Nat) : SceneM Unit :=
  onWorld (tasks.forM fun task => World.sendStop task true)

/-- The worker of a run loop. -/
def workerOfTask (task : Nat) : SceneM SimWorker := do
  match (← get).world.tasks[task]? with
  | some t => workerAt t.worker
  | none => throw (.badInput "no such run loop")

/-- Make a group. The workers of the group before it are told to stop. -/
def makeGroup (store registryName : String) (config : OutboxConfig) : SceneM SimGroup := do
  let i ← storeId store
  let r ← registry registryName
  match (← get).group with
  | some g => askToStop g.slots.running
  | none => pure ()
  let g : SimGroup := ⟨WorkerGroup.ofConfig config, i, r⟩
  modify fun s => { s with group := some g }
  pure g

/-- Start the worker of a slot. -/
def startSlot (index : Nat) : SceneM Unit := do
  let g ← theGroup
  orFail Failure.group (g.slots.checkStart index)
  let place ← addWorker
    (Worker.ofConfig (WorkerGroup.workerName index) g.store g.registry g.slots.config)
  let task ← onWorld (World.beginLoop place false)
  let slots ← orFail Failure.group (g.slots.start index task)
  setSlots slots

/-- Start the workers of all slots that are empty, and count them. -/
def startAll : SceneM Nat := do
  let g ← theGroup
  let idle := g.slots.idleSlots
  idle.forM startSlot
  pure idle.length

/-- Stop the worker of a slot and wait until it stopped. Its statistics are the result. -/
def stopSlot (index : Nat) : SceneM (Option WorkerStats) := do
  let g ← theGroup
  let (running, slots) ← orFail Failure.group (g.slots.take index)
  setSlots slots
  match running with
  | none => pure none
  | some task => do
    askToStop [task]
    onWorld (World.waitForAll [task])
    pure (some (← workerOfTask task).stats)

/-- Stop all workers of the group and wait until they stopped. -/
def shutdownGroup : SceneM Unit := do
  let g ← theGroup
  let (tasks, slots) := g.slots.takeAll
  setSlots slots
  askToStop tasks
  if tasks.isEmpty then pure () else onWorld (World.waitForAll tasks)

/-- The states of workers that may be running. -/
def statesOf (slots : List (Option Nat)) : SceneM (List (Option WorkerState)) :=
  slots.mapM fun slot =>
    match slot with
    | some task => do
      let w ← workerOfTask task
      pure (some w.state)
    | none => pure none

/-- Drop the group, wait until its workers stopped, and give the last state of each. -/
def dropGroup : SceneM (List (Option WorkerState)) := do
  let g ← theGroup
  modify fun s => { s with group := none }
  let tasks := g.slots.running
  askToStop tasks
  if tasks.isEmpty then pure () else onWorld (World.waitForAll tasks)
  statesOf g.slots.slots

/-- Let time pass. -/
def settle (ms : Nat) : SceneM Unit :=
  onWorld (World.sleepFor ms)

/-! ## Registries -/

/-- An entry of a scripted registry. -/
inductive RegistryEntry where
  | event (type : String)
  | transactional (type : String) (store : String) (script : List ScriptedAction)
  | deferred (type : String) (store : String) (script : List ScriptedAction)

/-- What a scripted registry starts from. -/
inductive RegistryBase where
  | empty
  /-- the handlers of maintenance, with the journal as their sink -/
  | journal (failing : Option (String × HandlerError))
  /-- the handlers of maintenance, with a quiet sink -/
  | quiet

/-- The registry to start from. -/
def RegistryBase.registry : RegistryBase → Except RegistryError (Registry SimKind Note)
  | .empty => .ok Registry.empty
  | .journal failing => maintenanceRegistry (journalSink failing)
  | .quiet => maintenanceRegistry quietSink

/-- Make one entry. -/
def RegistryEntry.enter (r : Registry SimKind Note) :
    RegistryEntry → SceneM (Registry SimKind Note)
  | .event type => do
    let k ← orFail id (SimKind.ofName type)
    orFail Failure.registry (r.registerEvent k)
  | .transactional type store script => do
    let k ← orFail id (SimKind.ofName type)
    let i ← storeId store
    orFail Failure.registry (r.onTransactional (scriptedTransactional i k script))
  | .deferred type store script => do
    let k ← orFail id (SimKind.ofName type)
    let i ← storeId store
    orFail Failure.registry (r.onDeferred (scriptedDeferred i k script))

/-- Make entries one after the other; one that is refused changes nothing. -/
def enterAll : Registry SimKind Note → List RegistryEntry →
    SceneM (Registry SimKind Note × List (Except Failure Unit))
  | r, [] => pure (r, [])
  | r, entry :: rest => do
    let entered ← tryCatch (do pure (Except.ok (← entry.enter r))) fun e => pure (.error e)
    match entered with
    | .ok r => do
      let (r, results) ← enterAll r rest
      pure (r, .ok () :: results)
    | .error e => do
      let (r, results) ← enterAll r rest
      pure (r, .error e :: results)

/-- Make a registry with a name. The result of every entry is the result. -/
def makeRegistry (name : String) (base : RegistryBase) (entries : List RegistryEntry) :
    SceneM (List (Except Failure Unit)) := do
  let r ← orFail Failure.registry base.registry
  let (r, results) ← enterAll r entries
  modify fun s => { s with registries := setNamed name r s.registries }
  pure results

end Scene

end MaintenanceOutbox
