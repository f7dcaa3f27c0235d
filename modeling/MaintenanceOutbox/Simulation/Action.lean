import MaintenanceOutbox.Maintenance.Notifier
import MaintenanceOutbox.Message.Record
import MaintenanceOutbox.Pipeline.Command
import MaintenanceOutbox.Simulation.Failure
import MaintenanceOutbox.Simulation.Names
import MaintenanceOutbox.Simulation.Probe

set_option autoImplicit false

/-! # Scripted handlers and commands

In a simulation, handlers and commands follow a script, a list of actions that are taken in order;
the first one that fails ends the list and is the failure of the whole. An action may be bound to
one tag, and is then passed over when another event, or none, is being handled.

An action holds its input as it was written. It is read when the action is taken; an action that
cannot read its input fails.
-/

namespace MaintenanceOutbox

/-- The event types of a simulation. -/
abbrev SimKind := WithMaintenance ProbeKind

/-- What scripts tell the outside world. -/
inductive Note where
  /-- a line of the journal -/
  | line (text : String)
  /-- a value for the stop signal of the worker at work -/
  | stop (value : Bool)
deriving DecidableEq, Repr

/-- An event in the making: the name of its type, and its body. -/
structure EventSpec where
  type : String
  body : Json

/-- A message in the making. Names and times are as they were written. -/
structure MessageSpec where
  eventType : String
  payload : Json
  id : Option String := none
  createdAt : Option String := none
  /-- a budget, of at least one attempt -/
  maxRetries : Option UInt32 := none
  /-- a budget, as it is -/
  rawMaxRetries : Option UInt32 := none
  retryCount : Option UInt32 := none
  processedAt : Option String := none
  lastError : Option String := none

/-- A step in the life of a work order. -/
inductive OrderStep where
  | assign (technician : String)
  | complete (time : String)

/-- One action of a script. -/
inductive Action where
  | log (text : String)
  | raise (event : EventSpec)
  /-- raise `copies` deeper pings for a ping above the depth `limit` -/
  | echo (limit : UInt32) (copies : Nat)
  /-- service the asset of a completed work order -/
  | serviceAsset (name : String)
  | order (id assetId title time : String) (steps : List OrderStep)
  /-- an asset with visits, each a note and a time -/
  | asset (id name : String) (visits : List (String × String))
  | add (message : MessageSpec)
  | mark (id : String)
  | claim
  | increment (id error : String)
  | savepoint
  | rollbackToSavepoint
  | releaseSavepoint
  | fail (reason : String)
  | connectivity (reason : String)
  | domain (error : DomainError)
  | stop (value : Bool)

/-- An action, and the only tag it is taken for, if there is one. -/
structure ScriptedAction where
  only : Option String
  action : Action

/-- The types that event specifications name. -/
def SimKind.named : List (String × SimKind) :=
  [("work_order", .inl .workOrder), ("asset", .inl .asset), ("door", .inr .door),
    ("impostor", .inr .impostor), ("ping", .inr .ping), ("unstorable", .inr .unstorable),
    ("stray", .inr .stray)]

/-- The type with a given name. -/
def SimKind.ofName (name : String) : Except Failure SimKind :=
  match SimKind.named.lookup name with
  | some k => .ok k
  | none => .error (.badInput ("unknown event type " ++ name))

/-- The name of a type. -/
def SimKind.name : SimKind → String
  | .inl .workOrder => "work_order"
  | .inl .asset => "asset"
  | .inr .door => "door"
  | .inr .impostor => "impostor"
  | .inr .ping => "ping"
  | .inr .unstorable => "unstorable"
  | .inr .stray => "stray"

/-- The body of an event, with its type. -/
abbrev SimBody := (k : SimKind) × EventFamily.Body k

/-- Read an event. -/
def EventSpec.read (s : EventSpec) : Except Failure SimBody := do
  let k ← SimKind.ofName s.type
  let body ← (EventFamily.read k s.body).mapError Failure.json
  pure ⟨k, body⟩

/-- Read the name of an aggregate. -/
def readAggregateId (s : String) : Except Failure AggregateId :=
  (AggregateId.parse s).mapError Failure.domain

/-- Read the name of a message, or the label of one. -/
def readMessageId (s : String) : Except Failure MessageId :=
  (MessageId.parse (DrawnName.resolve s)).mapError Failure.domain

/-- Read a time. -/
def readTime (s : String) : Except Failure Timestamp :=
  (Timestamp.parse s).mapError fun e => .json (.refused e.message)

/-- Read something that may be missing. -/
def readOptional {α : Type} (read : String → Except Failure α) :
    Option String → Except Failure (Option α)
  | none => .ok none
  | some s => (read s).map some

/-- Make a message. A name is drawn for it if it has none. -/
def MessageSpec.build (s : MessageSpec) :
    TxProgram Note (Except Failure QueuedMessage) := ExceptT.run do
  let id ← ExceptT.mk (pure (readOptional readMessageId s.id))
  let createdAt ← ExceptT.mk (pure (readOptional readTime s.createdAt))
  let processedAt ← ExceptT.mk (pure (readOptional readTime s.processedAt))
  let id ←
    match id with
    | some id => pure id
    | none => ExceptT.lift TxProgram.freshId
  let now ← ExceptT.lift TxProgram.now
  let m := QueuedMessage.fresh id now s.eventType s.payload
  let m := (createdAt.map m.withCreatedAt).getD m
  let m := (s.maxRetries.map m.withMaxRetries).getD m
  pure
    { m with
      maxRetries := s.rawMaxRetries.getD m.maxRetries
      retryCount := s.retryCount.getD m.retryCount
      processedAt := processedAt
      lastError := s.lastError }

/-! ## Taking actions -/

/-- The work of a script: that of a transactional handler, which can do all that there is to do. -/
abbrev ScriptM := TransactionalM SimKind Note

namespace ScriptM

/-- Go on with a value that was read, or fail. -/
def ofRead {α : Type} : Except Failure α → ScriptM α
  | .ok a => pure a
  | .error e => throw e.toHandlerError

/-- Obey the rules of the domain. -/
def ofDomain {α : Type} : Except DomainError α → ScriptM α
  | .ok a => pure a
  | .error e => throw (.domain e)

/-- Code in the transaction. -/
def inTx {α : Type} (p : TxProgram Note α) : ScriptM α :=
  ExceptT.lift (StateT.lift p)

/-- Make a request on the transaction. -/
def request (store : StoreId) (r : TxRequest) : ScriptM r.Answer := do
  match ← inTx (TxProgram.request store r) with
  | .ok answer => pure answer
  | .error e => throw e.toHandlerError

/-- Write a line into the journal. -/
def log (text : String) : ScriptM Unit :=
  inTx (TxProgram.tell (.line text))

/-- Raise an event. -/
def raise (b : SimBody) : ScriptM Unit := do
  let now ← inTx TxProgram.now
  ExceptT.lift (modify fun uow => uow.raise now b.1 b.2)

/-- Move the events of a work order into the unit of work. -/
def registerOrder (w : WorkOrder) : ScriptM WorkOrder := do
  let now ← inTx TxProgram.now
  ExceptT.lift (modifyGet fun uow =>
    let (uow, w) := uow.register now (.inl .workOrder) WorkOrder.takeEvents w
    (w, uow))

/-- Move the events of an asset into the unit of work. -/
def registerAsset (a : Asset) : ScriptM Asset := do
  let now ← inTx TxProgram.now
  ExceptT.lift (modifyGet fun uow =>
    let (uow, a) := uow.register now (.inl .asset) Asset.takeEvents a
    (a, uow))

end ScriptM

/-- Take a step in the life of a work order. -/
def OrderStep.take (w : WorkOrder) : OrderStep → ScriptM WorkOrder
  | .assign technician => ScriptM.ofDomain (w.assign technician)
  | .complete time => do
    let time ← ScriptM.ofRead (readTime time)
    ScriptM.ofDomain (w.complete time)

/-- Record a visit at an asset and register the asset. -/
def visitAsset (a : Asset) (visit : String × String) : ScriptM Asset := do
  let time ← ScriptM.ofRead (readTime visit.2)
  let a ← ScriptM.ofDomain (a.recordService visit.1 time)
  ScriptM.registerAsset a

/-- Raise the echo of a ping. -/
def echoPing (limit : UInt32) (copies : Nat) : Option SimBody → ScriptM Unit
  | some ⟨.inr .ping, p⟩ =>
    let p : Probe.Ping := p
    if p.depth < limit then
      (List.replicate copies ()).forM fun _ =>
        ScriptM.raise ⟨.inr .ping, (⟨p.depth + 1, p.time⟩ : Probe.Ping)⟩
    else pure ()
  | _ => pure ()

/-- Service the asset of a completed work order. -/
def serviceAssetOf (name : String) : Option SimBody → ScriptM Unit
  | some ⟨.inl .workOrder, e⟩ =>
    match (e : WorkOrderEvent) with
    | .completed fact => do
      let a ← ScriptM.ofDomain (Asset.register fact.assetId name)
      let a ← ScriptM.ofDomain
        (a.recordService ("work order " ++ fact.workOrderId.toText) fact.occurredAt)
      let _ ← ScriptM.registerAsset a
      pure ()
    | .opened _ => pure ()
  | _ => pure ()

/-- The tag of the event that is being handled. -/
def handledTag (handled : Option SimBody) : Option String :=
  handled.map fun b => EventFamily.tag b.1 b.2

/-- **Take an action**, with requests made on `store`. -/
def Action.take (store : StoreId) (handled : Option SimBody) : Action → ScriptM Unit
  | .log text =>
    ScriptM.log
      (match handledTag handled with
      | some tag => text ++ ":" ++ tag
      | none => text)
  | .raise event => do
    let body ← ScriptM.ofRead event.read
    ScriptM.raise body
  | .echo limit copies => echoPing limit copies handled
  | .serviceAsset name => serviceAssetOf name handled
  | .order id assetId title time steps => do
    let id ← ScriptM.ofRead (readAggregateId id)
    let assetId ← ScriptM.ofRead (readAggregateId assetId)
    let time ← ScriptM.ofRead (readTime time)
    let w ← ScriptM.ofDomain (WorkOrder.openFor id assetId title time)
    let w ← steps.foldlM OrderStep.take w
    let w ← ScriptM.registerOrder w
    let _ ← ScriptM.registerOrder w
    pure ()
  | .asset id name visits => do
    let id ← ScriptM.ofRead (readAggregateId id)
    let a ← ScriptM.ofDomain (Asset.register id name)
    let _ ← visits.foldlM visitAsset a
    pure ()
  | .add message => do
    let m ← ScriptM.inTx message.build
    let m ← ScriptM.ofRead m
    ScriptM.request store (.add m)
  | .mark id => do
    let id ← ScriptM.ofRead (readMessageId id)
    ScriptM.request store (.markProcessed id)
  | .claim => do
    let claimed ← ScriptM.request store .claimNext
    let name := match (claimed : Option QueuedMessage) with
      | some m => m.id.toText
      | none => "none"
    ScriptM.log ("claimed:" ++ name)
  | .increment id error => do
    let id ← ScriptM.ofRead (readMessageId id)
    let outcome : RetryOutcome ← ScriptM.request store (.incrementRetry id error)
    ScriptM.log ("incremented:" ++ toString outcome.retryCount.toNat ++ ":" ++
      (if outcome.isDeadLettered then "true" else "false"))
  | .savepoint => ScriptM.request store .savepoint
  | .rollbackToSavepoint => ScriptM.request store .rollbackToSavepoint
  | .releaseSavepoint => ScriptM.request store .releaseSavepoint
  | .fail reason => throw (.failed reason)
  | .connectivity reason => throw (.connectivity reason)
  | .domain error => throw (.domain error)
  | .stop value => ScriptM.inTx (TxProgram.tell (.stop value))

/-- Is the action taken while the given event is being handled? -/
def ScriptedAction.applies (a : ScriptedAction) (handled : Option SimBody) : Bool :=
  match a.only with
  | none => true
  | some tag => handledTag handled == some tag

/-- Follow a script. -/
def followScript (store : StoreId) (handled : Option SimBody) (script : List ScriptedAction) :
    ScriptM Unit :=
  script.forM fun a => if a.applies handled then a.action.take store handled else pure ()

/-! ## Scripts as handlers and commands -/

/-- A script as a transactional handler of one type. -/
def scriptedTransactional (store : StoreId) (kind : SimKind) (script : List ScriptedAction) :
    Handler SimKind (TransactionalM SimKind Note) where
  kind := kind
  handle := fun body => followScript store (some ⟨kind, body⟩) script

/-- A script as a deferred handler of one type. There is no unit of work then, and events that the
script raises go nowhere. -/
def scriptedDeferred (store : StoreId) (kind : SimKind) (script : List ScriptedAction) :
    Handler SimKind (DeferredM Note) where
  kind := kind
  handle := fun body => ExceptT.mk do
    let (result, _) ← ((followScript store (some ⟨kind, body⟩) script).run).run UnitOfWork.empty
    pure result

/-- The failure of a script as a refusal of the domain: its own, or else a conflict. -/
def HandlerError.toDomainError : HandlerError → DomainError
  | .domain e => e
  | e => .conflict e.message

/-- A script as a command. -/
def scriptedCommand (store : StoreId) (script : List ScriptedAction) :
    CommandM SimKind Note DomainError Unit :=
  ExceptT.adapt HandlerError.toDomainError (followScript store none script)

/-- A sink that writes notifications into the journal. It fails for one topic, if a failure is given
for that. -/
def journalSink (failing : Option (String × HandlerError)) : NotificationSink Note := fun n =>
  match failing.filter (·.1 = n.topic) with
  | some (_, e) => throw e
  | none => ExceptT.lift
      (TxProgram.tell (.line (n.topic ++ "|" ++ n.subject ++ "|" ++ n.body)))

end MaintenanceOutbox
