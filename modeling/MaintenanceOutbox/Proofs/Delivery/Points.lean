import MaintenanceOutbox.Worker.Delivery

set_option autoImplicit false

/-! # The points of a delivery

`Worker.processNext` is a program, and what is left of it after some of its calls is a program
again. `Point` names what can be left: between any two calls of a delivery, the worker is at one of
these points. `Point.node` says which call comes next and where each answer leads, and
`Point.program_eq_node` that this is what the program does.

A point knows the transaction and the message of the delivery, if there are any, so that an
invariant can be stated by looking at the point.
-/

namespace MaintenanceOutbox

/-- Where a worker is within a delivery. -/
inductive Point (ω : Type) where
  /-- before the first call -/
  | starting
  | beginning
  | claiming (tx : TxHandle)
  /-- nothing was claimable -/
  | resting (tx : TxHandle)
  | leaving (tx : TxHandle)
  /-- a message was claimed -/
  | taking (tx : TxHandle) (m : QueuedMessage)
  | guarding (tx : TxHandle) (m : QueuedMessage)
  /-- among the calls of the handlers -/
  | handling (tx : TxHandle) (m : QueuedMessage) (op : TxOp ω)
      (next : op.Reply → TxProgram ω (Except HandlerError Nat))
  /-- all handlers succeeded -/
  | keeping (tx : TxHandle) (m : QueuedMessage) (handlers : Nat)
  | marking (tx : TxHandle) (m : QueuedMessage) (handlers : Nat)
  | storing (tx : TxHandle) (m : QueuedMessage) (handlers : Nat)
  | succeeded (id : MessageId) (handlers : Nat)
  /-- a handler failed -/
  | failing (tx : TxHandle) (m : QueuedMessage) (e : HandlerError)
  | undoing (tx : TxHandle) (m : QueuedMessage) (e : HandlerError)
  | counting (tx : TxHandle) (m : QueuedMessage) (reason : String)
  | recording (tx : TxHandle) (m : QueuedMessage) (outcome : RetryOutcome)
  /-- the delivery is given up -/
  | yielding (tx : TxHandle) (m? : Option QueuedMessage) (e : WorkerError)
  | yielded (tx : TxHandle) (m? : Option QueuedMessage) (e : WorkerError)
  | ended (result : Worker.Result)

/-- A call, and the point to which each answer leads. -/
structure Node (ω : Type) where
  op : OutboxOp ω
  next : op.Reply → Point ω

namespace Point

variable {κ ω : Type} [EventFamily κ]

/-- What is left of the delivery. -/
def program (w : Worker κ ω) : Point ω → OutboxProgram ω Worker.Result
  | .starting => w.processNext
  | .beginning => do
    match ← OutboxProgram.beginTx w.store with
    | .error e => pure (.error (.ofStore e))
    | .ok tx => w.claim tx
  | .claiming tx => w.claim tx
  | .resting tx => w.nothingToDo tx
  | .leaving tx => do
    match ← OutboxProgram.rollback w.store tx with
    | .error e => pure (.error (.ofStore e))
    | .ok () => pure (.ok none)
  | .taking tx m => w.guard tx m
  | .guarding tx m => do
    match ← OutboxProgram.request w.store tx .savepoint with
    | .error e => w.abort tx e
    | .ok () => w.dispatch tx m
  | .handling tx m op next => do
    let result ← OutboxProgram.within tx (Program.call (I := TxInterface ω) op next)
    w.settle tx m result
  | .keeping tx m handlers => w.succeed tx m handlers
  | .marking tx m handlers => w.mark tx m handlers
  | .storing tx m handlers => w.commitSuccess tx (.processed m.id handlers)
  | .succeeded id handlers => do
    OutboxProgram.enter .succeeded
    pure (.ok (some (.processed id handlers)))
  | .failing tx m e => w.fail tx m e
  | .undoing tx m e => do
    match ← OutboxProgram.request w.store tx .rollbackToSavepoint with
    | .error e => w.abort tx e
    | .ok () => w.countFailure tx m e.message
  | .counting tx m reason => w.countFailure tx m reason
  | .recording tx m outcome => w.commitFailure tx (.ofRetry m.id outcome)
  | .yielding tx _ e => do
    OutboxProgram.enter .failed
    let _ ← OutboxProgram.rollback w.store tx
    pure (.error e)
  | .yielded tx _ e => do
    let _ ← OutboxProgram.rollback w.store tx
    pure (.error e)
  | .ended result => pure result

/-- Where the handlers' result leads. -/
def settling (tx : TxHandle) (m : QueuedMessage) : Except HandlerError Nat → Point ω
  | .ok handlers => .keeping tx m handlers
  | .error e =>
    if e.isConnectivity then .yielding tx (some m) (.infrastructure e.message)
    else .failing tx m e

/-- Where a worker is with so much left of its handlers. -/
def within (tx : TxHandle) (m : QueuedMessage) : TxProgram ω (Except HandlerError Nat) → Point ω
  | .done result => settling tx m result
  | .call op next => .handling tx m op next

/-- The next call at a point, or the result of the delivery. -/
def node (w : Worker κ ω) : Point ω → Worker.Result ⊕ Node ω
  | .starting => .inr ⟨.enter .claiming, fun _ => .beginning⟩
  | .beginning => .inr ⟨.beginTx w.store, fun
    | .error e => .ended (.error (.ofStore e))
    | .ok tx => .claiming tx⟩
  | .claiming tx => .inr ⟨.inside tx (.request w.store .claimNext), fun
    | .error e => .yielding tx none (.ofStore e)
    | .ok none => .resting tx
    | .ok (some m) => .taking tx m⟩
  | .resting tx => .inr ⟨.enter .idle, fun _ => .leaving tx⟩
  | .leaving tx => .inr ⟨.rollback w.store tx, fun
    | .error e => .ended (.error (.ofStore e))
    | .ok _ => .ended (.ok none)⟩
  | .taking tx m => .inr ⟨.enter .dispatching, fun _ => .guarding tx m⟩
  | .guarding tx m => .inr ⟨.inside tx (.request w.store .savepoint), fun
    | .error e => .yielding tx (some m) (.ofStore e)
    | .ok _ => within tx m (w.deliver m).run⟩
  | .handling tx m op next => .inr ⟨.inside tx op, fun reply => within tx m (next reply)⟩
  | .keeping tx m handlers => .inr ⟨.inside tx (.request w.store .releaseSavepoint), fun
    | .error e => .yielding tx (some m) (.ofStore e)
    | .ok _ => .marking tx m handlers⟩
  | .marking tx m handlers => .inr ⟨.inside tx (.request w.store (.markProcessed m.id)), fun
    | .error e => .yielding tx (some m) (.ofStore e)
    | .ok _ => .storing tx m handlers⟩
  | .storing tx m handlers => .inr ⟨.commit w.store tx, fun
    | .error e => .ended (.error (.ofStore e))
    | .ok _ => .succeeded m.id handlers⟩
  | .succeeded id handlers =>
    .inr ⟨.enter .succeeded, fun _ => .ended (.ok (some (.processed id handlers)))⟩
  | .failing tx m e => .inr ⟨.enter .failed, fun _ => .undoing tx m e⟩
  | .undoing tx m e => .inr ⟨.inside tx (.request w.store .rollbackToSavepoint), fun
    | .error e => .yielding tx (some m) (.ofStore e)
    | .ok _ => .counting tx m e.message⟩
  | .counting tx m reason =>
    .inr ⟨.inside tx (.request w.store (.incrementRetry m.id reason)), fun
      | .error e => .yielding tx (some m) (.ofStore e)
      | .ok outcome => .recording tx m outcome⟩
  | .recording tx m outcome => .inr ⟨.commit w.store tx, fun
    | .error e => .ended (.error (.ofStore e))
    | .ok _ => .ended (.ok (some (.ofRetry m.id outcome)))⟩
  | .yielding tx m? e => .inr ⟨.enter .failed, fun _ => .yielded tx m? e⟩
  | .yielded tx _ e => .inr ⟨.rollback w.store tx, fun _ => .ended (.error e)⟩
  | .ended result => .inl result

/-- The transaction of the delivery, from its beginning to its end. -/
def tx? : Point ω → Option TxHandle
  | .starting | .beginning | .succeeded _ _ | .ended _ => none
  | .claiming tx | .resting tx | .leaving tx | .taking tx _ | .guarding tx _ | .handling tx _ _ _
  | .keeping tx _ _ | .marking tx _ _ | .storing tx _ _ | .failing tx _ _ | .undoing tx _ _
  | .counting tx _ _ | .recording tx _ _ | .yielding tx _ _ | .yielded tx _ _ => some tx

/-- The message of the delivery, from the claim to the end of the transaction. -/
def message? : Point ω → Option QueuedMessage
  | .starting | .beginning | .claiming _ | .resting _ | .leaving _ | .succeeded _ _
  | .ended _ => none
  | .taking _ m | .guarding _ m | .handling _ m _ _ | .keeping _ m _ | .marking _ m _
  | .storing _ m _ | .failing _ m _ | .undoing _ m _ | .counting _ m _ | .recording _ m _ => some m
  | .yielding _ m? _ | .yielded _ m? _ => m?

/-! ## The points are those of the program -/

theorem program_settling (w : Worker κ ω) (tx : TxHandle) (m : QueuedMessage)
    (result : Except HandlerError Nat) :
    (settling tx m result).program w = w.settle tx m result := by
  cases result with
  | ok handlers => rfl
  | error e =>
      rw [settling, Worker.settle]
      split
      · rfl
      · rfl

theorem program_within (w : Worker κ ω) (tx : TxHandle) (m : QueuedMessage)
    (p : TxProgram ω (Except HandlerError Nat)) :
    (within tx m p).program w = OutboxProgram.within tx p >>= w.settle tx m := by
  cases p with
  | done result => exact program_settling w tx m result
  | call op next => rfl

/-- **The calls of a delivery are those of its points.** -/
theorem program_eq_node (w : Worker κ ω) (point : Point ω) :
    point.program w = match point.node w with
      | .inl result => .done result
      | .inr node => .call (I := OutboxInterface ω) node.op fun reply =>
          (node.next reply).program w := by
  -- two calls of the same operation are the same if they go on in the same way
  have call : ∀ (op : OutboxOp ω) (f g : op.Reply → OutboxProgram ω Worker.Result),
      (∀ reply, f reply = g reply) → Program.call (I := OutboxInterface ω) op f = .call op g :=
    fun op f g same => congrArg _ (funext same)
  cases point with
  | starting | resting | taking | succeeded | failing | yielding | yielded | ended => rfl
  | beginning | leaving | keeping | marking | storing | undoing | counting | recording =>
      refine call _ _ _ ?_
      intro reply
      cases reply <;> rfl
  | claiming tx =>
      refine call _ _ _ ?_
      intro reply
      rcases reply with e | (_ | m) <;> rfl
  | guarding tx m =>
      refine call _ _ _ ?_
      intro reply
      cases reply with
      | error e => rfl
      | ok answer => exact (program_within w tx m (w.deliver m).run).symm
  | handling tx m op next =>
      refine call _ _ _ ?_
      intro reply
      exact (program_within w tx m (next reply)).symm

end Point

end MaintenanceOutbox
