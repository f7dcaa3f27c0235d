import MaintenanceOutbox.Database.Failure
import MaintenanceOutbox.Store.Interface

set_option autoImplicit false

/-! # A store whose connections are closed

The surroundings of a program whose store keeps its tables in a database, after the pool of
connections was closed: every access to the database fails, and says during which operation. All
that is left to observe is the state that a worker publishes last.
-/

namespace MaintenanceOutbox.ClosedPool

/-- The failure of an operation. -/
def refusal (operation : String) : StoreError :=
  DatabaseFailure.poolClosed.toStoreError operation

/-- The operation that a request in a transaction starts with. -/
def requestName : TxRequest → String
  | .add _ => "add"
  | .claimNext => "claim_next"
  | .markProcessed _ => "mark_processed"
  | .incrementRetry _ _ => "increment_retry"
  | .savepoint => "savepoint"
  | .rollbackToSavepoint => "rollback_to_savepoint"
  | .releaseSavepoint => "release_savepoint"

/-- The operation that beginning a transaction starts with. -/
def beginName : String := "begin_transaction"

/-- Answer code in a transaction, at `now`. -/
def answerTx {ω : Type} (now : Timestamp) : (op : TxOp ω) → StateM WorkerState op.Reply
  | .request _ r => pure (.error (refusal (requestName r)))
  | .now => pure now
  | .freshId => pure (default : MessageId)
  | .tell _ => pure ()

/-- Answer code that owns transactions, at `now`. -/
def answer {ω : Type} (now : Timestamp) : (op : OutboxOp ω) → StateM WorkerState op.Reply
  | .beginTx _ => pure (.error (refusal beginName))
  | .commit _ _ => pure (.error (refusal "commit_transaction"))
  | .rollback _ _ => pure (.error (refusal "rollback"))
  | .inside _ op => answerTx now op
  | .enter state => set state
  | .stopRequested => pure false

/-- Run a program: its result, and the state that was published last, `idle` where none was. -/
def run {ω α : Type} (now : Timestamp) (p : OutboxProgram ω α) : α × WorkerState :=
  (show StateM WorkerState α from p.run (answer now)) .idle

/-- The administrative operations, each of which accesses the database first of all. -/
inductive AdminCall where
  | ensureSchema
  | stats
  | listDeadLetters
  | requeueDeadLetter
  | deleteDeadLetter
  | purgeProcessed
deriving DecidableEq, Repr

/-- The name of an administrative operation. -/
def AdminCall.name : AdminCall → String
  | .ensureSchema => "ensure_schema"
  | .stats => "stats"
  | .listDeadLetters => "list_dead_letters"
  | .requeueDeadLetter => "requeue_dead_letter"
  | .deleteDeadLetter => "delete_dead_letter"
  | .purgeProcessed => "purge_processed"

/-- How an administrative operation fails. -/
def AdminCall.failure (call : AdminCall) : StoreError :=
  refusal call.name

end MaintenanceOutbox.ClosedPool
