import MaintenanceOutbox.Store.Interface

set_option autoImplicit false

/-! # Faults

A simulation can make calls to a store fail. A fault is set on one kind of call of one store; it
lets some calls pass, makes the next ones fail and is used up then. A call that fails this way does
not reach the store.

When a call is made, the faults on it are asked in the order in which they were set, until one of
them strikes. Each fault that is asked counts the call.
-/

namespace MaintenanceOutbox

/-- The kinds of calls to a store. -/
inductive CallKind where
  | beginTx
  | commit
  | rollback
  | savepoint
  | rollbackToSavepoint
  | releaseSavepoint
  | add
  | claimNext
  | markProcessed
  | incrementRetry
deriving DecidableEq, Repr

namespace CallKind

/-- The name of a kind of call. -/
def name : CallKind → String
  | .beginTx => "begin"
  | .commit => "commit"
  | .rollback => "rollback"
  | .savepoint => "savepoint"
  | .rollbackToSavepoint => "rollback_to_savepoint"
  | .releaseSavepoint => "release_savepoint"
  | .add => "add"
  | .claimNext => "claim_next"
  | .markProcessed => "mark_processed"
  | .incrementRetry => "increment_retry"

/-- All kinds of calls. -/
def all : List CallKind :=
  [.beginTx, .commit, .rollback, .savepoint, .rollbackToSavepoint, .releaseSavepoint, .add,
    .claimNext, .markProcessed, .incrementRetry]

/-- The kind of call with a given name. -/
def ofName? (s : String) : Option CallKind :=
  all.find? fun k => k.name = s

/-- The kind of call that a request is. -/
def ofRequest : TxRequest → CallKind
  | .add _ => .add
  | .claimNext => .claimNext
  | .markProcessed _ => .markProcessed
  | .incrementRetry _ _ => .incrementRetry
  | .savepoint => .savepoint
  | .rollbackToSavepoint => .rollbackToSavepoint
  | .releaseSavepoint => .releaseSavepoint

end CallKind

/-- A fault. -/
structure Fault where
  store : StoreId
  call : CallKind
  error : StoreError
  /-- calls that still pass -/
  skip : Nat
  /-- calls that fail after those -/
  times : Nat

namespace Fault

/-- Is the fault on this kind of call of this store? -/
def concerns (f : Fault) (store : StoreId) (call : CallKind) : Bool :=
  decide (f.store = store ∧ f.call = call)

/-- Ask the faults on a call: the error of the one that strikes, and the faults after it. -/
def ask (store : StoreId) (call : CallKind) : List Fault → Option StoreError × List Fault
  | [] => (none, [])
  | f :: rest =>
    if !f.concerns store call then
      let (error, rest) := ask store call rest
      (error, f :: rest)
    else if 0 < f.skip then
      let (error, rest) := ask store call rest
      (error, { f with skip := f.skip - 1 } :: rest)
    else if 0 < f.times then (some f.error, { f with times := f.times - 1 } :: rest)
    else
      let (error, rest) := ask store call rest
      (error, f :: rest)

end Fault

end MaintenanceOutbox
