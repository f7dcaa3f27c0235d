import MaintenanceOutbox.Store.Transaction

set_option autoImplicit false

/-! # Stores with their open transactions

A `System` is some stores together with all transactions that are open on them. Transactions are
known by handles, which are numbered in the order of their beginning and never used again. Every
call names the store it is made on and the handle of a transaction; a transaction of another store
is refused.

**A system moves by single calls.** Whoever works on it, workers, commands and operators alike,
does so through the functions here, one at a time, so that a run of a system, with its calls
interleaved in any way, is a list of calls.

The end of a transaction is always its end: a commit or a rollback on the wrong store is refused
there, and the transaction is abandoned in its own.

**A request may break off**, without an answer and without a refusal (`Tx.incrementRetry`). Whoever
made it does not go on, and drops the transaction. The drop is a call of its own, as others may get
in between.
-/

namespace MaintenanceOutbox

/-- A store of a system. -/
structure StoreId where
  index : Nat
deriving DecidableEq, Inhabited

/-- An open transaction, or one that was open once. -/
structure TxHandle where
  number : Nat
deriving DecidableEq, Inhabited

/-- What can be asked for inside a transaction. -/
inductive TxRequest where
  | add (message : QueuedMessage)
  | claimNext
  | markProcessed (id : MessageId)
  | incrementRetry (id : MessageId) (error : String)
  | savepoint
  | rollbackToSavepoint
  | releaseSavepoint

/-- What is answered to a request that is granted. -/
def TxRequest.Answer : TxRequest → Type
  | .add _ => Unit
  | .claimNext => Option QueuedMessage
  | .markProcessed _ => Unit
  | .incrementRetry _ _ => RetryOutcome
  | .savepoint => Unit
  | .rollbackToSavepoint => Unit
  | .releaseSavepoint => Unit

/-- **One request inside a transaction**: its answer, which is missing if it breaks off, and the
tables and the transaction after it. -/
def Tx.request (tx : Tx) (st : Store) (now : Timestamp) :
    (r : TxRequest) → Except StoreError (Option r.Answer × Store × Tx)
  | .add m => (tx.add st m).map fun tx => (some (), st, tx)
  | .claimNext => (tx.claimNext st).map fun p => (some p.1, p.2)
  | .markProcessed id => (tx.markProcessed st now id).map fun p => (some (), p.1, p.2)
  | .incrementRetry id error => tx.incrementRetry st now id error
  | .savepoint => .ok (some (), st, tx.setSavepoint)
  | .rollbackToSavepoint => tx.rollbackToSavepoint.map fun tx => (some (), st, tx)
  | .releaseSavepoint => tx.releaseSavepoint.map fun tx => (some (), st, tx)

/-- A transaction in the table of open ones. -/
structure OpenTx where
  handle : TxHandle
  /-- the store that the transaction belongs to -/
  home : StoreId
  tx : Tx

/-- Stores and the transactions that are open on them. -/
structure System where
  stores : List Store
  transactions : List OpenTx := []
  /-- how many transactions were begun so far -/
  begun : Nat := 0

namespace System

/-- A system of `n` empty stores. -/
def ofSize (n : Nat) : System :=
  { stores := List.replicate n {} }

/-- The tables of a store. -/
def store (s : System) (i : StoreId) : Store :=
  s.stores.getD i.index {}

/-- The system with other tables in one store. -/
def setStore (s : System) (i : StoreId) (st : Store) : System :=
  { s with stores := s.stores.set i.index st }

/-- The open transaction behind a handle. -/
def open? (s : System) (h : TxHandle) : Option OpenTx :=
  s.transactions.find? (·.handle = h)

/-- The refusal of a call on a transaction of another store. -/
def foreign : StoreError :=
  .conflict "transaction belongs to a different store"

/-- The refusal of a call on a transaction that is not open. -/
def closed : StoreError :=
  .conflict "transaction is closed"

/-- Begin a transaction on a store. -/
def beginTx (s : System) (i : StoreId) : TxHandle × System :=
  let h : TxHandle := ⟨s.begun⟩
  (h, { s with transactions := s.transactions ++ [⟨h, i, {}⟩], begun := s.begun + 1 })

/-- The system without a transaction, the tables of whose home are `st`. -/
def close (s : System) (t : OpenTx) (st : Store) : System :=
  { s.setStore t.home st with
    transactions := s.transactions.filter (·.handle ≠ t.handle) }

/-- Abandon a transaction. -/
def drop (s : System) (h : TxHandle) : System :=
  match s.open? h with
  | none => s
  | some t => s.close t (t.tx.release (s.store t.home))

/-- Commit a transaction on store `i`. -/
def commit (s : System) (i : StoreId) (h : TxHandle) : Except StoreError Unit × System :=
  match s.open? h with
  | none => (.error closed, s)
  | some t =>
    if t.home = i then (.ok (), s.close t (t.tx.commit (s.store i)))
    else (.error foreign, s.drop h)

/-- Roll a transaction back on store `i`. -/
def rollback (s : System) (i : StoreId) (h : TxHandle) : Except StoreError Unit × System :=
  match s.open? h with
  | none => (.error closed, s)
  | some t => (if t.home = i then .ok () else .error foreign, s.drop h)

/-- The system with another state of a transaction and of its home. -/
def put (s : System) (t : OpenTx) (st : Store) (tx : Tx) : System :=
  { s.setStore t.home st with
    transactions := s.transactions.map fun u =>
      if u.handle = t.handle then { u with tx := tx } else u }

/-- **A request on store `i` inside a transaction.** If it is refused, nothing has changed. If it
breaks off, there is no answer. -/
def request (s : System) (now : Timestamp) (i : StoreId) (h : TxHandle) (r : TxRequest) :
    Except StoreError (Option r.Answer) × System :=
  match s.open? h with
  | none => (.error closed, s)
  | some t =>
    if t.home = i then
      match t.tx.request (s.store i) now r with
      | .error e => (.error e, s)
      | .ok (answer, st, tx) => (.ok answer, s.put t st tx)
    else (.error foreign, s)

/-! ## Administration -/

/-- Put a dead letter of store `i` back into the queue. -/
def requeue (s : System) (i : StoreId) (id : MessageId) :
    Except StoreError QueuedMessage × System :=
  match (s.store i).requeue id with
  | .error e => (.error e, s)
  | .ok (m, st) => (.ok m, s.setStore i st)

/-- Delete a dead letter of store `i`. -/
def deleteDeadLetter (s : System) (i : StoreId) (id : MessageId) :
    Except StoreError Unit × System :=
  match (s.store i).deleteDeadLetter id with
  | .error e => (.error e, s)
  | .ok st => (.ok (), s.setStore i st)

/-- Delete the rows of store `i` that were delivered before `cutoff`, and count them. -/
def purge (s : System) (i : StoreId) (cutoff : Timestamp) : Nat × System :=
  let (n, st) := (s.store i).purge cutoff
  (n, s.setStore i st)

end System

end MaintenanceOutbox
