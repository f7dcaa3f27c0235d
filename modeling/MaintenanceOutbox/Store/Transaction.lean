import MaintenanceOutbox.Store.Tables

set_option autoImplicit false

/-! # Transactions on a store

An open transaction buffers its writes. What it sees is the committed tables with its own writes on
top, and commit puts the writes into the tables, all at once.

**Rows are locked by whoever writes them.** Claiming a committed row, marking it or counting a
failure on it locks it, and the lock is held until the transaction ends, also across a rollback to
the savepoint. A claim passes over the rows that others have locked; the other two calls are refused
there. The messages that the transaction itself added need no locks, nobody else sees them.

Every call either refuses, and then nothing has changed, or gives the tables and the transaction as
they are afterwards.

**A full count cannot grow.** Counting a failure on a message whose count is the largest one is
neither refused nor done: the call breaks off, with the row locked and nothing written, and there is
no answer to go on with.
-/

namespace MaintenanceOutbox

/-- The writes of a transaction that are not committed yet. -/
structure Changes where
  /-- new messages, in the order in which they were added -/
  inserted : List QueuedMessage := []
  /-- committed messages as the transaction changed them -/
  updated : List QueuedMessage := []
  /-- messages that the transaction made dead letters -/
  deadLettered : List DeadLetter := []

/-- An open transaction. -/
structure Tx where
  changes : Changes := {}
  /-- the writes at the savepoint, if there is one -/
  savepoint : Option Changes := none
  /-- the rows that the transaction has locked -/
  locks : List MessageId := []

namespace Changes

/-- Did the transaction make the message a dead letter? -/
def isDeadLettered (c : Changes) (id : MessageId) : Bool :=
  c.deadLettered.any (·.id = id)

/-- The message that the transaction added under a name. -/
def inserted? (c : Changes) (id : MessageId) : Option QueuedMessage :=
  c.inserted.find? (·.id = id)

/-- The committed message as the transaction changed it, if it did. -/
def updated? (c : Changes) (id : MessageId) : Option QueuedMessage :=
  c.updated.find? (·.id = id)

/-- Change the first message that was added under a name. -/
def changeFirst (id : MessageId) (f : QueuedMessage → QueuedMessage) :
    List QueuedMessage → List QueuedMessage
  | [] => []
  | m :: rest => if m.id = id then f m :: rest else m :: changeFirst id f rest

/-- Drop the first message that was added under a name. -/
def dropFirst (id : MessageId) : List QueuedMessage → List QueuedMessage
  | [] => []
  | m :: rest => if m.id = id then rest else m :: dropFirst id rest

/-- Record a committed message as changed. -/
def update (c : Changes) (m : QueuedMessage) : Changes :=
  { c with updated := c.updated.filter (·.id ≠ m.id) ++ [m] }

/-- Record a committed message as made a dead letter. -/
def bury (c : Changes) (d : DeadLetter) : Changes :=
  { c with
    updated := c.updated.filter (·.id ≠ d.id)
    deadLettered := c.deadLettered ++ [d] }

/-- Put the writes into the tables: first the changed rows, then the new ones, then the dead
letters. -/
def apply (c : Changes) (st : Store) : Store :=
  c.deadLettered.foldl Store.bury (c.inserted.foldl Store.pushRow
    (c.updated.foldl Store.updateRow st))

end Changes

namespace Tx

/-! ## What a transaction sees -/

/-- The committed message under a name, as the transaction sees it. -/
def committedView (tx : Tx) (st : Store) (id : MessageId) : Option QueuedMessage :=
  if tx.changes.isDeadLettered id then none
  else (tx.changes.updated? id).or (st.message? id)

/-- The committed rows as the transaction sees them. -/
def committedRows (tx : Tx) (st : Store) : List Row :=
  st.rows.filterMap fun r => (tx.committedView st r.id).map fun m => ⟨r.seq, m⟩

/-- The messages that the transaction added, as rows behind all committed ones. -/
def ownRows (tx : Tx) (st : Store) : List Row :=
  tx.changes.inserted.mapIdx fun i m => ⟨st.nextSeq + i, m⟩

/-- Does the transaction hold the lock of a row? -/
def holds (tx : Tx) (id : MessageId) : Bool :=
  decide (id ∈ tx.locks)

/-- Is the row locked by another transaction? -/
def lockedElsewhere (tx : Tx) (st : Store) (id : MessageId) : Bool :=
  st.isLocked id && !tx.holds id

/-! ## Locks -/

/-- Lock a row, if the transaction does not hold it already. -/
def acquire (tx : Tx) (st : Store) (id : MessageId) : Except StoreError (Store × Tx) :=
  if tx.holds id then .ok (st, tx)
  else if st.isLocked id then
    .error (.conflict ("message " ++ id.toText ++ " is locked by another transaction"))
  else .ok (st.lock id, { tx with locks := tx.locks ++ [id] })

/-! ## The end of a transaction -/

/-- Commit: put the writes into the tables and free the locks. -/
def commit (tx : Tx) (st : Store) : Store :=
  (tx.changes.apply st).unlock tx.locks

/-- Abandon the transaction: free the locks and write nothing. -/
def release (tx : Tx) (st : Store) : Store :=
  st.unlock tx.locks

/-! ## Savepoints -/

/-- Set the savepoint here; an earlier one is forgotten. -/
def setSavepoint (tx : Tx) : Tx :=
  { tx with savepoint := some tx.changes }

/-- The refusal of a call that needs a savepoint. -/
def noSavepoint : StoreError :=
  .conflict "no active savepoint"

/-- Undo the writes since the savepoint, which stays. Locks stay too. -/
def rollbackToSavepoint (tx : Tx) : Except StoreError Tx :=
  match tx.savepoint with
  | none => .error noSavepoint
  | some changes => .ok { tx with changes := changes }

/-- Forget the savepoint. -/
def releaseSavepoint (tx : Tx) : Except StoreError Tx :=
  match tx.savepoint with
  | none => .error noSavepoint
  | some _ => .ok { tx with savepoint := none }

/-! ## Writes -/

/-- Is the name in use, by a committed message or by one that the transaction added? -/
def nameTaken (tx : Tx) (st : Store) (id : MessageId) : Bool :=
  (st.row? id).isSome || (st.deadLetter? id).isSome || (tx.changes.inserted? id).isSome

/-- Add a message. -/
def add (tx : Tx) (st : Store) (m : QueuedMessage) : Except StoreError Tx :=
  if tx.nameTaken st m.id then
    .error (.conflict ("message " ++ m.id.toText ++ " already exists"))
  else .ok { tx with changes := { tx.changes with inserted := tx.changes.inserted ++ [m] } }

/-- The rows that the transaction may claim: claimable messages, less the rows that others have
locked. -/
def claimableRows (tx : Tx) (st : Store) : List Row :=
  (tx.committedRows st).filter fun r =>
    r.message.isClaimable && !tx.lockedElsewhere st r.id

/-- The messages of its own that the transaction may claim. -/
def claimableOwnRows (tx : Tx) (st : Store) : List Row :=
  (tx.ownRows st).filter (·.message.isClaimable)

/-- **Claim the message that is next in the order of delivery.** A committed row is locked by that;
a message that the transaction added itself needs no lock. -/
def claimNext (tx : Tx) (st : Store) : Except StoreError (Option QueuedMessage × Store × Tx) :=
  match Row.first? (tx.claimableRows st), Row.first? (tx.claimableOwnRows st) with
  | none, none => .ok (none, st, tx)
  | none, some own => .ok (some own.message, st, tx)
  | some committed, own? =>
    match own?.filter (·.before committed) with
    | some own => .ok (some own.message, st, tx)
    | none => do
      let (st, tx) ← tx.acquire st committed.id
      pure (some committed.message, st, tx)

/-- Mark a message as delivered at `now`. Nothing happens if it is delivered already or is not
there: a delivery may be confirmed twice. -/
def markProcessed (tx : Tx) (st : Store) (now : Timestamp) (id : MessageId) :
    Except StoreError (Store × Tx) :=
  match tx.changes.inserted? id with
  | some m =>
    if m.isPending then
      .ok (st, { tx with changes := { tx.changes with
        inserted := Changes.changeFirst id (·.markProcessed now) tx.changes.inserted } })
    else .ok (st, tx)
  | none =>
    match tx.committedView st id with
    | none => .ok (st, tx)
    | some m =>
      if m.isPending then do
        let (st, tx) ← tx.acquire st id
        pure (st, { tx with changes := tx.changes.update (m.markProcessed now) })
      else .ok (st, tx)

/-- **Count a failed attempt.** With that the message waits for its next attempt, or it has used up
its attempts and is a dead letter from `now` on. There is no outcome where the count is full. -/
def incrementRetry (tx : Tx) (st : Store) (now : Timestamp) (id : MessageId) (error : String) :
    Except StoreError (Option RetryOutcome × Store × Tx) :=
  match tx.changes.inserted? id with
  | some m =>
    if !m.isPending then .error (.notFound id)
    else if m.countIsFull then .ok (none, st, tx)
    else
      let failed := m.afterFailure error
      if isExhausted failed.retryCount failed.maxRetries then
        .ok (some (.deadLettered failed.retryCount), st, { tx with changes := { tx.changes with
          inserted := Changes.dropFirst id tx.changes.inserted
          deadLettered := tx.changes.deadLettered ++ [⟨failed, now⟩] } })
      else
        .ok (some (.retrying failed.retryCount), st, { tx with changes := { tx.changes with
          inserted := Changes.changeFirst id (·.afterFailure error) tx.changes.inserted } })
  | none =>
    match (tx.committedView st id).filter (·.isPending) with
    | none => .error (.notFound id)
    | some m => do
      let (st, tx) ← tx.acquire st id
      if m.countIsFull then pure (none, st, tx)
      else
        let failed := m.afterFailure error
        if isExhausted failed.retryCount failed.maxRetries then
          pure (some (.deadLettered failed.retryCount), st,
            { tx with changes := tx.changes.bury ⟨failed, now⟩ })
        else
          pure (some (.retrying failed.retryCount), st,
            { tx with changes := tx.changes.update failed })

end Tx

end MaintenanceOutbox
