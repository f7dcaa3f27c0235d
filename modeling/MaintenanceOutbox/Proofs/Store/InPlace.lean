import MaintenanceOutbox.Proofs.InPlace
import MaintenanceOutbox.Proofs.Store.Session

set_option autoImplicit false

/-! # Calls on a store, written in place

The calls on a store change the tables and the transaction step by step: a lock is written down in
two places, a count and its error are written one after the other, a savepoint is taken away before
anybody looks whether it was there. Here they are written like that, as work on the two tables at
once (`TxRequest.inPlace`), where a refusal undoes nothing.

The result is that of the calls as they are defined, where a refused call returns nothing
(`TxRequest.result_inPlace`): every check stands before the writes that it guards, or the writes
before it had nothing to change.
-/

namespace MaintenanceOutbox

/-- What a request works on: the tables of a store and a transaction on it. -/
structure Workplace where
  store : Store
  tx : Tx

namespace Workplace

/-- The workplace with other changes in the transaction. -/
def onChanges (f : Changes → Changes) (w : Workplace) : Workplace :=
  { w with tx := { w.tx with changes := f w.tx.changes } }

/-- The workplace with other messages added by the transaction. -/
def onInserted (f : List QueuedMessage → List QueuedMessage) (w : Workplace) : Workplace :=
  w.onChanges fun c => { c with inserted := f c.inserted }

/-- The workplace with another savepoint. -/
def withSavepoint (c? : Option Changes) (w : Workplace) : Workplace :=
  { w with tx := { w.tx with savepoint := c? } }

end Workplace

/-- Work on a workplace. -/
abbrev WorkM := InPlace StoreError Workplace

namespace WorkM

/-- Lock a row, in the tables and then in the transaction. -/
def acquire (id : MessageId) : WorkM Unit := do
  let w ← get
  if w.tx.holds id then
    return ()
  if w.store.isLocked id then
    throw (.conflict ("message " ++ id.toText ++ " is locked by another transaction"))
  modify fun w => { w with store := w.store.lock id }
  modify fun w => { w with tx := { w.tx with locks := w.tx.locks ++ [id] } }

def add (m : QueuedMessage) : WorkM Unit := do
  let w ← get
  if w.tx.nameTaken w.store m.id then
    throw (.conflict ("message " ++ m.id.toText ++ " already exists"))
  modify (Workplace.onInserted (· ++ [m]))

def claimNext : WorkM (Option QueuedMessage) := do
  let w ← get
  match Row.first? (w.tx.claimableRows w.store), Row.first? (w.tx.claimableOwnRows w.store) with
  | none, none => return none
  | none, some own => return some own.message
  | some committed, own? =>
    match own?.filter (·.before committed) with
    | some own => return some own.message
    | none =>
      acquire committed.id
      return some committed.message

def markProcessed (now : Timestamp) (id : MessageId) : WorkM Unit := do
  let w ← get
  match w.tx.changes.inserted? id with
  | some m =>
    if m.isPending then
      modify (Workplace.onInserted (Changes.changeFirst id (·.markProcessed now)))
  | none =>
    match w.tx.committedView w.store id with
    | none => return ()
    | some m =>
      if m.isPending then
        acquire id
        modify (Workplace.onChanges (·.update (m.markProcessed now)))

/-- Write a failure into a message that the transaction added: first the count, then the error. -/
def writeFailure (id : MessageId) (error : String) : WorkM Unit := do
  modify (Workplace.onInserted
    (Changes.changeFirst id fun m => { m with retryCount := m.retryCount + 1 }))
  modify (Workplace.onInserted (Changes.changeFirst id fun m => { m with lastError := some error }))

/-- Count a failure. If the count is full, the work breaks off where it would be written. -/
def incrementRetry (now : Timestamp) (id : MessageId) (error : String) :
    WorkM (Option RetryOutcome) := do
  let error := truncateError error
  let w ← get
  match w.tx.changes.inserted? id with
  | some m =>
    if !m.isPending then
      throw (.notFound id)
    if m.countIsFull then
      return none
    writeFailure id error
    let count := m.retryCount + 1
    if isExhausted count m.maxRetries then
      let spent := { m with retryCount := count, lastError := some error }
      modify (Workplace.onInserted (Changes.dropFirst id))
      modify (Workplace.onChanges fun c =>
        { c with deadLettered := c.deadLettered ++ [⟨spent, now⟩] })
      return some (.deadLettered count)
    return some (.retrying count)
  | none =>
    match (w.tx.committedView w.store id).filter (·.isPending) with
    | none => throw (.notFound id)
    | some m =>
      acquire id
      if m.countIsFull then
        return none
      let count := m.retryCount + 1
      let failed := { m with retryCount := count, lastError := some error }
      if isExhausted count m.maxRetries then
        modify (Workplace.onChanges fun c => { c with updated := c.updated.filter (·.id ≠ id) })
        modify (Workplace.onChanges fun c =>
          { c with deadLettered := c.deadLettered ++ [⟨failed, now⟩] })
        return some (.deadLettered count)
      else
        modify (Workplace.onChanges (·.update failed))
        return some (.retrying count)

def setSavepoint : WorkM Unit := do
  let w ← get
  modify (Workplace.withSavepoint (some w.tx.changes))

def rollbackToSavepoint : WorkM Unit := do
  let w ← get
  match w.tx.savepoint with
  | none => throw Tx.noSavepoint
  | some c => modify (Workplace.onChanges fun _ => c)

/-- Forget the savepoint. It is taken away first, and then missed if it was not there. -/
def releaseSavepoint : WorkM Unit := do
  let w ← get
  modify (Workplace.withSavepoint none)
  match w.tx.savepoint with
  | none => throw Tx.noSavepoint
  | some _ => return ()

end WorkM

namespace WorkM

/-- Commit, if the transaction belongs to the store: the changes are taken out of the transaction
and written, and then the locks are freed one and all. -/
def commit (ours : Bool) : WorkM Unit := do
  if !ours then
    throw System.foreign
  let w ← get
  modify (Workplace.onChanges fun _ => {})
  modify fun v => { v with store := w.tx.changes.apply v.store }
  modify fun v => { v with store := v.store.unlock w.tx.locks, tx := { v.tx with locks := [] } }

/-- Roll back, if the transaction belongs to the store. -/
def rollback (ours : Bool) : WorkM Unit := do
  if !ours then
    throw System.foreign

end WorkM

/-- **A request as work in place.** -/
def TxRequest.inPlace (now : Timestamp) : (r : TxRequest) → WorkM (Option r.Answer)
  | .add m => some <$> WorkM.add m
  | .claimNext => some <$> WorkM.claimNext
  | .markProcessed id => some <$> WorkM.markProcessed now id
  | .incrementRetry id error => WorkM.incrementRetry now id error
  | .savepoint => some <$> WorkM.setSavepoint
  | .rollbackToSavepoint => some <$> WorkM.rollbackToSavepoint
  | .releaseSavepoint => some <$> WorkM.releaseSavepoint

/-- What a call on the workplace returns, written down there. A call that is refused returns no
tables and no transaction, so that they are as they were. One that breaks off does return them. -/
def Workplace.settle {α : Type} (w : Workplace) :
    Except StoreError (α × Store × Tx) → Except StoreError α × Workplace
  | .ok (answer, st, tx) => (.ok answer, ⟨st, tx⟩)
  | .error e => (.error e, w)

namespace Changes

/-- Two changes under a name that keep it are one. -/
theorem changeFirst_changeFirst (id : MessageId) {g : QueuedMessage → QueuedMessage}
    (keeps : ∀ m, (g m).id = m.id) (f : QueuedMessage → QueuedMessage) (ms : List QueuedMessage) :
    changeFirst id f (changeFirst id g ms) = changeFirst id (fun m => f (g m)) ms := by
  induction ms with
  | nil => rfl
  | cons m rest ih =>
      by_cases named : m.id = id
      · rw [changeFirst, if_pos named, changeFirst, if_pos ((keeps m).trans named), changeFirst,
          if_pos named]
      · rw [changeFirst, if_neg named, changeFirst, if_neg named, changeFirst, if_neg named, ih]

/-- It does not matter what was made of a message that is dropped. -/
theorem dropFirst_changeFirst (id : MessageId) {g : QueuedMessage → QueuedMessage}
    (keeps : ∀ m, (g m).id = m.id) (ms : List QueuedMessage) :
    dropFirst id (changeFirst id g ms) = dropFirst id ms := by
  induction ms with
  | nil => rfl
  | cons m rest ih =>
      by_cases named : m.id = id
      · rw [changeFirst, if_pos named, dropFirst, if_pos ((keeps m).trans named), dropFirst,
          if_pos named]
      · rw [changeFirst, if_neg named, dropFirst, if_neg named, dropFirst, if_neg named, ih]

end Changes

namespace WorkM

variable (w : Workplace)

theorem result_acquire (id : MessageId) :
    (acquire id).result w = w.settle ((w.tx.acquire w.store id).map fun p => ((), p)) := by
  rw [Tx.acquire]
  cases held : w.tx.holds id with
  | true =>
      simp only [acquire, InPlace.result_get, held]
      rfl
  | false =>
      cases locked : w.store.isLocked id with
      | true =>
          simp only [acquire, InPlace.result_get, held, locked]
          rfl
      | false =>
          simp only [acquire, InPlace.result_get, held, locked]
          rfl

theorem result_add (m : QueuedMessage) :
    (add m).result w = w.settle ((w.tx.add w.store m).map fun tx => ((), w.store, tx)) := by
  rw [Tx.add]
  cases taken : w.tx.nameTaken w.store m.id with
  | true =>
      simp only [add, InPlace.result_get, taken]
      rfl
  | false =>
      simp only [add, InPlace.result_get, taken]
      rfl

/-- What follows on a lock is done if the lock is given. -/
theorem result_acquire_bind {α : Type} (id : MessageId) (f : Unit → WorkM α) :
    (acquire id >>= f).result w =
      match w.tx.acquire w.store id with
      | .ok (st, tx) => (f ()).result ⟨st, tx⟩
      | .error e => (.error e, w) := by
  have first := result_acquire w id
  cases got : w.tx.acquire w.store id with
  | ok p =>
      rw [got] at first
      exact InPlace.result_bind_ok first f
  | error e =>
      rw [got] at first
      exact InPlace.result_bind_error first f

theorem result_claimNext : claimNext.result w = w.settle (w.tx.claimNext w.store) := by
  rw [Tx.claimNext, claimNext, InPlace.result_get]
  cases Row.first? (w.tx.claimableRows w.store) with
  | none => cases Row.first? (w.tx.claimableOwnRows w.store) <;> rfl
  | some committed =>
      dsimp only
      cases (Row.first? (w.tx.claimableOwnRows w.store)).filter (·.before committed) with
      | some own => rfl
      | none =>
          refine (result_acquire_bind w committed.id _).trans ?_
          cases w.tx.acquire w.store committed.id <;> rfl

theorem result_markProcessed (now : Timestamp) (id : MessageId) :
    (markProcessed now id).result w =
      w.settle ((w.tx.markProcessed w.store now id).map fun p => ((), p.1, p.2)) := by
  rw [Tx.markProcessed, markProcessed, InPlace.result_get]
  cases w.tx.changes.inserted? id with
  | some m =>
      dsimp only
      cases m.isPending <;> rfl
  | none =>
      dsimp only
      cases w.tx.committedView w.store id with
      | none => rfl
      | some m =>
          dsimp only
          cases m.isPending with
          | false => rfl
          | true =>
              refine (result_acquire_bind w id _).trans ?_
              cases w.tx.acquire w.store id <;> rfl

theorem result_writeFailure (id : MessageId) (error : String) :
    (writeFailure id (truncateError error)).result w =
      (.ok (), w.onInserted (Changes.changeFirst id (·.afterFailure error))) := by
  have both := Changes.changeFirst_changeFirst id
    (g := fun m => { m with retryCount := m.retryCount + 1 }) (fun _ => rfl)
    (fun m => { m with lastError := some (truncateError error) }) w.tx.changes.inserted
  rw [writeFailure, InPlace.result_modify]
  exact congrArg (fun ms => (Except.ok (), w.onInserted fun _ => ms)) both

theorem result_incrementRetry (now : Timestamp) (id : MessageId) (error : String) :
    (incrementRetry now id error).result w =
      w.settle (w.tx.incrementRetry w.store now id error) := by
  rw [Tx.incrementRetry, incrementRetry, InPlace.result_get]
  cases own : w.tx.changes.inserted? id with
  | some m =>
      dsimp only
      cases m.isPending with
      | false => rfl
      | true =>
          show InPlace.result (if m.countIsFull then _ else _) _ =
            w.settle (if m.countIsFull then _ else _)
          cases m.countIsFull with
          | true => rfl
          | false =>
              refine (InPlace.result_bind_ok (result_writeFailure w id error) _).trans ?_
              have gone := Changes.dropFirst_changeFirst id (g := (·.afterFailure error))
                (fun _ => rfl) w.tx.changes.inserted
              show InPlace.result (if isExhausted (m.retryCount + 1) m.maxRetries then _ else _) _ =
                w.settle (if isExhausted (m.retryCount + 1) m.maxRetries then _ else _)
              cases isExhausted (m.retryCount + 1) m.maxRetries with
              | false => rfl
              | true =>
                  exact congrArg (fun ms => ((Except.ok (some (.deadLettered (m.retryCount + 1))),
                    (w.onInserted fun _ => ms).onChanges fun c => { c with
                      deadLettered := c.deadLettered ++ [⟨m.afterFailure error, now⟩] }) :
                        Except StoreError (Option RetryOutcome) × Workplace)) gone
  | none =>
      dsimp only
      cases seen : (w.tx.committedView w.store id).filter (·.isPending) with
      | none => rfl
      | some m =>
          have name : m.id = id := Tx.id_of_committedView (Option.filter_eq_some_iff.mp seen).1
          subst name
          refine (result_acquire_bind w m.id _).trans ?_
          cases w.tx.acquire w.store m.id with
          | error e => rfl
          | ok p =>
              show InPlace.result (if m.countIsFull then _ else _) _ =
                w.settle (if m.countIsFull then _ else _)
              cases m.countIsFull with
              | true => rfl
              | false =>
                  show InPlace.result
                      (if isExhausted (m.retryCount + 1) m.maxRetries then _ else _) _ =
                    w.settle (if isExhausted (m.retryCount + 1) m.maxRetries then _ else _)
                  cases isExhausted (m.retryCount + 1) m.maxRetries <;> rfl

theorem result_setSavepoint :
    setSavepoint.result w = w.settle (.ok ((), w.store, w.tx.setSavepoint)) := rfl

theorem result_rollbackToSavepoint : rollbackToSavepoint.result w =
    w.settle (w.tx.rollbackToSavepoint.map fun tx => ((), w.store, tx)) := by
  obtain ⟨st, ⟨changes, savepoint, locks⟩⟩ := w
  cases savepoint <;> rfl

/-- A savepoint that is not there can be taken away. -/
theorem result_releaseSavepoint : releaseSavepoint.result w =
    w.settle (w.tx.releaseSavepoint.map fun tx => ((), w.store, tx)) := by
  obtain ⟨st, ⟨changes, savepoint, locks⟩⟩ := w
  cases savepoint <;> rfl

end WorkM

/-- Work that does not break off has an answer if it is not refused. -/
theorem WorkM.result_some {α : Type} {p : WorkM α} {w : Workplace}
    {x : Except StoreError (α × Store × Tx)} (done : p.result w = w.settle x) :
    (some <$> p).result w = w.settle (x.map fun q => (some q.1, q.2)) := by
  rw [InPlace.result_map, done]
  cases x <;> rfl

/-- **A request in place is all or nothing**: it does what the request does, or is refused and
leaves the tables and the transaction as they were. -/
theorem TxRequest.result_inPlace (w : Workplace) (now : Timestamp) (r : TxRequest) :
    (r.inPlace now).result w = w.settle (w.tx.request w.store now r) := by
  cases r with
  | add m =>
      refine (WorkM.result_some (WorkM.result_add w m)).trans ?_
      rw [Tx.request]
      cases w.tx.add w.store m <;> rfl
  | claimNext => exact WorkM.result_some (WorkM.result_claimNext w)
  | markProcessed id =>
      refine (WorkM.result_some (WorkM.result_markProcessed w now id)).trans ?_
      rw [Tx.request]
      cases w.tx.markProcessed w.store now id <;> rfl
  | incrementRetry id error => exact WorkM.result_incrementRetry w now id error
  | savepoint => exact WorkM.result_some (WorkM.result_setSavepoint w)
  | rollbackToSavepoint =>
      refine (WorkM.result_some (WorkM.result_rollbackToSavepoint w)).trans ?_
      rw [Tx.request]
      cases w.tx.rollbackToSavepoint <;> rfl
  | releaseSavepoint =>
      refine (WorkM.result_some (WorkM.result_releaseSavepoint w)).trans ?_
      rw [Tx.request]
      cases w.tx.releaseSavepoint <;> rfl

/-! ## Dead letters -/

namespace Store

/-- Put a dead letter back into the queue. It is taken away first, and then missed if it was not
there. -/
def requeueInPlace (id : MessageId) : InPlace StoreError Store QueuedMessage := do
  let st ← get
  modify fun st => { st with deadLetters := st.deadLetters.filter (·.id ≠ id) }
  match st.deadLetter? id with
  | none => throw (.notFound id)
  | some d =>
    modify (·.pushRow d.requeued)
    return d.requeued

/-- Delete a dead letter. It is taken away first, and then missed if it was not there. -/
def deleteInPlace (id : MessageId) : InPlace StoreError Store Unit := do
  let st ← get
  modify fun st => { st with deadLetters := st.deadLetters.filter (·.id ≠ id) }
  match st.deadLetter? id with
  | none => throw (.notFound id)
  | some _ => return ()

variable {st : Store} {id : MessageId}

/-- A dead letter that is not there can be taken away. -/
theorem filter_deadLetters_of_none (missing : st.deadLetter? id = none) :
    { st with deadLetters := st.deadLetters.filter (·.id ≠ id) } = st := by
  have all : st.deadLetters.filter (·.id ≠ id) = st.deadLetters :=
    List.filter_eq_self.mpr fun d hd => decide_eq_true fun same =>
      deadLetter?_eq_none_iff.mp missing (same ▸ List.mem_map_of_mem hd)
  rw [all]

theorem result_requeueInPlace (st : Store) (id : MessageId) :
    (requeueInPlace id).result st =
      match st.requeue id with
      | .ok (m, st') => (.ok m, st')
      | .error e => (.error e, st) := by
  rw [requeueInPlace, InPlace.result_get, InPlace.result_modify, requeue]
  cases found : st.deadLetter? id with
  | some d => rfl
  | none =>
      rw [filter_deadLetters_of_none found]
      rfl

theorem result_deleteInPlace (st : Store) (id : MessageId) :
    (deleteInPlace id).result st =
      match st.deleteDeadLetter id with
      | .ok st' => (.ok (), st')
      | .error e => (.error e, st) := by
  rw [deleteInPlace, InPlace.result_get, InPlace.result_modify, deleteDeadLetter]
  cases found : st.deadLetter? id with
  | some d => rfl
  | none =>
      rw [filter_deadLetters_of_none found]
      rfl

end Store

/-! ## The system -/

namespace System

/-- **A request, made in place.** The store looks whether the transaction is its own, and then
whatever comes of the work is what the system has. -/
def requestInPlace (s : System) (now : Timestamp) (i : StoreId) (h : TxHandle) (r : TxRequest) :
    Except StoreError (Option r.Answer) × System :=
  match s.open? h with
  | none => (.error closed, s)
  | some t =>
    if t.home = i then
      let (answer, w) := (r.inPlace now).result ⟨s.store i, t.tx⟩
      (answer, s.put t w.store w.tx)
    else (.error foreign, s)

/-- **The end of a transaction, made in place.** The transaction is handed over, so that it is
dropped whatever comes of it, and then gives back the locks that it still has. -/
def endInPlace (s : System) (i : StoreId) (h : TxHandle) (finish : Bool → WorkM Unit) :
    Except StoreError Unit × System :=
  match s.open? h with
  | none => (.error closed, s)
  | some t =>
    let (answer, w) := (finish (t.home = i)).result ⟨s.store t.home, t.tx⟩
    (answer, s.close t (w.tx.release w.store))

/-- A call of an operator, made in place. -/
def adminInPlace {α : Type} (s : System) (i : StoreId) (p : InPlace StoreError Store α) :
    Except StoreError α × System :=
  let (answer, st) := p.result (s.store i)
  (answer, s.setStore i st)

variable {s : System}

theorem requestInPlace_eq (distinct : s.Distinct) (now : Timestamp) (i : StoreId) (h : TxHandle)
    (r : TxRequest) : s.requestInPlace now i h r = s.request now i h r := by
  rw [requestInPlace, request]
  cases opened : s.open? h with
  | none => rfl
  | some t =>
      dsimp only
      by_cases home : t.home = i
      · rw [if_pos home, if_pos home, TxRequest.result_inPlace]
        cases t.tx.request (s.store i) now r with
        | ok p => rfl
        | error e =>
            subst home
            exact congrArg (Prod.mk _) (put_self (distinct.sole (mem_of_open? opened)))
      · rw [if_neg home, if_neg home]

theorem commitInPlace_eq (s : System) (i : StoreId) (h : TxHandle) :
    s.endInPlace i h WorkM.commit = s.commit i h := by
  rw [endInPlace, commit, drop]
  cases opened : s.open? h with
  | none => rfl
  | some t =>
      dsimp only
      by_cases home : t.home = i
      · subst home
        have nothing : ∀ st : Store, st.unlock [] = st := by
          intro st
          have all : st.locked.filter (· ∉ ([] : List MessageId)) = st.locked :=
            List.filter_eq_self.mpr fun _ _ => decide_eq_true List.not_mem_nil
          rw [Store.unlock, all]
        rw [if_pos rfl, decide_eq_true rfl]
        exact congrArg (fun st => (Except.ok (), s.close t st)) (nothing _)
      · rw [if_neg home, decide_eq_false home]
        rfl

theorem rollbackInPlace_eq (s : System) (i : StoreId) (h : TxHandle) :
    s.endInPlace i h WorkM.rollback = s.rollback i h := by
  rw [endInPlace, rollback, drop]
  cases opened : s.open? h with
  | none => rfl
  | some t =>
      dsimp only
      by_cases home : t.home = i
      · rw [if_pos home, decide_eq_true home]
        rfl
      · rw [if_neg home, decide_eq_false home]
        rfl

theorem requeueInPlace_eq (s : System) (i : StoreId) (id : MessageId) :
    s.adminInPlace i (Store.requeueInPlace id) = s.requeue i id := by
  rw [adminInPlace, requeue, Store.result_requeueInPlace]
  cases (s.store i).requeue id with
  | ok p => rfl
  | error e => exact congrArg (Prod.mk _) (setStore_store s i)

theorem deleteInPlace_eq (s : System) (i : StoreId) (id : MessageId) :
    s.adminInPlace i (Store.deleteInPlace id) = s.deleteDeadLetter i id := by
  rw [adminInPlace, deleteDeadLetter, Store.result_deleteInPlace]
  cases (s.store i).deleteDeadLetter id with
  | ok p => rfl
  | error e => exact congrArg (Prod.mk _) (setStore_store s i)

end System

end MaintenanceOutbox
