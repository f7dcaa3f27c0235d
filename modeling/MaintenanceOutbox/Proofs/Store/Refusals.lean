import MaintenanceOutbox.Proofs.Store.InPlace
import MaintenanceOutbox.Proofs.Store.Ownership

set_option autoImplicit false

/-! # A refused call changes nothing

`Tx.Refuses` says when the store refuses a request inside a transaction, and with which failure, and
`System.Refuses` adds the two reasons why a request does not get that far: the transaction is not
open, or it belongs to another store. A claim is never refused by its own store, and neither is a
savepoint.

A request that is refused leaves the whole system as it was, also if it is made in place
(`System.RefusesCleanly`). The end of a transaction is the exception: it ends the transaction even
if it is refused, by the wrong store. What then happens is a rollback in its own store
(`System.Abandons`).
-/

namespace MaintenanceOutbox

namespace Tx

/-- The refusal of a lock that another transaction has. -/
def lockedByOther (id : MessageId) : StoreError :=
  .conflict ("message " ++ id.toText ++ " is locked by another transaction")

/-- A committed message waits for delivery, and its row is locked by another transaction. -/
structure Blocked (tx : Tx) (st : Store) (id : MessageId) : Prop where
  notOwn : tx.changes.inserted? id = none
  pending : ∃ m, tx.committedView st id = some m ∧ m.isPending = true
  elsewhere : tx.lockedElsewhere st id = true

/-- The transaction sees no message under the name: it added none, and no row has it, or only one
that the transaction made a dead letter. -/
structure Missing (tx : Tx) (st : Store) (id : MessageId) : Prop where
  notOwn : id ∉ tx.changes.inserted.map (·.id)
  noRow : id ∈ tx.changes.deadLettered.map (·.id) ∨
    id ∉ tx.changes.updated.map (·.id) ∧ st.row? id = none

/-- **Why a request is refused**, and with which failure. -/
inductive Refuses (tx : Tx) (st : Store) : TxRequest → StoreError → Prop where
  /-- the name is in use, by a row, by a dead letter or by a message that was added already -/
  | duplicate (m : QueuedMessage)
      (taken : ¬ st.Unused m.id ∨ m.id ∈ tx.changes.inserted.map (·.id)) :
      Refuses tx st (.add m) (.conflict ("message " ++ m.id.toText ++ " already exists"))
  | markBlocked (id : MessageId) (blocked : tx.Blocked st id) :
      Refuses tx st (.markProcessed id) (lockedByOther id)
  | countBlocked (id : MessageId) (error : String) (blocked : tx.Blocked st id) :
      Refuses tx st (.incrementRetry id error) (lockedByOther id)
  /-- the message is unknown, or a dead letter -/
  | countMissing (id : MessageId) (error : String) (missing : tx.Missing st id) :
      Refuses tx st (.incrementRetry id error) (.notFound id)
  | countDelivered (id : MessageId) (error : String) (m : QueuedMessage)
      (seen : tx.sees? st id = some m) (delivered : m.isPending = false) :
      Refuses tx st (.incrementRetry id error) (.notFound id)
  | returns (nowhere : tx.savepoint = none) : Refuses tx st .rollbackToSavepoint noSavepoint
  | releases (nothing : tx.savepoint = none) : Refuses tx st .releaseSavepoint noSavepoint

variable {tx : Tx} {st : Store} {id : MessageId} {e : StoreError}

theorem acquire_eq_error_iff :
    tx.acquire st id = .error e ↔ tx.lockedElsewhere st id = true ∧ e = lockedByOther id := by
  rw [acquire, lockedElsewhere, lockedByOther]
  cases tx.holds id <;> cases st.isLocked id <;> simp [eq_comm]

theorem add_eq_error_iff {m : QueuedMessage} :
    tx.add st m = .error e ↔ tx.nameTaken st m.id = true ∧
      e = .conflict ("message " ++ m.id.toText ++ " already exists") := by
  rw [add]
  cases tx.nameTaken st m.id <;> simp [eq_comm]

theorem nameTaken_iff : tx.nameTaken st id = true ↔
    ¬ st.Unused id ∨ id ∈ tx.changes.inserted.map (·.id) := by
  rw [← not_iff_not, Bool.not_eq_true, nameTaken_eq_false_iff, Changes.inserted?_eq_none_iff,
    not_or, not_not, Store.Unused]

theorem sees?_eq_none_iff : tx.sees? st id = none ↔ tx.Missing st id := by
  have noView : tx.committedView st id = none ↔ id ∈ tx.changes.deadLettered.map (·.id) ∨
      id ∉ tx.changes.updated.map (·.id) ∧ st.row? id = none := by
    rw [committedView]
    by_cases dead : id ∈ tx.changes.deadLettered.map (·.id)
    · simp only [Changes.isDeadLettered_iff.mpr dead, dead, if_true, true_or]
    · rw [if_neg (mt Changes.isDeadLettered_iff.mp dead), Option.or_eq_none_iff,
        Changes.updated?_eq_none_iff, Store.message?, Option.map_eq_none_iff]
      exact (or_iff_right dead).symm
  rw [sees?, Option.or_eq_none_iff, Changes.inserted?_eq_none_iff, noView]
  exact ⟨fun both => ⟨both.1, both.2⟩, fun missing => ⟨missing.notOwn, missing.noRow⟩⟩

/-- **What a name can be to a transaction**: nothing that waits for delivery, a message of its own
that does, or a committed one. -/
theorem seen_cases (tx : Tx) (st : Store) (id : MessageId) :
    (∀ m, tx.sees? st id = some m → m.isPending = false) ∨
      (∃ m, tx.changes.inserted? id = some m ∧ m.isPending = true) ∨
        ∃ m, tx.changes.inserted? id = none ∧ tx.committedView st id = some m ∧
          m.isPending = true := by
  by_cases settled : ∀ m, tx.sees? st id = some m → m.isPending = false
  · exact Or.inl settled
  · push Not at settled
    obtain ⟨m, seen, waits⟩ := settled
    have pending : m.isPending = true := by simpa using waits
    rcases Option.or_eq_some_iff.mp seen with own | ⟨notOwn, committed⟩
    · exact Or.inr (Or.inl ⟨m, own, pending⟩)
    · exact Or.inr (Or.inr ⟨m, notOwn, committed, pending⟩)

namespace Blocked

theorem not_of_settled (settled : ∀ m, tx.sees? st id = some m → m.isPending = false) :
    ¬ tx.Blocked st id := by
  rintro ⟨notOwn, ⟨m, seen, pending⟩, -⟩
  have delivered := settled m (by rw [sees?, notOwn, Option.none_or, seen])
  cases pending.symm.trans delivered

theorem not_of_own {m : QueuedMessage} (own : tx.changes.inserted? id = some m) :
    ¬ tx.Blocked st id := by
  rintro ⟨notOwn, -, -⟩
  cases own.symm.trans notOwn

/-- A committed message that waits for delivery is blocked if its lock is refused. -/
theorem iff_of_committed {m : QueuedMessage} (notOwn : tx.changes.inserted? id = none)
    (seen : tx.committedView st id = some m) (pending : m.isPending = true) :
    tx.Blocked st id ↔ tx.lockedElsewhere st id = true :=
  ⟨Blocked.elsewhere, fun elsewhere => ⟨notOwn, ⟨m, seen, pending⟩, elsewhere⟩⟩

end Blocked

/-- A message that is seen and waits for delivery is not settled. -/
theorem not_settled {m : QueuedMessage} (seen : tx.sees? st id = some m)
    (pending : m.isPending = true) : ¬ ∀ m, tx.sees? st id = some m → m.isPending = false := by
  intro settled
  cases pending.symm.trans (settled m seen)

theorem markProcessed_eq_error_iff {now : Timestamp} :
    tx.markProcessed st now id = .error e ↔ tx.Blocked st id ∧ e = lockedByOther id := by
  rcases tx.seen_cases st id with settled | ⟨m, own, pending⟩ | ⟨m, notOwn, seen, pending⟩
  · simp [markProcessed_of_settled settled, Blocked.not_of_settled settled]
  · simp [markProcessed, own, pending, Blocked.not_of_own own]
  · rw [Blocked.iff_of_committed notOwn seen pending, ← acquire_eq_error_iff, markProcessed, notOwn,
      seen]
    cases tx.acquire st id <;> simp [pending, bind, Except.bind, pure, Except.pure]

theorem incrementRetry_eq_error_iff (now : Timestamp) {error : String} :
    tx.incrementRetry st now id error = .error e ↔
      (∀ m, tx.sees? st id = some m → m.isPending = false) ∧ e = .notFound id ∨
        tx.Blocked st id ∧ e = lockedByOther id := by
  rcases tx.seen_cases st id with settled | ⟨m, own, pending⟩ | ⟨m, notOwn, seen, pending⟩
  · simp only [incrementRetry_of_settled settled, Blocked.not_of_settled settled, false_and,
      or_false, Except.error.injEq, eq_comm (a := e)]
    exact (and_iff_right settled).symm
  · have seen : tx.sees? st id = some m := by rw [sees?, own, Option.some_or]
    have waits := not_settled seen pending
    have granted : tx.incrementRetry st now id error ≠ .error e := by
      rw [incrementRetry, own]
      dsimp only
      rw [pending]
      cases m.countIsFull <;>
        cases isExhausted (m.afterFailure error).retryCount (m.afterFailure error).maxRetries <;>
          (intro failed; cases failed)
    simp [waits, granted, Blocked.not_of_own own]
  · have waits := not_settled (by rw [sees?, notOwn, Option.none_or, seen]) pending
    rw [Blocked.iff_of_committed notOwn seen pending, ← acquire_eq_error_iff, incrementRetry,
      notOwn, seen]
    cases tx.acquire st id with
    | error e' => simp [waits, pending, Option.filter, bind, Except.bind]
    | ok p =>
        simp only [Option.filter, pending, if_true, bind, Except.bind]
        cases m.countIsFull <;>
          cases isExhausted (m.afterFailure error).retryCount (m.afterFailure error).maxRetries <;>
            simp [waits, pure, Except.pure]

/-- A claim is never refused. -/
theorem claimNext_ne_error : tx.claimNext st ≠ .error e := by
  rcases claimNext_cases tx st with ⟨answer, -⟩ | ⟨m, -, answer⟩ | ⟨r, -, st', tx', -, answer⟩
  all_goals
    rw [answer]
    intro failed
    cases failed

theorem rollbackToSavepoint_eq_error_iff :
    tx.rollbackToSavepoint = .error e ↔ tx.savepoint = none ∧ e = noSavepoint := by
  rw [rollbackToSavepoint]
  cases tx.savepoint <;> simp [eq_comm]

theorem releaseSavepoint_eq_error_iff :
    tx.releaseSavepoint = .error e ↔ tx.savepoint = none ∧ e = noSavepoint := by
  rw [releaseSavepoint]
  cases tx.savepoint <;> simp [eq_comm]

theorem map_eq_error_iff {α β : Type} {f : α → β} {x : Except StoreError α} :
    x.map f = .error e ↔ x = .error e := by
  cases x <;> simp [Except.map]

/-- **A request is refused for one of the reasons**, and for no other. -/
theorem request_eq_error_iff {now : Timestamp} {r : TxRequest} :
    tx.request st now r = .error e ↔ tx.Refuses st r e := by
  cases r with
  | add m =>
      rw [request, map_eq_error_iff, add_eq_error_iff, nameTaken_iff]
      constructor
      · rintro ⟨taken, rfl⟩
        exact .duplicate m taken
      · intro refused
        cases refused with
        | duplicate m taken => exact ⟨taken, rfl⟩
  | claimNext =>
      rw [request, map_eq_error_iff]
      exact iff_of_false claimNext_ne_error fun refused => by cases refused
  | markProcessed id =>
      rw [request, map_eq_error_iff, markProcessed_eq_error_iff]
      constructor
      · rintro ⟨blocked, rfl⟩
        exact .markBlocked id blocked
      · intro refused
        cases refused with
        | markBlocked id blocked => exact ⟨blocked, rfl⟩
  | incrementRetry id error =>
      refine (incrementRetry_eq_error_iff now).trans ?_
      constructor
      · rintro (⟨settled, rfl⟩ | ⟨blocked, rfl⟩)
        · cases seen : tx.sees? st id with
          | none => exact .countMissing id error (sees?_eq_none_iff.mp seen)
          | some m => exact .countDelivered id error m seen (settled m seen)
        · exact .countBlocked id error blocked
      · intro refused
        cases refused with
        | countBlocked id error blocked => exact Or.inr ⟨blocked, rfl⟩
        | countMissing id error missing =>
            have unseen := sees?_eq_none_iff.mpr missing
            exact Or.inl ⟨fun m seen => (by cases unseen.symm.trans seen), rfl⟩
        | countDelivered id error m seen delivered =>
            refine Or.inl ⟨fun m' seen' => ?_, rfl⟩
            cases seen.symm.trans seen'
            exact delivered
  | savepoint =>
      exact iff_of_false (fun failed => by cases failed) fun refused => by cases refused
  | rollbackToSavepoint =>
      rw [request, map_eq_error_iff, rollbackToSavepoint_eq_error_iff]
      constructor
      · rintro ⟨nowhere, rfl⟩
        exact .returns nowhere
      · intro refused
        cases refused with
        | returns nowhere => exact ⟨nowhere, rfl⟩
  | releaseSavepoint =>
      rw [request, map_eq_error_iff, releaseSavepoint_eq_error_iff]
      constructor
      · rintro ⟨nothing, rfl⟩
        exact .releases nothing
      · intro refused
        cases refused with
        | releases nothing => exact ⟨nothing, rfl⟩

end Tx

/-! ## The system -/

namespace System

/-- **Why a request on store `i` is refused**, and with which failure. -/
inductive Refuses (s : System) (i : StoreId) (h : TxHandle) (r : TxRequest) :
    StoreError → Prop where
  | closed (gone : s.open? h = none) : Refuses s i h r closed
  | foreign (t : OpenTx) (opened : s.open? h = some t) (elsewhere : t.home ≠ i) :
      Refuses s i h r foreign
  | own (t : OpenTx) (opened : s.open? h = some t) (home : t.home = i) (e : StoreError)
      (refused : t.tx.Refuses (s.store i) r e) : Refuses s i h r e

/-- **The system without a transaction that was abandoned**: nothing of it was written, all its
locks are free, and that is all. -/
structure Abandons (s : System) (t : OpenTx) (s' : System) : Prop where
  closed : s'.open? t.handle = none
  home : s'.store t.home =
    { s.store t.home with locked := (s.store t.home).locked.filter (· ∉ t.tx.locks) }
  elsewhere : ∀ j, j ≠ t.home → s'.store j = s.store j
  others : ∀ k, k ≠ t.handle → s'.open? k = s.open? k

/-- **A refused call changes nothing**, also if it is made in place; and the end of a transaction
that the wrong store refuses is a rollback in the right one. -/
structure RefusesCleanly (s : System) : Prop where
  inPlace : ∀ now i h r, s.requestInPlace now i h r = s.request now i h r
  refused : ∀ now i h r e, (s.request now i h r).1 = .error e ↔ s.Refuses i h r e
  unchanged : ∀ now i h r e, s.Refuses i h r e → s.requestInPlace now i h r = (.error e, s)
  adminInPlace : ∀ i id, s.adminInPlace i (Store.requeueInPlace id) = s.requeue i id ∧
    s.adminInPlace i (Store.deleteInPlace id) = s.deleteDeadLetter i id
  adminRefused : ∀ i id e, ((s.requeue i id).1 = .error e ↔
      (s.store i).deadLetter? id = none ∧ e = .notFound id) ∧
    ((s.deleteDeadLetter i id).1 = .error e ↔ (s.store i).deadLetter? id = none ∧ e = .notFound id)
  adminUnchanged : ∀ i id, (s.store i).deadLetter? id = none →
    s.requeue i id = (.error (.notFound id), s) ∧
      s.deleteDeadLetter i id = (.error (.notFound id), s)
  endInPlace : ∀ i h, s.endInPlace i h WorkM.commit = s.commit i h ∧
    s.endInPlace i h WorkM.rollback = s.rollback i h
  wrongStore : ∀ t ∈ s.transactions, ∀ i, i ≠ t.home →
    s.commit i t.handle = (.error foreign, (s.rollback t.home t.handle).2) ∧
      s.rollback i t.handle = (.error foreign, (s.rollback t.home t.handle).2) ∧
        s.Abandons t (s.rollback t.home t.handle).2

variable {s : System}

/-- A request that the store refuses returns the system that it was made on. -/
theorem Refuses.request_eq {i : StoreId} {h : TxHandle} {r : TxRequest} {e : StoreError}
    (refused : s.Refuses i h r e) (now : Timestamp) : s.request now i h r = (.error e, s) := by
  rw [request]
  cases refused with
  | closed gone => rw [gone]
  | foreign t opened elsewhere =>
      rw [opened]
      exact if_neg elsewhere
  | own t opened home e refused =>
      rw [opened]
      dsimp only
      rw [if_pos home, Tx.request_eq_error_iff.mpr refused]

theorem request_eq_error_iff {now : Timestamp} {i : StoreId} {h : TxHandle} {r : TxRequest}
    {e : StoreError} : (s.request now i h r).1 = .error e ↔ s.Refuses i h r e := by
  constructor
  · intro failed
    rw [request] at failed
    split at failed
    · next gone =>
        cases failed
        exact .closed gone
    · next t opened =>
        split at failed
        · next home =>
            split at failed
            · next e' refused =>
                cases failed
                exact .own t opened home e (Tx.request_eq_error_iff.mp refused)
            · cases failed
        · next elsewhere =>
            cases failed
            exact .foreign t opened elsewhere
  · intro refused
    rw [refused.request_eq now]

theorem requeue_eq_error_iff {i : StoreId} {id : MessageId} {e : StoreError} :
    (s.requeue i id).1 = .error e ↔ (s.store i).deadLetter? id = none ∧ e = .notFound id := by
  rw [requeue, Store.requeue]
  cases (s.store i).deadLetter? id <;> simp [eq_comm]

theorem deleteDeadLetter_eq_error_iff {i : StoreId} {id : MessageId} {e : StoreError} :
    (s.deleteDeadLetter i id).1 = .error e ↔
      (s.store i).deadLetter? id = none ∧ e = .notFound id := by
  rw [deleteDeadLetter, Store.deleteDeadLetter]
  cases (s.store i).deadLetter? id <;> simp [eq_comm]

/-- What is no dead letter can neither be put back nor be deleted. -/
theorem admin_of_none {i : StoreId} {id : MessageId} (missing : (s.store i).deadLetter? id = none) :
    s.requeue i id = (.error (.notFound id), s) ∧
      s.deleteDeadLetter i id = (.error (.notFound id), s) := by
  rw [requeue, Store.requeue, deleteDeadLetter, Store.deleteDeadLetter, missing]
  exact ⟨rfl, rfl⟩

theorem abandons_rollback {t : OpenTx} (opened : s.open? t.handle = some t) :
    s.Abandons t (s.rollback t.home t.handle).2 := by
  have after : (s.rollback t.home t.handle).2 = s.close t (t.tx.release (s.store t.home)) := by
    rw [rollback, drop, opened]
  rw [after]
  refine ⟨?_, ?_, ?_, ?_⟩
  · rw [open?_close, if_pos rfl]
  · by_cases inside : t.home.index < s.stores.length
    · exact store_setStore_self inside _
    · -- there is no such store, and it has nothing locked
      have none' : ∀ s' : System, s'.stores.length = s.stores.length → s'.store t.home = {} := by
        intro s' same
        have outside : s'.stores[t.home.index]? = none := List.getElem?_eq_none (by omega)
        rw [store, List.getD, outside]
        rfl
      have after := none' (s.close t (t.tx.release (s.store t.home)))
        (length_stores_setStore s t.home _)
      rw [after, none' s rfl]
      rfl
  · intro j elsewhere
    exact store_setStore_ne s elsewhere.symm _
  · intro k other
    rw [open?_close, if_neg other]

/-- **Failed calls change nothing**, after every run, on any number of stores. -/
theorem refuses_cleanly (n : Nat) (calls : List Call) :
    ((ofSize n).run calls).RefusesCleanly := by
  have distinct := distinct_run (orderly_ofSize n) List.nodup_nil calls
  refine ⟨requestInPlace_eq distinct, fun _ _ _ _ _ => request_eq_error_iff, ?_, ?_, ?_, ?_, ?_, ?_⟩
  · intro now i h r e refused
    rw [requestInPlace_eq distinct, refused.request_eq]
  · exact fun i id => ⟨requeueInPlace_eq _ i id, deleteInPlace_eq _ i id⟩
  · exact fun i id e => ⟨requeue_eq_error_iff, deleteDeadLetter_eq_error_iff⟩
  · exact fun i id missing => admin_of_none missing
  · exact fun i h => ⟨commitInPlace_eq _ i h, rollbackInPlace_eq _ i h⟩
  · intro t ht i wrong
    have opened := open?_of_mem distinct ht
    refine ⟨?_, ?_, abandons_rollback opened⟩
    · rw [commit, rollback, opened]
      exact if_neg wrong.symm
    · rw [rollback, rollback, opened]
      dsimp only
      rw [if_neg wrong.symm]

end System

end MaintenanceOutbox
