import MaintenanceOutbox.Proofs.Store.Tables
import MaintenanceOutbox.Store.System

set_option autoImplicit false

/-! # What a request can do

`Tx.Moves` lists everything that a request inside a transaction can do to the tables and to the
transaction, with the checks that it passes on the way; `Tx.request_moves` says that the list is
complete. An invariant of stores is proved by going through this list once, and no proof has to
open the calls themselves again.

Two facts about locks stand out. The only change that a request makes to the tables is one more
lock (`Tx.acquire_eq_ok_iff`), and a lock is taken only on a row that is committed, or that the
transaction has locked already.
-/

namespace MaintenanceOutbox

/-- How an attempt at delivery changes a message that stays in the queue. -/
inductive QueuedMessage.Progress (m : QueuedMessage) : QueuedMessage → Prop where
  | delivered (now : Timestamp) : Progress m (m.markProcessed now)
  | failed (error : String) (room : m.countIsFull = false)
      (left : isExhausted (m.afterFailure error).retryCount (m.afterFailure error).maxRetries =
        false) :
      Progress m (m.afterFailure error)

/-- The dead letter that a message becomes when an attempt at delivery uses up its budget. -/
inductive QueuedMessage.Death (m : QueuedMessage) : DeadLetter → Prop where
  | failed (error : String) (now : Timestamp) (room : m.countIsFull = false)
      (spent : isExhausted (m.afterFailure error).retryCount (m.afterFailure error).maxRetries =
        true) :
      Death m ⟨m.afterFailure error, now⟩

/-- What is answered to a count that left the message as it is here. -/
def QueuedMessage.retryOutcome (failed : QueuedMessage) : RetryOutcome :=
  if isExhausted failed.retryCount failed.maxRetries then .deadLettered failed.retryCount
  else .retrying failed.retryCount

theorem QueuedMessage.retryOutcome_eq (failed : QueuedMessage) :
    failed.retryOutcome.retryCount = failed.retryCount ∧
      failed.retryOutcome.isDeadLettered = isExhausted failed.retryCount failed.maxRetries := by
  rw [retryOutcome]
  cases isExhausted failed.retryCount failed.maxRetries <;> exact ⟨rfl, rfl⟩

/-- What is answered to a count on the message: nothing, if the count is full. -/
def QueuedMessage.countAnswer (m : QueuedMessage) (error : String) : Option RetryOutcome :=
  if m.countIsFull then none else some (m.afterFailure error).retryOutcome

theorem QueuedMessage.Progress.id_eq {m m' : QueuedMessage} (h : m.Progress m') : m'.id = m.id := by
  cases h <;> rfl

theorem QueuedMessage.isPending_of_isClaimable {m : QueuedMessage} (h : m.isClaimable = true) :
    m.isPending = true := by
  unfold isClaimable at h
  exact (Bool.and_eq_true_iff.mp h).1

theorem QueuedMessage.Death.id_eq {m : QueuedMessage} {d : DeadLetter} (h : m.Death d) :
    d.id = m.id := by
  cases h; rfl

/-! ## Messages that a transaction added -/

namespace Changes

theorem id_of_inserted? {c : Changes} {id : MessageId} {m : QueuedMessage}
    (h : c.inserted? id = some m) : m.id = id := by
  simpa using List.find?_some h

theorem mem_of_inserted? {c : Changes} {id : MessageId} {m : QueuedMessage}
    (h : c.inserted? id = some m) : m ∈ c.inserted :=
  List.mem_of_find?_eq_some h

theorem id_of_updated? {c : Changes} {id : MessageId} {m : QueuedMessage}
    (h : c.updated? id = some m) : m.id = id := by
  simpa using List.find?_some h

theorem mem_of_updated? {c : Changes} {id : MessageId} {m : QueuedMessage}
    (h : c.updated? id = some m) : m ∈ c.updated :=
  List.mem_of_find?_eq_some h

/-- Only the message found under the name is changed. -/
theorem changeFirst_eq {id : MessageId} {ms : List QueuedMessage} {m : QueuedMessage}
    (h : ms.find? (·.id = id) = some m) (f : QueuedMessage → QueuedMessage) :
    changeFirst id f ms = changeFirst id (fun _ => f m) ms := by
  induction ms with
  | nil => cases h
  | cons x rest ih =>
      by_cases hx : x.id = id
      · have same : x = m := by simpa [hx] using h
        rw [changeFirst, changeFirst, if_pos hx, if_pos hx, same]
      · have later : rest.find? (·.id = id) = some m := by simpa [hx] using h
        rw [changeFirst, changeFirst, if_neg hx, if_neg hx, ih later]

/-- A change under a name keeps all names. -/
theorem map_id_changeFirst {id : MessageId} {m : QueuedMessage} (hm : m.id = id)
    (ms : List QueuedMessage) : (changeFirst id (fun _ => m) ms).map (·.id) = ms.map (·.id) := by
  induction ms with
  | nil => rfl
  | cons x rest ih =>
      by_cases hx : x.id = id
      · simp [changeFirst, hx, hm]
      · simp [changeFirst, hx, ih]

theorem mem_changeFirst {id : MessageId} {m x : QueuedMessage} {ms : List QueuedMessage}
    (h : x ∈ changeFirst id (fun _ => m) ms) : x = m ∨ x ∈ ms := by
  induction ms with
  | nil => cases h
  | cons y rest ih =>
      by_cases hy : y.id = id
      · rw [changeFirst, if_pos hy, List.mem_cons] at h
        exact h.imp_right fun later => List.mem_cons_of_mem y later
      · rw [changeFirst, if_neg hy, List.mem_cons] at h
        rcases h with rfl | later
        · exact Or.inr List.mem_cons_self
        · exact (ih later).imp_right fun found => List.mem_cons_of_mem y found

/-- Dropping the first message under a name drops that name once. -/
theorem map_id_dropFirst (id : MessageId) (ms : List QueuedMessage) :
    (dropFirst id ms).map (·.id) = (ms.map (·.id)).erase id := by
  induction ms with
  | nil => rfl
  | cons x rest ih =>
      by_cases hx : x.id = id
      · simp [dropFirst, hx]
      · simp [dropFirst, hx, ih]

theorem dropFirst_sublist (id : MessageId) (ms : List QueuedMessage) :
    (dropFirst id ms).Sublist ms := by
  induction ms with
  | nil => exact List.Sublist.refl _
  | cons x rest ih =>
      by_cases hx : x.id = id
      · rw [dropFirst, if_pos hx]
        exact List.sublist_cons_self x rest
      · rw [dropFirst, if_neg hx]
        exact ih.cons_cons x

end Changes

theorem Row.mem_of_first? {rows : List Row} {r : Row} (h : Row.first? rows = some r) :
    r ∈ rows := by
  induction rows generalizing r with
  | nil => cases h
  | cons s rest ih =>
      rw [Row.first?] at h
      split at h
      · rw [Option.some.injEq] at h
        exact h ▸ List.mem_cons_self
      · next t found =>
          split at h <;> rw [Option.some.injEq] at h
          · exact h ▸ List.mem_cons_of_mem s (ih found)
          · exact h ▸ List.mem_cons_self

namespace Tx

/-! ## Locks -/

/-- **Taking a lock** succeeds if the transaction has it or nobody has it; then it has it. -/
theorem acquire_eq_ok_iff {tx tx' : Tx} {st st' : Store} {id : MessageId} :
    tx.acquire st id = .ok (st', tx') ↔
      (id ∈ tx.locks ∧ st' = st ∧ tx' = tx) ∨
        (id ∉ tx.locks ∧ id ∉ st.locked ∧ st' = st.lock id ∧
          tx' = { tx with locks := tx.locks ++ [id] }) := by
  unfold acquire
  by_cases held : id ∈ tx.locks
  · simp [holds, held, eq_comm]
  · by_cases taken : id ∈ st.locked
    · simp [holds, held, Store.isLocked, taken]
    · simp [holds, held, Store.isLocked, taken, eq_comm]

/-- Taking a lock fails only if another transaction has it. -/
theorem acquire_ok_of_not_lockedElsewhere {tx : Tx} {st : Store} {id : MessageId}
    (h : tx.lockedElsewhere st id = false) : ∃ p, tx.acquire st id = .ok p := by
  unfold acquire
  by_cases held : tx.holds id
  · exact ⟨(st, tx), by rw [if_pos held]⟩
  · have free : st.isLocked id = false := by simpa [lockedElsewhere, held] using h
    refine ⟨_, by rw [if_neg held, free]; rfl⟩

theorem acquire_changes {tx tx' : Tx} {st st' : Store} {id : MessageId}
    (h : tx.acquire st id = .ok (st', tx')) :
    tx'.changes = tx.changes ∧ tx'.savepoint = tx.savepoint := by
  rcases acquire_eq_ok_iff.mp h with ⟨-, -, rfl⟩ | ⟨-, -, -, rfl⟩ <;> exact ⟨rfl, rfl⟩

/-! ## What a transaction sees -/

theorem id_of_committedView {tx : Tx} {st : Store} {id : MessageId} {m : QueuedMessage}
    (h : tx.committedView st id = some m) : m.id = id := by
  unfold committedView at h
  split at h
  · cases h
  · rcases Option.or_eq_some_iff.mp h with changed | ⟨-, stored⟩
    · exact Changes.id_of_updated? changed
    · obtain ⟨r, hr, rfl⟩ := Option.map_eq_some_iff.mp stored
      exact Store.id_of_row? hr

/-- A committed message that a transaction sees is one that it changed, or is stored as it is. -/
theorem committedView_cases {tx : Tx} {st : Store} {id : MessageId} {m : QueuedMessage}
    (h : tx.committedView st id = some m) :
    id ∉ tx.changes.deadLettered.map (·.id) ∧
      (m ∈ tx.changes.updated ∨
        tx.changes.updated? id = none ∧ ∃ r, st.row? id = some r ∧ r.message = m) := by
  unfold committedView at h
  split at h
  · cases h
  · next alive =>
      rw [Changes.isDeadLettered_iff] at alive
      refine ⟨alive, ?_⟩
      rcases Option.or_eq_some_iff.mp h with changed | ⟨unchanged, stored⟩
      · exact Or.inl (Changes.mem_of_updated? changed)
      · exact Or.inr ⟨unchanged, Option.map_eq_some_iff.mp stored⟩

/-- The message under a name, as the transaction sees it: its own one, or the committed one. -/
def sees? (tx : Tx) (st : Store) (id : MessageId) : Option QueuedMessage :=
  (tx.changes.inserted? id).or (tx.committedView st id)

/-- Of a message that a transaction has not touched, it sees what is committed. -/
theorem committedView_of_unnamed {tx : Tx} {id : MessageId} (st : Store)
    (unnamed : id ∉ tx.changes.names) :
    tx.changes.inserted? id = none ∧ tx.committedView st id = st.message? id := by
  rw [Changes.mem_names, not_or, not_or] at unnamed
  obtain ⟨notNew, notChanged, notDead⟩ := unnamed
  have alive : tx.changes.isDeadLettered id = false := by
    rw [← Bool.not_eq_true, Changes.isDeadLettered_iff]
    exact notDead
  refine ⟨Changes.inserted?_eq_none_iff.mpr notNew, ?_⟩
  rw [committedView, alive, Changes.updated?_eq_none_iff.mpr notChanged]
  rfl

theorem nameTaken_eq_false_iff {tx : Tx} {st : Store} {id : MessageId} :
    tx.nameTaken st id = false ↔
      (st.row? id = none ∧ st.deadLetter? id = none) ∧ tx.changes.inserted? id = none := by
  simp [nameTaken]

theorem mem_claimableRows {tx : Tx} {st : Store} {r : Row} :
    r ∈ tx.claimableRows st ↔
      (∃ old ∈ st.rows, old.id = r.id ∧ old.seq = r.seq) ∧
        tx.committedView st r.id = some r.message ∧ r.message.isClaimable = true ∧
          tx.lockedElsewhere st r.id = false := by
  simp only [claimableRows, committedRows, List.mem_filter, List.mem_filterMap, Bool.and_eq_true,
    Bool.not_eq_true']
  constructor
  · rintro ⟨⟨old, hold, hview⟩, claimable, free⟩
    obtain ⟨m, hm, rfl⟩ := Option.map_eq_some_iff.mp hview
    have same : m.id = old.id := id_of_committedView hm
    refine ⟨⟨old, hold, same.symm, rfl⟩, ?_, claimable, free⟩
    simpa only [Row.id, same] using hm
  · rintro ⟨⟨old, hold, hid, hseq⟩, hview, claimable, free⟩
    refine ⟨⟨old, hold, ?_⟩, claimable, free⟩
    rw [hid, hview, Option.map_some, hseq]

/-! ## Claims -/

/-- **What a claim answers**: nothing, a message of the transaction's own, or a committed row,
which is then locked. A claim is never refused. -/
theorem claimNext_cases (tx : Tx) (st : Store) :
    tx.claimNext st = .ok (none, st, tx) ∧ tx.claimableRows st = [] ∨
      (∃ m ∈ tx.changes.inserted, tx.claimNext st = .ok (some m, st, tx)) ∨
        ∃ r ∈ tx.claimableRows st, ∃ st' tx', tx.acquire st r.id = .ok (st', tx') ∧
          tx.claimNext st = .ok (some r.message, st', tx') := by
  have own_mem : ∀ own ∈ tx.claimableOwnRows st, own.message ∈ tx.changes.inserted := by
    intro own hown
    have hown' := (List.mem_filter.mp hown).1
    obtain ⟨i, hi, rfl⟩ := List.mem_mapIdx.mp hown'
    exact List.getElem_mem hi
  unfold claimNext
  cases hc : Row.first? (tx.claimableRows st) with
  | none =>
      have empty : tx.claimableRows st = [] := by
        cases hrows : tx.claimableRows st with
        | nil => rfl
        | cons r rest =>
            rw [hrows, Row.first?] at hc
            split at hc
            · cases hc
            · split at hc <;> cases hc
      cases ho : Row.first? (tx.claimableOwnRows st) with
      | none => exact Or.inl ⟨rfl, empty⟩
      | some own =>
          exact Or.inr (Or.inl ⟨own.message, own_mem own (Row.mem_of_first? ho), rfl⟩)
  | some r =>
      have hr : r ∈ tx.claimableRows st := Row.mem_of_first? hc
      -- a message of its own goes first if it comes before the row
      dsimp only
      split
      · next own hown =>
          have hown' := (Option.filter_eq_some_iff.mp hown).1
          exact Or.inr (Or.inl ⟨own.message, own_mem own (Row.mem_of_first? hown'), rfl⟩)
      · have free := (mem_claimableRows.mp hr).2.2.2
        obtain ⟨⟨st', tx'⟩, got⟩ := acquire_ok_of_not_lockedElsewhere free
        refine Or.inr (Or.inr ⟨r, hr, st', tx', got, ?_⟩)
        rw [got]
        rfl

/-! ## Everything that a request can do -/

/-- **What a request that is not refused can do**, to the tables and to the transaction. -/
inductive Moves (tx : Tx) (st : Store) : TxRequest → Store → Tx → Prop where
  /-- Nothing changes: nothing was claimable, or the call had nothing to do. -/
  | stays (r : TxRequest) : Moves tx st r st tx
  | adds (m : QueuedMessage) (free : tx.nameTaken st m.id = false) :
      Moves tx st (.add m) st
        { tx with changes := { tx.changes with inserted := tx.changes.inserted ++ [m] } }
  /-- A pending committed message is locked, and that is all: it is claimed, or its count is full
  and the call breaks off. -/
  | takesLock (r : TxRequest) (id : MessageId) (m : QueuedMessage) (st' : Store) (tx' : Tx)
      (seen : tx.committedView st id = some m) (pending : m.isPending = true)
      (got : tx.acquire st id = .ok (st', tx')) : Moves tx st r st' tx'
  /-- A message that the transaction added stays among its messages. -/
  | rewritesOwn (r : TxRequest) (id : MessageId) (m m' : QueuedMessage)
      (own : tx.changes.inserted? id = some m) (pending : m.isPending = true)
      (progress : m.Progress m') :
      Moves tx st r st
        { tx with changes := { tx.changes with
          inserted := Changes.changeFirst id (fun _ => m') tx.changes.inserted } }
  /-- A message that the transaction added becomes a dead letter. -/
  | buriesOwn (r : TxRequest) (id : MessageId) (m : QueuedMessage) (d : DeadLetter)
      (own : tx.changes.inserted? id = some m) (pending : m.isPending = true) (death : m.Death d) :
      Moves tx st r st
        { tx with changes := { tx.changes with
          inserted := Changes.dropFirst id tx.changes.inserted
          deadLettered := tx.changes.deadLettered ++ [d] } }
  /-- A committed message is changed under its lock. -/
  | rewrites (r : TxRequest) (id : MessageId) (m m' : QueuedMessage) (st' : Store) (tx' : Tx)
      (notOwn : tx.changes.inserted? id = none) (seen : tx.committedView st id = some m)
      (pending : m.isPending = true) (got : tx.acquire st id = .ok (st', tx'))
      (progress : m.Progress m') :
      Moves tx st r st' { tx' with changes := tx'.changes.update m' }
  /-- A committed message is made a dead letter under its lock. -/
  | buries (r : TxRequest) (id : MessageId) (m : QueuedMessage) (d : DeadLetter) (st' : Store)
      (tx' : Tx) (notOwn : tx.changes.inserted? id = none)
      (seen : tx.committedView st id = some m) (pending : m.isPending = true)
      (got : tx.acquire st id = .ok (st', tx')) (death : m.Death d) :
      Moves tx st r st' { tx' with changes := tx'.changes.bury d }
  | setsSavepoint : Moves tx st .savepoint st tx.setSavepoint
  | returns (c : Changes) (saved : tx.savepoint = some c) :
      Moves tx st .rollbackToSavepoint st { tx with changes := c }
  | forgets : Moves tx st .releaseSavepoint st { tx with savepoint := none }

theorem claimNext_moves {tx tx' : Tx} {st st' : Store} {m? : Option QueuedMessage}
    (h : tx.claimNext st = .ok (m?, st', tx')) : tx.Moves st .claimNext st' tx' := by
  rcases claimNext_cases tx st with ⟨none', -⟩ | ⟨m, -, own⟩ | ⟨r, hr, st₁, tx₁, got, some'⟩
  · rw [none'] at h
    cases h
    exact .stays _
  · rw [own] at h
    cases h
    exact .stays _
  · rw [some'] at h
    cases h
    obtain ⟨-, seen, claimable, -⟩ := mem_claimableRows.mp hr
    exact .takesLock _ r.id _ _ _ seen (QueuedMessage.isPending_of_isClaimable claimable) got

/-- A claim as a request is the claim, and never breaks off. -/
theorem request_claimNext {tx tx' : Tx} {st st' : Store} {now : Timestamp}
    {answer? : Option (Option QueuedMessage)}
    (h : tx.request st now .claimNext = .ok (answer?, st', tx')) :
    ∃ m?, answer? = some m? ∧ tx.claimNext st = .ok (m?, st', tx') := by
  rw [request] at h
  cases done : tx.claimNext st with
  | error e =>
      rw [done] at h
      cases h
  | ok p =>
      obtain ⟨m?, st₁, tx₁⟩ := p
      rw [done] at h
      cases h
      exact ⟨m?, rfl, rfl⟩

theorem markProcessed_moves {tx tx' : Tx} {st st' : Store} {now : Timestamp} {id : MessageId}
    (h : tx.markProcessed st now id = .ok (st', tx')) :
    tx.Moves st (.markProcessed id) st' tx' := by
  unfold markProcessed at h
  cases own : tx.changes.inserted? id with
  | some m =>
      rw [own] at h
      dsimp only at h
      split at h
      · next pending =>
          rw [Except.ok.injEq, Prod.mk.injEq] at h
          obtain ⟨rfl, rfl⟩ := h
          rw [Changes.changeFirst_eq own]
          exact .rewritesOwn _ id m _ own pending (.delivered now)
      · rw [Except.ok.injEq, Prod.mk.injEq] at h
        obtain ⟨rfl, rfl⟩ := h
        exact .stays _
  | none =>
      rw [own] at h
      dsimp only at h
      cases seen : tx.committedView st id with
      | none =>
          rw [seen, Except.ok.injEq, Prod.mk.injEq] at h
          obtain ⟨rfl, rfl⟩ := h
          exact .stays _
      | some m =>
          rw [seen] at h
          dsimp only at h
          split at h
          · next pending =>
              -- the call may still fail, for want of the lock
              cases got : tx.acquire st id with
              | error e => rw [got] at h; cases h
              | ok p =>
                  obtain ⟨st₁, tx₁⟩ := p
                  have same := (acquire_changes got).1
                  rw [got] at h
                  simp only [bind, Except.bind, pure, Except.pure, Except.ok.injEq,
                    Prod.mk.injEq] at h
                  obtain ⟨rfl, rfl⟩ := h
                  exact .rewrites _ id m _ _ tx₁ own seen pending got (.delivered now)
          · rw [Except.ok.injEq, Prod.mk.injEq] at h
            obtain ⟨rfl, rfl⟩ := h
            exact .stays _

theorem incrementRetry_moves {tx tx' : Tx} {st st' : Store} {now : Timestamp} {id : MessageId}
    {error : String} {outcome? : Option RetryOutcome}
    (h : tx.incrementRetry st now id error = .ok (outcome?, st', tx')) :
    tx.Moves st (.incrementRetry id error) st' tx' := by
  unfold incrementRetry at h
  cases own : tx.changes.inserted? id with
  | some m =>
      rw [own] at h
      dsimp only at h
      split at h
      · cases h
      · next pending =>
          have pending' : m.isPending = true := by simpa using pending
          split at h
          · rw [Except.ok.injEq, Prod.mk.injEq, Prod.mk.injEq] at h
            obtain ⟨-, rfl, rfl⟩ := h
            exact .stays _
          · next room =>
              rw [Bool.not_eq_true] at room
              split at h
              · next spent =>
                  rw [Except.ok.injEq, Prod.mk.injEq, Prod.mk.injEq] at h
                  obtain ⟨-, rfl, rfl⟩ := h
                  exact .buriesOwn _ id m _ own pending' (.failed error now room spent)
              · next left =>
                  rw [Except.ok.injEq, Prod.mk.injEq, Prod.mk.injEq] at h
                  obtain ⟨-, rfl, rfl⟩ := h
                  rw [Changes.changeFirst_eq own]
                  exact .rewritesOwn _ id m _ own pending'
                    (.failed error room (Bool.not_eq_true _ ▸ left))
  | none =>
      rw [own] at h
      dsimp only at h
      cases seen : (tx.committedView st id).filter (·.isPending) with
      | none => rw [seen] at h; cases h
      | some m =>
          obtain ⟨seen', pending⟩ := Option.filter_eq_some_iff.mp seen
          rw [seen] at h
          dsimp only at h
          cases got : tx.acquire st id with
          | error e => rw [got] at h; cases h
          | ok p =>
              obtain ⟨st₁, tx₁⟩ := p
              rw [got] at h
              simp only [bind, Except.bind] at h
              -- with the lock, the count and the budget decide
              split at h
              · simp only [pure, Except.pure, Except.ok.injEq, Prod.mk.injEq] at h
                obtain ⟨-, rfl, rfl⟩ := h
                exact .takesLock _ id m _ _ seen' pending got
              · next room =>
                  rw [Bool.not_eq_true] at room
                  split at h
                  · next spent =>
                      simp only [pure, Except.pure, Except.ok.injEq, Prod.mk.injEq] at h
                      obtain ⟨-, rfl, rfl⟩ := h
                      exact .buries _ id m _ _ tx₁ own seen' pending got
                        (.failed error now room spent)
                  · next left =>
                      simp only [pure, Except.pure, Except.ok.injEq, Prod.mk.injEq] at h
                      obtain ⟨-, rfl, rfl⟩ := h
                      exact .rewrites _ id m _ _ tx₁ own seen' pending got
                        (.failed error room (Bool.not_eq_true _ ▸ left))

/-! ## Messages that wait for delivery, and others

Marking and counting are about a pending message that the transaction sees. Without one, a mark does
nothing and a count is refused. -/

theorem markProcessed_of_settled {tx : Tx} {st : Store} {id : MessageId}
    (settled : ∀ m, tx.sees? st id = some m → m.isPending = false) (now : Timestamp) :
    tx.markProcessed st now id = .ok (st, tx) := by
  unfold sees? at settled
  unfold markProcessed
  cases own : tx.changes.inserted? id with
  | some m => simp [settled m (by simp [own])]
  | none =>
      cases seen : tx.committedView st id with
      | none => rfl
      | some m => simp [settled m (by simp [own, seen])]

theorem incrementRetry_of_settled {tx : Tx} {st : Store} {id : MessageId}
    (settled : ∀ m, tx.sees? st id = some m → m.isPending = false) (now : Timestamp)
    (error : String) : tx.incrementRetry st now id error = .error (.notFound id) := by
  unfold sees? at settled
  unfold incrementRetry
  cases own : tx.changes.inserted? id with
  | some m => simp [settled m (by simp [own])]
  | none =>
      cases seen : tx.committedView st id with
      | none => rfl
      | some m => simp [settled m (by simp [own, seen]), Option.filter]

/-- **What is answered to a count** is the new count of the message, and whether the budget is used
up with it. -/
theorem incrementRetry_answer {tx : Tx} {st : Store} {now : Timestamp} {id : MessageId}
    {error : String} {outcome? : Option RetryOutcome} {p : Store × Tx}
    (h : tx.incrementRetry st now id error = .ok (outcome?, p)) :
    ∃ m, tx.sees? st id = some m ∧ m.isPending = true ∧ outcome? = m.countAnswer error := by
  unfold incrementRetry at h
  unfold sees?
  cases own : tx.changes.inserted? id with
  | some m =>
      simp only [own] at h
      split at h
      · cases h
      · next pending =>
          refine ⟨m, rfl, by simpa using pending, ?_⟩
          rw [QueuedMessage.countAnswer, QueuedMessage.retryOutcome]
          repeat' split at h
          all_goals cases h; simp [*]
  | none =>
      simp only [own] at h
      cases seen : (tx.committedView st id).filter (·.isPending) with
      | none =>
          rw [seen] at h
          cases h
      | some m =>
          obtain ⟨seen', pending⟩ := Option.filter_eq_some_iff.mp seen
          refine ⟨m, seen', pending, ?_⟩
          rw [seen] at h
          dsimp only at h
          cases got : tx.acquire st id with
          | error e =>
              rw [got] at h
              cases h
          | ok q =>
              rw [got] at h
              simp only [bind, Except.bind, pure, Except.pure] at h
              rw [QueuedMessage.countAnswer, QueuedMessage.retryOutcome]
              repeat' split at h
              all_goals cases h; simp [*]

/-- **The list is complete**: a request that is not refused does one of these things. -/
theorem request_moves {tx tx' : Tx} {st st' : Store} {now : Timestamp} {r : TxRequest}
    {answer? : Option r.Answer} (h : tx.request st now r = .ok (answer?, st', tx')) :
    tx.Moves st r st' tx' := by
  cases r with
  | add m =>
      rw [request, add] at h
      split at h
      · cases h
      · next free =>
          cases h
          exact .adds m (Bool.not_eq_true _ ▸ free)
  | claimNext =>
      obtain ⟨m?, -, claimed⟩ := request_claimNext h
      exact claimNext_moves claimed
  | markProcessed id =>
      rw [request] at h
      cases done : tx.markProcessed st now id with
      | error e => rw [done] at h; cases h
      | ok p =>
          rw [done] at h
          cases h
          exact markProcessed_moves done
  | incrementRetry id error => exact incrementRetry_moves h
  | savepoint =>
      cases h
      exact .setsSavepoint
  | rollbackToSavepoint =>
      rw [request, rollbackToSavepoint] at h
      split at h
      · cases h
      · next c saved =>
          cases h
          exact .returns c saved
  | releaseSavepoint =>
      rw [request, releaseSavepoint] at h
      split at h
      · cases h
      · cases h
        exact .forgets

/-- **Only a count breaks off**, on a message whose count is full. -/
theorem request_breaksOff {tx : Tx} {st : Store} {now : Timestamp} {r : TxRequest} {p : Store × Tx}
    (h : tx.request st now r = .ok (none, p)) :
    ∃ id error m, r = .incrementRetry id error ∧ tx.sees? st id = some m ∧ m.isPending = true ∧
      m.countIsFull = true := by
  cases r with
  | add m =>
      rw [request] at h
      cases done : tx.add st m <;> rw [done] at h <;> cases h
  | claimNext =>
      obtain ⟨m?, none', -⟩ := request_claimNext h
      cases none'
  | markProcessed id =>
      rw [request] at h
      cases done : tx.markProcessed st now id <;> rw [done] at h <;> cases h
  | incrementRetry id error =>
      obtain ⟨m, seen, pending, answer⟩ := incrementRetry_answer h
      refine ⟨id, error, m, rfl, seen, pending, ?_⟩
      by_contra room
      rw [QueuedMessage.countAnswer, if_neg room] at answer
      cases answer
  | savepoint => cases h
  | rollbackToSavepoint =>
      rw [request] at h
      cases done : tx.rollbackToSavepoint <;> rw [done] at h <;> cases h
  | releaseSavepoint =>
      rw [request] at h
      cases done : tx.releaseSavepoint <;> rw [done] at h <;> cases h

/-- **What a request does to the savepoint**: nothing, or it sets it, or it takes it away. -/
theorem Moves.savepoint_cases {tx tx' : Tx} {st st' : Store} {r : TxRequest}
    (h : tx.Moves st r st' tx') :
    tx'.savepoint = tx.savepoint ∨ r = .savepoint ∨
      r = .releaseSavepoint ∧ tx'.savepoint = none := by
  cases h with
  | stays | adds | rewritesOwn | buriesOwn | returns => exact Or.inl rfl
  | takesLock r id m st' tx' seen pending got => exact Or.inl (acquire_changes got).2
  | rewrites r id m m' st' tx₁ notOwn seen pending got progress =>
      exact Or.inl (acquire_changes got).2
  | buries r id m d st' tx₁ notOwn seen pending got death =>
      exact Or.inl (acquire_changes got).2
  | setsSavepoint => exact Or.inr (Or.inl rfl)
  | forgets => exact Or.inr (Or.inr ⟨rfl, rfl⟩)

/-- The savepoint stays, unless the request sets it or gives it up. -/
theorem Moves.savepoint_stays {tx tx' : Tx} {st st' : Store} {r : TxRequest}
    (h : tx.Moves st r st' tx') (notSet : r ≠ .savepoint) (notReleased : r ≠ .releaseSavepoint) :
    tx'.savepoint = tx.savepoint :=
  h.savepoint_cases.resolve_right (not_or.mpr ⟨notSet, fun gone => notReleased gone.1⟩)

end Tx

end MaintenanceOutbox
