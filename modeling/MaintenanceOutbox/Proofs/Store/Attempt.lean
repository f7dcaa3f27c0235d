import MaintenanceOutbox.Proofs.Store.Remaining

set_option autoImplicit false

/-! # An attempt at delivery, seen from the tables

A worker claims a message, and later marks it or counts a failure on it, all in one transaction. The
claim is known beforehand: it is the first of the rows that are claimable and not locked
(`Store.next?`). The mark and the count are granted, as the transaction has the lock, and what they
add to the other changes of the transaction is stated here for the tables after the commit.
-/

namespace MaintenanceOutbox

/-! ## Tables -/

namespace Row

/-- The order of delivery looks at nothing but the times of creation and the numbers. -/
theorem sort_map {f : Row → Row} (created : ∀ r, (f r).message.createdAt = r.message.createdAt)
    (number : ∀ r, (f r).seq = r.seq) (rows : List Row) :
    sort (rows.map f) = (sort rows).map f := by
  have inserted : ∀ (r : Row) (sorted : List Row),
      insertSorted (f r) (sorted.map f) = (insertSorted r sorted).map f := by
    intro r sorted
    induction sorted with
    | nil => rfl
    | cons s rest ih =>
        rw [List.map_cons, insertSorted, insertSorted, before, created, number, created, number, ih,
          ← before]
        split <;> rfl
  induction rows with
  | nil => rfl
  | cons r rest ih =>
      rw [sort, sort, List.map_cons, List.foldr_cons, List.foldr_cons, ← sort, ← sort, ih, inserted]

theorem first?_eq_none_iff {rows : List Row} : first? rows = none ↔ rows = [] := by
  cases rows with
  | nil => simp [first?]
  | cons r rest =>
      rw [first?]
      cases first? rest with
      | none => simp
      | some s => by_cases h : s.before r <;> simp [h]

end Row

namespace Store

/-- The rows that a new transaction may claim. -/
def offered (st : Store) : List Row :=
  st.rows.filter fun r => r.message.isClaimable && !st.isLocked r.id

/-- **The row that a new transaction claims**: the first one in the order of delivery. -/
def next? (st : Store) : Option Row :=
  Row.first? st.offered

/-- The tables with the mark `now` on a pending row of the given name. -/
def mark (st : Store) (id : MessageId) (now : Timestamp) : Store :=
  { st with
    rows := st.rows.map fun r =>
      if r.id = id ∧ r.message.isPending = true then
        { r with message := r.message.markProcessed now }
      else r }

/-- The tables after a failed attempt at `now` that left the message as `failed`: it is written into
its row, or moves to the dead letters. -/
def afterFailure (st : Store) (failed : QueuedMessage) (now : Timestamp) : Store :=
  if isExhausted failed.retryCount failed.maxRetries then st.bury ⟨failed, now⟩
  else st.updateRow failed

variable {st : Store} {r : Row}

/-- Nothing is claimed exactly if every claimable row is locked. -/
theorem next?_eq_none_iff :
    st.next? = none ↔ ∀ r ∈ st.rows, r.message.isClaimable = true → st.isLocked r.id = true := by
  simp [next?, Row.first?_eq_none_iff, offered]

theorem of_next? (next : st.next? = some r) :
    r ∈ st.rows ∧ r.message.isClaimable = true ∧ st.isLocked r.id = false := by
  obtain ⟨stored, free⟩ := List.mem_filter.mp (Row.mem_of_first? next)
  simp only [Bool.and_eq_true, Bool.not_eq_true'] at free
  exact ⟨stored, free⟩

/-- A mark changes no names. -/
theorem id_mark (id : MessageId) (now : Timestamp) (r : Row) :
    Row.id (if r.id = id ∧ r.message.isPending = true then
      { r with message := r.message.markProcessed now } else r) = r.id := by
  split <;> rfl

theorem row?_mark (st : Store) (id : MessageId) (now : Timestamp) (x : MessageId) :
    (st.mark id now).row? x = (st.row? x).map fun r =>
      if r.id = id ∧ r.message.isPending = true then
        { r with message := r.message.markProcessed now }
      else r := by
  simp only [row?, mark, List.find?_map]
  congr 2
  funext r
  simp only [Function.comp_apply, id_mark]

/-- A mark moves no message. -/
theorem messages_mark (st : Store) (id : MessageId) (now : Timestamp) :
    (st.mark id now).messages = st.messages.map fun m =>
      if m.id = id ∧ m.isPending = true then m.markProcessed now else m := by
  rw [messages, mark, Row.sort_map, messages, List.map_map, List.map_map]
  · exact List.map_congr_left fun r _ => apply_ite Row.message _ _ _
  · intro r
    split <;> rfl
  · intro r
    split <;> rfl

theorem nextSeq_foldl_pushRow (ms : List QueuedMessage) (st : Store) :
    (ms.foldl pushRow st).nextSeq = st.nextSeq + ms.length := by
  induction ms generalizing st with
  | nil => rfl
  | cons m rest ih =>
      have pushed : (st.pushRow m).nextSeq = st.nextSeq + 1 := rfl
      rw [List.foldl_cons, ih, pushed, List.length_cons]
      omega

theorem deadLetters_foldl_updateRow (ms : List QueuedMessage) (st : Store) :
    (ms.foldl updateRow st).deadLetters = st.deadLetters := by
  induction ms generalizing st with
  | nil => rfl
  | cons m rest ih => rw [List.foldl_cons, ih, updateRow]

theorem deadLetters_foldl_pushRow (ms : List QueuedMessage) (st : Store) :
    (ms.foldl pushRow st).deadLetters = st.deadLetters := by
  induction ms generalizing st with
  | nil => rfl
  | cons m rest ih => rw [List.foldl_cons, ih, pushRow]

theorem deadLetters_foldl_bury (ds : List DeadLetter) (st st' : Store)
    (same : st.deadLetters = st'.deadLetters) :
    (ds.foldl bury st).deadLetters = (ds.foldl bury st').deadLetters := by
  induction ds generalizing st st' with
  | nil => exact same
  | cons d rest ih => exact ih _ _ (by rw [bury, bury, same])

end Store

namespace Changes

/-- Locks have nothing to do with it. -/
theorem Coherent.of_rows {c : Changes} {st st' : Store} (coherent : c.Coherent st)
    (same : st.rows = st'.rows) : c.Coherent st' :=
  ⟨fun m hm => (congrArg (·.find? (·.id = m.id)) same).symm.trans (coherent.new m hm),
    coherent.inserted, coherent.updated⟩

/-- Changed rows change nothing but rows. -/
theorem apply_update (c : Changes) (m : QueuedMessage) (st : Store) :
    (c.update m).apply st = { c.apply st with rows := ((c.update m).apply st).rows } := by
  have letters : ((c.update m).apply st).deadLetters = (c.apply st).deadLetters := by
    refine Store.deadLetters_foldl_bury _ _ _ ?_
    rw [Store.deadLetters_foldl_pushRow, Store.deadLetters_foldl_updateRow,
      Store.deadLetters_foldl_pushRow, Store.deadLetters_foldl_updateRow]
  have number : ((c.update m).apply st).nextSeq = (c.apply st).nextSeq := by
    rw [apply, Store.nextSeq_foldl_bury, Store.nextSeq_foldl_pushRow,
      Store.nextSeq_foldl_updateRow, apply, Store.nextSeq_foldl_bury,
      Store.nextSeq_foldl_pushRow, Store.nextSeq_foldl_updateRow]
    rfl
  have locked : ((c.update m).apply st).locked = (c.apply st).locked :=
    (locked_apply _ _).trans (locked_apply _ _).symm
  show (c.update m).apply st = ⟨(c.apply st).nextSeq, _, (c.apply st).deadLetters,
    (c.apply st).locked⟩
  rw [← letters, ← number, ← locked]

end Changes

namespace Tx

variable {tx tx' : Tx} {st st' : Store} {row : Row} {id : MessageId}

/-! ## The claim -/

/-- A new transaction sees the rows as they are. -/
theorem claimableRows_new (tidy : st.Tidy) : ({} : Tx).claimableRows st = st.offered := by
  have rows : ({} : Tx).committedRows st = st.rows := by
    rw [committedRows_eq tidy (Changes.Coherent.empty st)]
    simp
  rw [claimableRows, rows]
  simp [Store.offered, lockedElsewhere, holds]

theorem claimNext_new_none (tidy : st.Tidy) (next : st.next? = none) :
    ({} : Tx).claimNext st = .ok (none, st, {}) := by
  rw [Store.next?] at next
  rw [claimNext, claimableRows_new tidy, next]
  rfl

/-- **The claim of a new transaction** locks the row that is next. -/
theorem claimNext_new_some (tidy : st.Tidy) (next : st.next? = some row) :
    ({} : Tx).claimNext st = .ok (some row.message, st.lock row.id, { locks := [row.id] }) := by
  have free : row.id ∉ st.locked := of_decide_eq_false (Store.of_next? next).2.2
  have got : ({} : Tx).acquire st row.id = .ok (st.lock row.id, { locks := [row.id] }) :=
    acquire_eq_ok_iff.mpr (Or.inr ⟨List.not_mem_nil, free, rfl, rfl⟩)
  rw [Store.next?] at next
  rw [claimNext, claimableRows_new tidy, next]
  dsimp only
  rw [got]
  rfl

/-! ## The mark -/

/-- A committed row after the commit, as the transaction sees it before. -/
theorem row?_apply (tidy : st.Tidy) (coherent : tx.changes.Coherent st)
    (found : st.row? id = some row) :
    (tx.changes.apply st).row? id = (tx.committedView st id).map fun m => ⟨row.seq, m⟩ := by
  have hrow := Store.mem_of_row? found
  have named := Store.id_of_row? found
  have rows := rows_apply tidy coherent
  cases seen : tx.committedView st id with
  | some m =>
      have there : (⟨row.seq, m⟩ : Row) ∈ (tx.changes.apply st).rows := by
        rw [rows]
        refine List.mem_append_left _ (List.mem_filterMap.mpr ⟨row, hrow, ?_⟩)
        rw [named, seen]
        rfl
      have stored := Store.row?_of_mem (tidy.apply tx.changes).rows there
      rwa [Row.id, id_of_committedView seen] at stored
  | none =>
      refine Store.row?_eq_none_iff.mpr fun there => ?_
      obtain ⟨r, hr, same⟩ := List.mem_map.mp there
      rw [rows] at hr
      rcases List.mem_append.mp hr with old | new
      · obtain ⟨stored, -, view⟩ := List.mem_filterMap.mp old
        obtain ⟨m, seen', rfl⟩ := Option.map_eq_some_iff.mp view
        have other : stored.id = id := (id_of_committedView seen').symm.trans same
        rw [other, seen] at seen'
        cases seen'
      · -- new messages have other names
        have own := (List.mem_filter.mp new).1
        rw [ownRows_eq_numbered] at own
        have none' := coherent.new r.message (Row.message_of_numbered own)
        have taken : st.row? r.message.id = some row := by rwa [← same] at found
        rw [taken] at none'
        cases none'

/-- **The mark after the other changes.** -/
theorem apply_update_markProcessed (tidy : st.Tidy) (coherent : tx.changes.Coherent st)
    (hrow : row ∈ st.rows) {m : QueuedMessage} (seen : tx.committedView st row.id = some m)
    (pending : m.isPending = true) (now : Timestamp) :
    (tx.changes.update (m.markProcessed now)).apply st =
      (tx.changes.apply st).mark row.id now := by
  let tx' : Tx := { tx with changes := tx.changes.update (m.markProcessed now) }
  let m' : QueuedMessage := m.markProcessed now
  have view : ∀ x, tx'.committedView st x =
      if x = row.id then some m' else tx.committedView st x :=
    fun x => committedView_update rfl seen (show m'.id = m.id from rfl) x
  have coherent' : tx'.changes.Coherent st := coherent.update m'
  have name := id_of_committedView seen
  have rows : (tx'.changes.apply st).rows = ((tx.changes.apply st).mark row.id now).rows := by
    rw [Store.mark, rows_apply tidy coherent', rows_apply tidy coherent,
      List.map_append]
    congr 1
    · rw [committedRows, committedRows, List.map_filterMap]
      refine List.filterMap_congr fun r _ => ?_
      rw [view, Option.map_map]
      by_cases here : r.id = row.id
      · rw [if_pos here, here, seen]
        have marked : (⟨r.seq, m⟩ : Row).id = row.id ∧ m.isPending = true := ⟨name, pending⟩
        exact congrArg some (if_pos marked).symm
      · rw [if_neg here]
        refine Option.map_congr fun m' seen' => ?_
        exact (if_neg fun marked => here ((id_of_committedView seen').symm.trans marked.1)).symm
    · -- a new message has another name
      refine (List.map_congr_left fun r hr => if_neg ?_).trans (List.map_id _) |>.symm
      intro marked
      have own := (List.mem_filter.mp hr).1
      rw [ownRows_eq_numbered] at own
      have new := coherent.new r.message (Row.message_of_numbered own)
      have same : r.message.id = row.id := marked.1
      exact Store.row?_eq_none_iff.mp new (same ▸ List.mem_map_of_mem hrow)
  rw [Changes.apply_update, rows]
  rfl

/-- Where nothing is pending there is nothing to mark. -/
theorem mark_apply_of_settled (tidy : st.Tidy) (coherent : tx.changes.Coherent st)
    (found : st.row? id = some row)
    (settled : ∀ m, tx.committedView st id = some m → m.isPending = false) (now : Timestamp) :
    (tx.changes.apply st).mark id now = tx.changes.apply st := by
  have same : ∀ r ∈ (tx.changes.apply st).rows,
      (if r.id = id ∧ r.message.isPending = true then
        { r with message := r.message.markProcessed now } else r) = r := by
    intro r hr
    refine if_neg fun ⟨named, pending⟩ => ?_
    have stored := row?_apply tidy coherent found
    rw [← named, Store.row?_of_mem (tidy.apply tx.changes).rows hr] at stored
    obtain ⟨m, seen, rfl⟩ := Option.map_eq_some_iff.mp stored.symm
    rw [settled m (named ▸ seen)] at pending
    cases pending
  rw [Store.mark, List.map_congr_left same, List.map_id']

/-- **A mark under the lock** is granted, and adds the mark to what the commit writes. -/
theorem markProcessed_of_locked (tidy : st.Tidy) (coherent : tx.changes.Coherent st)
    (hrow : row ∈ st.rows) (rows : st'.rows = st.rows) (held : row.id ∈ tx.locks)
    (now : Timestamp) :
    ∃ tx', tx.markProcessed st' now row.id = .ok (st', tx') ∧
      tx'.changes.apply st = (tx.changes.apply st).mark row.id now := by
  have found := Store.row?_of_mem tidy.rows hrow
  have notOwn : tx.changes.inserted? row.id = none := by
    rw [Changes.inserted?_eq_none_iff]
    intro there
    obtain ⟨m, hm, same⟩ := List.mem_map.mp there
    have new := coherent.new m hm
    rw [same, found] at new
    cases new
  rw [markProcessed, notOwn, committedView_of_rows tx rows]
  dsimp only
  cases seen : tx.committedView st row.id with
  | none =>
      refine ⟨tx, rfl, (mark_apply_of_settled tidy coherent found ?_ now).symm⟩
      rw [seen]
      rintro m ⟨⟩
  | some m =>
      dsimp only
      cases pending : m.isPending with
      | false =>
          refine ⟨tx, rfl, (mark_apply_of_settled tidy coherent found ?_ now).symm⟩
          rw [seen]
          rintro m' ⟨⟩
          exact pending
      | true =>
          have got : tx.acquire st' row.id = .ok (st', tx) :=
            acquire_eq_ok_iff.mpr (Or.inl ⟨held, rfl, rfl⟩)
          rw [got]
          exact ⟨{ tx with changes := tx.changes.update (m.markProcessed now) }, rfl,
            apply_update_markProcessed tidy coherent hrow seen pending now⟩

/-! ## The count -/

/-- **A count under the lock**, in a transaction whose changes were undone: the row is written, or
it moves to the dead letters. -/
theorem incrementRetry_of_locked (tidy : st.Tidy) (hrow : row ∈ st.rows)
    (rows : st'.rows = st.rows) (held : row.id ∈ tx.locks) (nothing : tx.changes = {})
    (pending : row.message.isPending = true) (room : row.message.countIsFull = false)
    (now : Timestamp) (error : String) :
    ∃ tx', tx.incrementRetry st' now row.id error =
        .ok (some (row.message.afterFailure error).retryOutcome, st', tx') ∧
      tx'.changes.apply st = st.afterFailure (row.message.afterFailure error) now := by
  have unnamed : row.id ∉ tx.changes.names := by
    rw [nothing]
    exact List.not_mem_nil
  obtain ⟨notOwn, seen⟩ := committedView_of_unnamed st unnamed
  have stored : st.message? row.id = some row.message := by
    rw [Store.message?, Store.row?_of_mem tidy.rows hrow]
    rfl
  have got : tx.acquire st' row.id = .ok (st', tx) :=
    acquire_eq_ok_iff.mpr (Or.inl ⟨held, rfl, rfl⟩)
  rw [incrementRetry, notOwn, committedView_of_rows tx rows, seen, stored, Option.filter_some,
    if_pos pending, QueuedMessage.retryOutcome, Store.afterFailure]
  dsimp only
  rw [got]
  simp only [bind, Except.bind, pure, Except.pure, room, Bool.false_eq_true, if_false]
  -- the budget decides
  split
  · exact ⟨_, rfl, by rw [nothing]; rfl⟩
  · exact ⟨_, rfl, by rw [nothing]; rfl⟩

/-! ## The other requests -/

/-- A mark changes what the transaction sees of a committed message only by the mark. -/
theorem committedView_markProcessed {now : Timestamp} {x : MessageId}
    (done : tx.markProcessed st now x = .ok (st', tx')) :
    tx'.committedView st' id = tx.committedView st id ∨
      ∃ m, tx.committedView st id = some m ∧ m.isPending = true ∧
        tx'.committedView st' id = some (m.markProcessed now) := by
  have rows : st'.rows = st.rows := by rw [(markProcessed_moves done).tables]
  rw [committedView_of_rows tx' rows]
  unfold markProcessed at done
  cases own : tx.changes.inserted? x with
  | some m =>
      -- a message of its own is not a committed one
      simp only [own] at done
      split at done <;> cases done <;> exact Or.inl rfl
  | none =>
      simp only [own] at done
      cases seen : tx.committedView st x with
      | none =>
          simp only [seen] at done
          cases done
          exact Or.inl rfl
      | some m =>
          simp only [seen] at done
          split at done
          · next pending =>
              cases got : tx.acquire st x with
              | error e =>
                  rw [got] at done
                  cases done
              | ok p =>
                  rw [got] at done
                  cases done
                  let m' : QueuedMessage := m.markProcessed now
                  have same : p.2.changes.update m' = tx.changes.update m' := by
                    rw [(acquire_changes got).1]
                  have view : Tx.committedView { p.2 with changes := p.2.changes.update m' } st id =
                      if id = x then some m' else tx.committedView st id :=
                    committedView_update same seen (show m'.id = m.id from rfl) id
                  by_cases here : id = x
                  · subst here
                    rw [if_pos rfl] at view
                    exact Or.inr ⟨m, seen, pending, view⟩
                  · rw [if_neg here] at view
                    exact Or.inl view
          · cases done
            exact Or.inl rfl

/-- A count does not touch what the transaction sees of other committed messages. -/
theorem committedView_incrementRetry {now : Timestamp} {x : MessageId} {error : String}
    {outcome? : Option RetryOutcome}
    (done : tx.incrementRetry st now x error = .ok (outcome?, st', tx'))
    (other : id ≠ x) : tx'.committedView st' id = tx.committedView st id := by
  have rows : st'.rows = st.rows := by rw [(incrementRetry_moves done).tables]
  rw [committedView_of_rows tx' rows]
  unfold incrementRetry at done
  cases own : tx.changes.inserted? x with
  | some m =>
      have named : m.id ≠ id := fun same => other (same.symm.trans (Changes.id_of_inserted? own))
      simp only [own] at done
      split at done
      · cases done
      · split at done
        · cases done
          rfl
        split at done <;> cases done
        · have notThis : (⟨m.afterFailure error, now⟩ : DeadLetter).id ≠ id := named
          simp [committedView, Changes.isDeadLettered, Changes.updated?, notThis]
        · rfl
  | none =>
      simp only [own] at done
      cases seen : (tx.committedView st x).filter (·.isPending) with
      | none =>
          rw [seen] at done
          cases done
      | some m =>
          have view := (Option.filter_eq_some_iff.mp seen).1
          rw [seen] at done
          dsimp only at done
          cases got : tx.acquire st x with
          | error e =>
              rw [got] at done
              cases done
          | ok p =>
              rw [got] at done
              simp only [bind, Except.bind, pure, Except.pure] at done
              let m' : QueuedMessage := m.afterFailure error
              have name : m.id = x := id_of_committedView view
              split at done
              · cases done
                rw [committedView, committedView, (acquire_changes got).1]
              split at done <;> cases done
              · have same : p.2.changes.bury ⟨m', now⟩ = tx.changes.bury ⟨m', now⟩ := by
                  rw [(acquire_changes got).1]
                refine (committedView_bury same id).trans (if_neg ?_)
                exact fun here => other (here.trans name)
              · have same : p.2.changes.update m' = tx.changes.update m' := by
                  rw [(acquire_changes got).1]
                exact (committedView_update same view (show m'.id = m.id from rfl) id).trans
                  (if_neg other)

/-- **What a transaction sees of a committed message** changes by a mark only, if no failure is
counted on it and nothing is undone. -/
theorem committedView_request {now : Timestamp} {r : TxRequest} {answer? : Option r.Answer}
    (done : tx.request st now r = .ok (answer?, st', tx'))
    (uncounted : ∀ error, r ≠ .incrementRetry id error) (stays : r ≠ .rollbackToSavepoint) :
    tx'.committedView st' id = tx.committedView st id ∨
      ∃ m, tx.committedView st id = some m ∧ m.isPending = true ∧
        tx'.committedView st' id = some (m.markProcessed now) := by
  have rows : st'.rows = st.rows := by rw [(request_moves done).tables]
  cases r with
  | add m =>
      rw [request] at done
      cases added : tx.add st m with
      | error e =>
          rw [added] at done
          cases done
      | ok after =>
          rw [added] at done
          cases done
          rw [(add_eq_ok_iff.mp added).2]
          exact Or.inl rfl
  | claimNext =>
      obtain ⟨m?, -, claimed⟩ := request_claimNext done
      rw [committedView_of_rows tx' rows, committedView, claimNext_changes claimed]
      exact Or.inl rfl
  | markProcessed x =>
      rw [request] at done
      cases marked : tx.markProcessed st now x with
      | error e =>
          rw [marked] at done
          cases done
      | ok after =>
          rw [marked] at done
          cases done
          exact committedView_markProcessed marked
  | incrementRetry x error =>
      refine Or.inl (committedView_incrementRetry done ?_)
      rintro rfl
      exact uncounted error rfl
  | savepoint =>
      cases done
      exact Or.inl rfl
  | rollbackToSavepoint => exact absurd rfl stays
  | releaseSavepoint =>
      rw [request, releaseSavepoint] at done
      split at done <;> cases done
      exact Or.inl rfl

end Tx

end MaintenanceOutbox
