import MaintenanceOutbox.Proofs.Store.Attempt

set_option autoImplicit false

/-! # A queue behind the other rows

Messages that were created at the same time are delivered in the order in which they were put into
the table. If nothing else is claimable and nothing is locked, a store is then a queue
(`Store.Queues`): a claim hands out the message that is first (`Store.Queues.claimNext_cons`), and
with the mark on it the rest is a queue (`Store.Queues.mark`).
-/

namespace MaintenanceOutbox

namespace Row

/-- A row is first if none of the others comes before it. -/
theorem first?_cons {r : Row} {rest : List Row} (behind : ∀ s ∈ rest, s.before r = false) :
    first? (r :: rest) = some r := by
  rw [first?]
  cases found : first? rest with
  | none => rfl
  | some s =>
      have later := behind s (mem_of_first? found)
      simp [later]

/-- Of rows that were created together, the one with the smaller number comes first. -/
theorem before_eq_false {r s : Row} (together : s.message.createdAt = r.message.createdAt)
    (order : r.seq < s.seq) : s.before r = false := by
  have never : ¬ r.message.createdAt < r.message.createdAt := Int.lt_irrefl _
  have later : ¬ s.seq < r.seq := Nat.lt_asymm order
  simp [before, deliveredBefore, together, never, later]

theorem le_seq_of_mem_numbered {n : Nat} {ms : List QueuedMessage} {r : Row}
    (h : r ∈ numbered n ms) : n ≤ r.seq := by
  induction ms generalizing n with
  | nil => cases h
  | cons m rest ih =>
      rcases List.mem_cons.mp h with rfl | later
      · exact Nat.le_refl n
      · exact Nat.le_of_succ_le (ih later)

end Row

/-- If nothing is locked, all claimable rows are offered. -/
theorem Store.offered_of_unlocked {st : Store} (unlocked : st.locked = []) :
    st.offered = st.rows.filter (·.message.isClaimable) := by
  simp [offered, isLocked, unlocked]

namespace Tx

variable {st : Store}

/-- A transaction that holds the lock of a pending message and changed nothing, marks it. -/
theorem markProcessed_of_held {tx : Tx} {m : QueuedMessage} (nothing : tx.changes = {})
    (held : m.id ∈ tx.locks) (stored : st.message? m.id = some m) (pending : m.isPending = true)
    (now : Timestamp) :
    tx.markProcessed st now m.id =
      .ok (st, { tx with changes := { updated := [m.markProcessed now] } }) := by
  have unnamed : m.id ∉ tx.changes.names := by
    rw [nothing]
    exact List.not_mem_nil
  obtain ⟨notOwn, seen⟩ := committedView_of_unnamed st unnamed
  have got : tx.acquire st m.id = .ok (st, tx) := acquire_eq_ok_iff.mpr (Or.inl ⟨held, rfl, rfl⟩)
  rw [markProcessed, notOwn, seen, stored]
  dsimp only
  rw [if_pos pending, got]
  show Except.ok (st, { tx with changes := tx.changes.update (m.markProcessed now) }) = _
  rw [nothing]
  rfl

end Tx

/-- **The store is a queue** of the messages `ms`, which were created together and put into the
table one after the other, the first one with the number `n`. The rows of `idle` stand in front of
them and are not claimable. -/
structure Store.Queues (st : Store) (idle : List Row) (n : Nat) (ms : List QueuedMessage) :
    Prop where
  tidy : st.Tidy
  unlocked : st.locked = []
  rows : st.rows = idle ++ Row.numbered n ms
  others : ∀ r ∈ idle, r.message.isClaimable = false
  claimable : ∀ m ∈ ms, m.isClaimable = true
  together : ∀ m ∈ ms, ∀ m' ∈ ms, m'.createdAt = m.createdAt

namespace Store.Queues

variable {st : Store} {idle : List Row} {n : Nat} {m : QueuedMessage} {ms : List QueuedMessage}

/-- What is claimable is the queue. -/
theorem filter_rows (queue : st.Queues idle n ms) :
    st.rows.filter (·.message.isClaimable) = Row.numbered n ms := by
  have none : idle.filter (·.message.isClaimable) = [] :=
    List.filter_eq_nil_iff.mpr fun r hr => ne_true_of_eq_false (queue.others r hr)
  have all : (Row.numbered n ms).filter (·.message.isClaimable) = Row.numbered n ms :=
    List.filter_eq_self.mpr fun r hr => queue.claimable r.message (Row.message_of_numbered hr)
  rw [queue.rows, List.filter_append, none, all]
  rfl

/-- From an empty queue nothing is claimed. -/
theorem claimNext_nil (queue : st.Queues idle n []) :
    ({} : Tx).claimNext st = .ok (none, st, {}) := by
  refine Tx.claimNext_new_none queue.tidy ?_
  rw [next?, offered_of_unlocked queue.unlocked, queue.filter_rows]
  rfl

/-- **A claim hands out the first message of the queue.** -/
theorem claimNext_cons (queue : st.Queues idle n (m :: ms)) :
    ({} : Tx).claimNext st = .ok (some m, st.lock m.id, { locks := [m.id] }) := by
  have first : st.next? = some ⟨n, m⟩ := by
    rw [next?, offered_of_unlocked queue.unlocked, queue.filter_rows]
    refine Row.first?_cons fun s hs => Row.before_eq_false ?_ (Row.le_seq_of_mem_numbered hs)
    exact queue.together m List.mem_cons_self s.message
      (List.mem_cons_of_mem m (Row.message_of_numbered hs))
  exact Tx.claimNext_new_some queue.tidy first

theorem mem_first (queue : st.Queues idle n (m :: ms)) : (⟨n, m⟩ : Row) ∈ st.rows := by
  rw [queue.rows]
  exact List.mem_append_right idle List.mem_cons_self

/-- The mark goes into the first row of the queue. -/
theorem rows_mark (queue : st.Queues idle n (m :: ms)) (now : Timestamp) :
    (st.updateRow (m.markProcessed now)).rows =
      idle ++ ⟨n, m.markProcessed now⟩ :: Row.numbered (n + 1) ms := by
  have distinct := queue.tidy.rows
  rw [queue.rows, List.map_append, List.nodup_append] at distinct
  obtain ⟨-, behind, apart⟩ := distinct
  let write : Row → Row := fun r =>
    if r.id = (m.markProcessed now).id then { r with message := m.markProcessed now } else r
  have front : idle.map write = idle := by
    refine (List.map_congr_left fun r hr => if_neg fun same => ?_).trans idle.map_id
    exact apart r.id (List.mem_map_of_mem hr) m.id List.mem_cons_self same
  have back : (Row.numbered (n + 1) ms).map write = Row.numbered (n + 1) ms := by
    refine (List.map_congr_left fun r hr => if_neg fun same => ?_).trans (List.map_id _)
    exact (List.nodup_cons.mp behind).1 (List.mem_map.mpr ⟨r, hr, same⟩)
  have first : write ⟨n, m⟩ = ⟨n, m.markProcessed now⟩ := if_pos rfl
  calc (st.updateRow (m.markProcessed now)).rows
      = (idle ++ ⟨n, m⟩ :: Row.numbered (n + 1) ms).map write := by
        rw [updateRow, queue.rows]
        rfl
    _ = idle ++ ⟨n, m.markProcessed now⟩ :: Row.numbered (n + 1) ms := by
        rw [List.map_append, List.map_cons, front, first, back]

/-- **With the mark on the first message, the rest is the queue.** -/
theorem mark (queue : st.Queues idle n (m :: ms)) (now : Timestamp) :
    (st.updateRow (m.markProcessed now)).Queues (idle ++ [⟨n, m.markProcessed now⟩]) (n + 1)
      ms := by
  refine ⟨queue.tidy.updateRow _, queue.unlocked, ?_, ?_,
    fun m' hm' => queue.claimable m' (List.mem_cons_of_mem m hm'),
    fun m₁ h₁ m₂ h₂ => queue.together m₁ (List.mem_cons_of_mem m h₁) m₂ (List.mem_cons_of_mem m h₂)⟩
  · rw [queue.rows_mark now, List.append_assoc]
    rfl
  · intro r hr
    rcases List.mem_append.mp hr with before | this
    · exact queue.others r before
    · rw [List.mem_singleton.mp this]
      rfl

end Store.Queues

end MaintenanceOutbox
