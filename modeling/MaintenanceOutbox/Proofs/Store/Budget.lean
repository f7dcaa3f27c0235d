import MaintenanceOutbox.Proofs.Message.Truncation
import MaintenanceOutbox.Proofs.Store.Exclusion

set_option autoImplicit false

/-! # Every message has its budget

Delivery of a message is tried `maxRetries` times. The count of failures and the budget decide
together what becomes of a message, so that two things could go wrong. A row whose budget is used up
is neither offered to a worker nor listed as a dead letter, it would be stranded; and a count that
is not below some budget could be full, so that the next call breaks off.

Neither happens if the messages that are given to `add` are claimable. Then every message outside of
the dead letters has attempts left (`QueuedMessage.HasAttempts`), wherever it is, and every dead
letter has used up exactly its budget (`DeadLetter.Spent`). An attempt keeps the one or leads to the
other, and a return into the queue leads back (`QueuedMessage.lasting_budget`).
-/

namespace MaintenanceOutbox

/-! ## Budgets of single messages -/

/-- Attempts are left to the message. -/
def QueuedMessage.HasAttempts (m : QueuedMessage) : Prop :=
  m.retryCount < m.maxRetries

/-- **The dead letter used up its budget**: it was not delivered, all its attempts failed, and of
the last failure no more is kept than there is room for. -/
structure DeadLetter.Spent (d : DeadLetter) : Prop where
  undelivered : d.message.processedAt = none
  exact : d.message.retryCount = d.message.maxRetries
  tried : 0 < d.message.maxRetries
  error : ∃ e, d.message.lastError = some e ∧ e.length ≤ 2000

/-- A count below some budget has room. -/
theorem toNat_add_one_of_lt {count budget : UInt32} (left : count < budget) :
    (count + 1).toNat = count.toNat + 1 := by
  have below : count.toNat < budget.toNat := UInt32.lt_iff_toNat_lt.mp left
  have bounded : budget.toNat < 2 ^ 32 := budget.toNat_lt
  rw [UInt32.toNat_add, UInt32.toNat_one]
  omega

/-- What is kept of an error is short. -/
theorem length_truncateError_le (error : String) : (truncateError error).length ≤ 2000 := by
  rw [truncateError, Text.length_keepChars]
  exact Nat.min_le_left _ _

namespace QueuedMessage

variable {m : QueuedMessage}

theorem isClaimable_iff : m.isClaimable = true ↔ m.isPending = true ∧ m.HasAttempts := by
  simp [isClaimable, isExhausted, HasAttempts]

/-- A new message is claimable. -/
theorem isClaimable_fresh (id : MessageId) (now : Timestamp) (eventType : String) (payload : Json) :
    (fresh id now eventType payload).isClaimable = true := rfl

/-- Every budget grants an attempt. -/
theorem atLeastOne_pos (budget : UInt32) : 0 < atLeastOne budget := by
  unfold atLeastOne
  split
  · decide
  · next granted => exact UInt32.pos_iff_ne_zero.mpr granted

/-- A new message is claimable with every budget. -/
theorem isClaimable_withMaxRetries (id : MessageId) (now : Timestamp) (eventType : String)
    (payload : Json) (budget : UInt32) :
    ((fresh id now eventType payload).withMaxRetries budget).isClaimable = true :=
  isClaimable_iff.mpr ⟨rfl, atLeastOne_pos budget⟩

/-- The next failure of a message with attempts left stays within the budget. -/
theorem HasAttempts.toNat_succ_le (left : m.HasAttempts) :
    m.retryCount.toNat + 1 ≤ m.maxRetries.toNat :=
  UInt32.lt_iff_toNat_lt.mp left

theorem HasAttempts.countIsFull (left : m.HasAttempts) : m.countIsFull = false := by
  have within := left.toNat_succ_le
  have bounded : m.maxRetries.toNat < 2 ^ 32 := m.maxRetries.toNat_lt
  refine decide_eq_false fun full => ?_
  have count : m.retryCount.toNat = 4294967295 := congrArg UInt32.toNat full
  omega

/-- The attempt that uses up the budget is the last one in it. -/
theorem HasAttempts.exact_of_isExhausted (left : m.HasAttempts)
    (spent : isExhausted (m.retryCount + 1) m.maxRetries = true) :
    m.retryCount + 1 = m.maxRetries := by
  have reached : m.maxRetries.toNat ≤ (m.retryCount + 1).toNat := by
    simpa [isExhausted, UInt32.le_iff_toNat_le] using spent
  apply UInt32.toNat_inj.mp
  have count := toNat_add_one_of_lt left
  have within := left.toNat_succ_le
  omega

/-- **Budgets last.** -/
theorem lasting_budget : Lasting HasAttempts DeadLetter.Spent where
  progress {m m'} left _ progress := by
    cases progress with
    | delivered now => exact left
    | failed error room more =>
        have notYet : ¬ m.maxRetries ≤ m.retryCount + 1 := of_decide_eq_false more
        exact UInt32.not_le.mp notYet
  death {m d} left pending death := by
    cases death with
    | failed error now room spent =>
        have tried : 0 < m.maxRetries :=
          UInt32.lt_iff_toNat_lt.mpr (Nat.zero_lt_of_lt left.toNat_succ_le)
        exact ⟨Option.isNone_iff_eq_none.mp pending, left.exact_of_isExhausted spent, tried,
          truncateError error, rfl, length_truncateError_le error⟩
  requeued spent := spent.tried

end QueuedMessage

/-! ## Rows are not stranded -/

/-- **The row is not stranded**: it has attempts left, and it is offered to every transaction that
has not changed it and finds it unlocked. A claim of that transaction does not come back empty. -/
structure Store.Offers (st : Store) (r : Row) : Prop where
  left : r.message.retryCount < r.message.maxRetries
  claimable : r.message.isClaimable = true
  offered : ∀ tx : Tx, r.id ∉ tx.changes.names → tx.lockedElsewhere st r.id = false →
    r ∈ tx.claimableRows st
  claimed : ∀ tx : Tx, r.id ∉ tx.changes.names → tx.lockedElsewhere st r.id = false →
    ∃ m after, tx.claimNext st = .ok (some m, after)

theorem Store.offers_of_hasAttempts {st : Store} (tidy : st.Tidy) {r : Row} (hr : r ∈ st.rows)
    (pending : r.message.isPending = true) (left : r.message.HasAttempts) : st.Offers r := by
  have claimable := QueuedMessage.isClaimable_iff.mpr ⟨pending, left⟩
  have offered : ∀ tx : Tx, r.id ∉ tx.changes.names → tx.lockedElsewhere st r.id = false →
      r ∈ tx.claimableRows st := by
    intro tx unnamed free
    have seen : tx.committedView st r.id = some r.message := by
      rw [(Tx.committedView_of_unnamed st unnamed).2, Store.message?,
        Store.row?_of_mem tidy.rows hr]
      rfl
    exact Tx.mem_claimableRows.mpr ⟨⟨r, hr, rfl, rfl⟩, seen, claimable, free⟩
  refine ⟨left, claimable, offered, ?_⟩
  intro tx unnamed free
  have here := offered tx unnamed free
  rcases Tx.claimNext_cases tx st with ⟨-, empty⟩ | ⟨m, -, own⟩ | ⟨s, -, st', tx', -, committed⟩
  · rw [empty] at here
    cases here
  · exact ⟨m, _, own⟩
  · exact ⟨s.message, _, committed⟩

namespace System

/-- **The dead letter may be put back**: that is not refused, and what is put back is a row that is
not stranded. -/
def Returns (s : System) (i : StoreId) (d : DeadLetter) : Prop :=
  ∃ s', s.requeue i d.id = (.ok d.requeued, s') ∧
    ∃ r ∈ (s'.store i).rows, r.message = d.requeued ∧ (s'.store i).Offers r

/-- **Counting stays within the budget** in a transaction on store `i`: the next failure of any
message that it sees does, and a count that is not refused does not break off and is that failure,
which is the last one if and only if the budget is used up with it. -/
structure CountsWithin (s : System) (i : StoreId) (t : OpenTx) : Prop where
  room : ∀ id m, t.tx.sees? (s.store i) id = some m →
    m.retryCount.toNat + 1 ≤ m.maxRetries.toNat ∧ m.retryCount.toNat + 1 < UInt32.size
  counted : ∀ now id error outcome?,
    (s.request now i t.handle (.incrementRetry id error)).1 = .ok outcome? →
      ∃ m outcome, t.tx.sees? (s.store i) id = some m ∧ outcome? = some outcome ∧
        outcome.retryCount.toNat = m.retryCount.toNat + 1 ∧ outcome.retryCount ≤ m.maxRetries ∧
          (outcome.isDeadLettered = true ↔ outcome.retryCount = m.maxRetries)

variable {s : System} {i : StoreId}

/-- To put a dead letter back is never refused. -/
theorem requeue_eq {d : DeadLetter} (found : (s.store i).deadLetter? d.id = some d) :
    ∃ st, (s.store i).requeue d.id = .ok (d.requeued, st) ∧
      s.requeue i d.id = (.ok d.requeued, s.setStore i st) := by
  cases done : (s.store i).requeue d.id with
  | error e =>
      rw [Store.requeue, found] at done
      cases done
  | ok p =>
      obtain ⟨m, st⟩ := p
      obtain ⟨e, found', same, -⟩ := Store.requeue_cases done
      cases found.symm.trans found'
      subst same
      exact ⟨st, rfl, by rw [requeue, done]⟩

theorem returns_of_spent (tidy : (s.store i).Tidy) (hi : i.index < s.stores.length)
    {d : DeadLetter} (hd : d ∈ (s.store i).deadLetters) (spent : d.Spent) : s.Returns i d := by
  have found : (s.store i).deadLetter? d.id = some d :=
    Store.deadLetter?_of_mem tidy.deadLetters hd
  obtain ⟨st, done, answer⟩ := requeue_eq found
  obtain ⟨d', found', -, -, rows, -⟩ := Store.requeue_cases done
  cases found.symm.trans found'
  -- the row that is put back, with the next number
  have back : st.row? d.id = some ⟨(s.store i).nextSeq, d.requeued⟩ := by
    rw [rows, if_pos rfl]
  have stored : (s.setStore i st).store i = st := store_setStore_self hi st
  refine ⟨s.setStore i st, answer, ⟨(s.store i).nextSeq, d.requeued⟩, ?_, rfl, ?_⟩
  · rw [stored]
    exact Store.mem_of_row? back
  · rw [stored]
    exact Store.offers_of_hasAttempts (tidy.requeue done) (Store.mem_of_row? back) rfl
      (QueuedMessage.lasting_budget.requeued spent)

theorem countsWithin_of_everywhere
    (inv : (s.view i).Everywhere QueuedMessage.HasAttempts DeadLetter.Spent)
    (distinct : s.Distinct) {t : OpenTx} (ht : t ∈ s.openOn i) : s.CountsWithin i t := by
  have opened := view_tx_of_mem distinct ht
  have left : ∀ id m, t.tx.sees? (s.store i) id = some m → m.HasAttempts := fun id m seen =>
    Tx.of_sees? seen inv.rows (inv.kept t.handle t.tx opened t.tx.changes t.tx.keeps_changes)
  refine ⟨?_, ?_⟩
  · intro id m seen
    have within := (left id m seen).toNat_succ_le
    exact ⟨within, Nat.lt_of_le_of_lt within m.maxRetries.toNat_lt_size⟩
  · intro now id error outcome? answer
    rw [request_answer (open?_of_mem distinct (mem_openOn.mp ht).1) (mem_openOn.mp ht).2] at answer
    cases got : t.tx.request (s.store i) now (.incrementRetry id error) with
    | error e =>
        rw [got] at answer
        cases answer
    | ok p =>
        rw [got] at answer
        cases answer
        obtain ⟨outcome?, after⟩ := p
        obtain ⟨m, seen, -, counted⟩ := Tx.incrementRetry_answer got
        have attempts := left id m seen
        have exactly := toNat_add_one_of_lt attempts
        have within := attempts.toNat_succ_le
        rw [QueuedMessage.countAnswer, attempts.countIsFull] at counted
        obtain ⟨count, dead⟩ := (m.afterFailure error).retryOutcome_eq
        have count' : (m.afterFailure error).retryCount = m.retryCount + 1 := rfl
        have budget : (m.afterFailure error).maxRetries = m.maxRetries := rfl
        refine ⟨m, _, seen, counted, ?_, ?_, ?_⟩
        · rw [count, count', exactly]
        · rw [count, count', UInt32.le_iff_toNat_le]
          omega
        · rw [count, dead, count', budget]
          constructor
          · exact attempts.exact_of_isExhausted
          · intro reached
            simp [isExhausted, reached]

/-- **No row is stranded and budgets are exact.** New messages are claimable, with every budget. If
all messages that are given to `add` on a store are, then after every run: every pending row has
attempts left and is offered as soon as it is unlocked; every dead letter used up exactly its
budget, and may be put back as a row that is offered again; and counting stays within the budgets,
so that no count is ever full. -/
theorem budget_run {n : Nat} (hi : i.index < n) {calls : List Call}
    (claimable : ∀ m ∈ Call.added i calls, m.isPending = true ∧ m.retryCount < m.maxRetries) :
    let s := (ofSize n).run calls
    (∀ id now eventType payload budget,
      (QueuedMessage.fresh id now eventType payload).isClaimable = true ∧
        ((QueuedMessage.fresh id now eventType payload).withMaxRetries budget).isClaimable = true) ∧
      (∀ r ∈ (s.store i).rows, r.message.isPending = true → (s.store i).Offers r) ∧
        (∀ d ∈ (s.store i).deadLetters, d.Spent ∧ s.Returns i d) ∧
          ∀ t ∈ s.openOn i, s.CountsWithin i t := by
  intro s
  have inv : (s.view i).Everywhere QueuedMessage.HasAttempts DeadLetter.Spent :=
    everywhere_run hi QueuedMessage.lasting_budget calls fun m hm => (claimable m hm).2
  have distinct : s.Distinct := distinct_run (orderly_ofSize n) List.nodup_nil calls
  have hi' : i.index < s.stores.length := index_lt_run hi calls
  have tidy : (s.store i).Tidy := tidy_run hi calls
  refine ⟨?_, ?_, ?_, fun t ht => countsWithin_of_everywhere inv distinct ht⟩
  · intro id now eventType payload budget
    exact ⟨QueuedMessage.isClaimable_fresh id now eventType payload,
      QueuedMessage.isClaimable_withMaxRetries id now eventType payload budget⟩
  · intro r hr pending
    have found := Store.row?_of_mem tidy.rows hr
    exact Store.offers_of_hasAttempts tidy hr pending (inv.rows r.id r found)
  · intro d hd
    have spent := inv.deadLetters d.id d (Store.deadLetter?_of_mem tidy.deadLetters hd)
    exact ⟨spent, returns_of_spent tidy hi' hd spent⟩

/-- A run in which one message uses up its only attempt, another one waits, and a transaction is
open. -/
def worn : List Call :=
  let once := (QueuedMessage.fresh default default "ping" .null).withMaxRetries 1
  [.beginTx ⟨0⟩, .request default ⟨0⟩ ⟨0⟩ (.add once),
    .request default ⟨0⟩ ⟨0⟩ (.add (.fresh ⟨.ofNat 1⟩ default "pong" .null)), .commit ⟨0⟩ ⟨0⟩,
    .beginTx ⟨0⟩, .request default ⟨0⟩ ⟨1⟩ (.incrementRetry default "down"), .commit ⟨0⟩ ⟨1⟩,
    .beginTx ⟨0⟩]

/-- After `worn`, the second message is offered, the first may be put back, and the open transaction
counts within budgets. -/
theorem budget_run_worn :
    ∃ r ∈ (((ofSize 1).run worn).store ⟨0⟩).rows, r.id = ⟨.ofNat 1⟩ ∧
      (((ofSize 1).run worn).store ⟨0⟩).Offers r ∧
        ∃ d ∈ (((ofSize 1).run worn).store ⟨0⟩).deadLetters, d.id = default ∧ d.Spent ∧
          ((ofSize 1).run worn).Returns ⟨0⟩ d ∧
            ∃ t ∈ ((ofSize 1).run worn).openOn ⟨0⟩, ((ofSize 1).run worn).CountsWithin ⟨0⟩ t := by
  have claimable : ∀ m ∈ Call.added ⟨0⟩ worn, m.isPending = true ∧ m.retryCount < m.maxRetries := by
    decide
  obtain ⟨-, rows, dead, txs⟩ := budget_run (n := 1) (i := ⟨0⟩) (by decide) claimable
  have waiting : (⟨1, .fresh ⟨.ofNat 1⟩ default "pong" .null⟩ : Row) ∈
      (((ofSize 1).run worn).store ⟨0⟩).rows := List.mem_cons_self
  have spent : (⟨((QueuedMessage.fresh default default "ping" .null).withMaxRetries 1).afterFailure
      "down", default⟩ : DeadLetter) ∈ (((ofSize 1).run worn).store ⟨0⟩).deadLetters :=
    List.mem_cons_self
  have opened : (⟨⟨2⟩, ⟨0⟩, {}⟩ : OpenTx) ∈ ((ofSize 1).run worn).openOn ⟨0⟩ := List.mem_cons_self
  exact ⟨_, waiting, rfl, rows _ waiting rfl, _, spent, rfl, (dead _ spent).1, (dead _ spent).2, _,
    opened, txs _ opened⟩

end System

end MaintenanceOutbox
