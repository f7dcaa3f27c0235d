import MaintenanceOutbox.Proofs.Store.Budget
import MaintenanceOutbox.Proofs.Store.Sight
import Mathlib.Algebra.Order.BigOperators.Group.List
import Mathlib.Algebra.Order.Group.Nat
import Mathlib.Algebra.Ring.Nat

set_option autoImplicit false

/-! # How much is left to deliver

Every pending message has some attempts left, and each attempt takes one of them or settles the
message. So the attempts that are left to the rows of a store (`Store.attemptsLeft`) go down with
every delivery.

A transaction that adds nothing and does not return to a savepoint can only go on with the rows that
are there: mark them, count failures on them, or bury them (`Tx.GoesOn`). What its commit makes of
the tables is `Store.GoesOn`: pending rows have gone on, or are dead letters, and everything else is
as it was.
-/

namespace MaintenanceOutbox

/-! ## Messages -/

namespace QueuedMessage

/-- The attempts that are left to a message. A delivered message needs none. -/
def attemptsLeft (m : QueuedMessage) : Nat :=
  if m.isPending then m.maxRetries.toNat - m.retryCount.toNat else 0

/-- **The message went on** from `m` to `m'`: a delivered message stays as it is, and a pending one
with attempts left lost none but those that were made. -/
structure GoesOn (m m' : QueuedMessage) : Prop where
  id_eq : m'.id = m.id
  final : m.isPending = false → m' = m
  budget : m'.isPending = true → m'.maxRetries = m.maxRetries ∧ m.retryCount ≤ m'.retryCount
  left : m.HasAttempts → m'.HasAttempts

namespace GoesOn

variable {m m' m'' : QueuedMessage}

theorem refl (m : QueuedMessage) : m.GoesOn m :=
  ⟨rfl, fun _ => rfl, fun _ => ⟨rfl, UInt32.le_refl _⟩, fun left => left⟩

/-- What is still pending was so before. -/
theorem isPending (on : m.GoesOn m') (pending : m'.isPending = true) : m.isPending = true := by
  cases before : m.isPending with
  | true => rfl
  | false => rw [← on.final before, pending] at before; exact absurd before (by decide)

theorem trans (first : m.GoesOn m') (second : m'.GoesOn m'') : m.GoesOn m'' := by
  refine ⟨second.id_eq.trans first.id_eq, ?_, ?_, second.left ∘ first.left⟩
  · intro delivered
    have same := first.final delivered
    rw [← same]
    exact second.final (same ▸ delivered)
  · intro pending
    obtain ⟨budget, counts⟩ := second.budget pending
    obtain ⟨budget', counts'⟩ := first.budget (second.isPending pending)
    exact ⟨budget.trans budget', UInt32.le_trans counts' counts⟩

theorem attemptsLeft_le (on : m.GoesOn m') : m'.attemptsLeft ≤ m.attemptsLeft := by
  unfold attemptsLeft
  by_cases pending : m'.isPending = true
  · obtain ⟨budget, counts⟩ := on.budget pending
    have counts' := UInt32.le_iff_toNat_le.mp counts
    rw [if_pos pending, if_pos (on.isPending pending), budget]
    omega
  · rw [if_neg pending]
    exact Nat.zero_le _

/-- An attempt goes on with the message, and takes one of those that were left. -/
theorem of_progress (pending : m.isPending = true) (left : m.HasAttempts)
    (progress : m.Progress m') : m.GoesOn m' ∧ m'.attemptsLeft < m.attemptsLeft := by
  have within := left.toNat_succ_le
  cases progress with
  | delivered now =>
      refine ⟨⟨rfl, fun delivered => ?_, fun again => ?_, fun left => left⟩, ?_⟩
      · rw [pending] at delivered
        cases delivered
      · cases again
      · rw [attemptsLeft, attemptsLeft, if_pos pending]
        show 0 < _
        omega
  | failed error room more =>
      have count : (m.retryCount + 1).toNat = m.retryCount.toNat + 1 := toNat_add_one_of_lt left
      have notYet : ¬ m.maxRetries ≤ m.retryCount + 1 := of_decide_eq_false more
      refine ⟨⟨rfl, fun delivered => ?_, fun _ => ⟨rfl, ?_⟩, fun _ => UInt32.not_le.mp notYet⟩, ?_⟩
      · rw [pending] at delivered
        cases delivered
      · show m.retryCount ≤ m.retryCount + 1
        rw [UInt32.le_iff_toNat_le]
        omega
      · have waits : (m.afterFailure error).isPending = true := pending
        rw [attemptsLeft, attemptsLeft, if_pos pending, if_pos waits]
        show m.maxRetries.toNat - (m.retryCount + 1).toNat < _
        omega

end GoesOn

end QueuedMessage

/-! ## Tables -/

namespace Store

/-- The attempts that are left to the rows. -/
def attemptsLeft (st : Store) : Nat :=
  (st.rows.map (·.message.attemptsLeft)).sum

/-- **The store went on** from `st` to `st'`: the pending rows went on or are dead letters, and
nothing else is different. -/
structure GoesOn (st st' : Store) : Prop where
  row : ∀ id r, st.row? id = some r →
    (∃ m, st'.row? id = some ⟨r.seq, m⟩ ∧ r.message.GoesOn m) ∨
      r.message.isPending = true ∧ st'.row? id = none ∧ ∃ d, st'.deadLetter? id = some d
  other : ∀ id, st.row? id = none →
    st'.row? id = none ∧ st'.deadLetter? id = st.deadLetter? id

namespace GoesOn

variable {st st' st'' : Store}

theorem refl (st : Store) : st.GoesOn st :=
  ⟨fun _ r found => Or.inl ⟨r.message, found, .refl _⟩, fun _ none => ⟨none, rfl⟩⟩

theorem trans (first : st.GoesOn st') (second : st'.GoesOn st'') : st.GoesOn st'' := by
  refine ⟨?_, ?_⟩
  · intro id r found
    rcases first.row id r found with ⟨m, found', on⟩ | ⟨pending, gone, d, dead⟩
    · rcases second.row id _ found' with ⟨m', found'', on'⟩ | ⟨pending, gone, dead⟩
      · exact Or.inl ⟨m', found'', on.trans on'⟩
      · exact Or.inr ⟨on.isPending pending, gone, dead⟩
    · obtain ⟨gone', same⟩ := second.other id gone
      exact Or.inr ⟨pending, gone', d, same.trans dead⟩
  · intro id none
    obtain ⟨none', same⟩ := first.other id none
    obtain ⟨none'', same'⟩ := second.other id none'
    exact ⟨none'', same'.trans same⟩

end GoesOn

/-- **A store on which nobody works, ready for delivery**: no row is locked, no message is in both
tables, and every pending row has attempts left. -/
structure Ready (st : Store) : Prop where
  tidy : st.Tidy
  unlocked : st.locked = []
  apart : ∀ id, st.row? id = none ∨ st.deadLetter? id = none
  left : ∀ r ∈ st.rows, r.message.isPending = true → r.message.HasAttempts

end Store

/-! ## Transactions -/

namespace Changes

/-- What is found under a name among the changed messages after one more change. -/
theorem updated?_update (c : Changes) (m : QueuedMessage) (id : MessageId) :
    (c.update m).updated? id = if m.id = id then some m else c.updated? id := by
  rw [updated?, update, List.find?_append, Store.find?_filter_ne QueuedMessage.id]
  split
  · next same => simp [same]
  · next other => simp [other, updated?]

/-- A burial changes what is found under the name of the dead letter only. -/
theorem updated?_bury (c : Changes) (d : DeadLetter) {id : MessageId} (other : d.id ≠ id) :
    (c.bury d).updated? id = c.updated? id := by
  rw [updated?, bury, Store.find?_filter_ne QueuedMessage.id, if_neg other, updated?]

theorem isDeadLettered_bury (c : Changes) (d : DeadLetter) (id : MessageId) :
    (c.bury d).isDeadLettered id = (c.isDeadLettered id || decide (d.id = id)) := by
  simp [isDeadLettered, bury]

end Changes

/-- **The transaction goes on with the rows that are there**: it added nothing, and every row that
it changed was pending and went on, or is buried. -/
structure Tx.GoesOn (tx : Tx) (st : Store) : Prop where
  inserted : tx.changes.inserted = []
  names : (tx.changes.updated.map (·.id)).Nodup
  seen : ∀ r ∈ st.rows, (∃ m, tx.committedView st r.id = some m ∧ r.message.GoesOn m) ∨
    tx.committedView st r.id = none ∧ r.message.isPending = true
  stored : ∀ id, st.row? id = none → id ∉ tx.changes.names

namespace Tx

variable {tx tx' : Tx} {st st' : Store} {r : TxRequest}

/-- What the transaction sees does not depend on locks. -/
theorem committedView_of_rows (tx : Tx) (same : st'.rows = st.rows) (id : MessageId) :
    tx.committedView st' id = tx.committedView st id := by
  rw [committedView, committedView, Store.message?, Store.message?, Store.row?, Store.row?, same]

/-- A transaction without changes. -/
theorem goesOn_of_empty (tidy : st.Tidy) (nothing : tx.changes = {}) : tx.GoesOn st := by
  have unnamed : ∀ id, id ∉ tx.changes.names := by
    intro id
    rw [nothing]
    exact List.not_mem_nil
  refine ⟨by rw [nothing], by rw [nothing]; exact List.nodup_nil, ?_, fun id _ => unnamed id⟩
  intro r hr
  refine Or.inl ⟨r.message, ?_, .refl _⟩
  rw [(committedView_of_unnamed st (unnamed _)).2, Store.message?, Store.row?_of_mem tidy.rows hr]
  rfl

/-- A changed message, as the transaction sees it. -/
theorem committedView_update {id : MessageId} {m m' : QueuedMessage}
    (same : tx'.changes = tx.changes.update m') (seen : tx.committedView st id = some m)
    (name : m'.id = m.id) (x : MessageId) :
    tx'.committedView st x = if x = id then some m' else tx.committedView st x := by
  have named : m'.id = id := name.trans (id_of_committedView seen)
  have alive : tx.changes.isDeadLettered id = false := by
    rw [← Bool.not_eq_true, Changes.isDeadLettered_iff]
    exact (committedView_cases seen).1
  rw [committedView, same, Changes.updated?_update, named]
  by_cases here : x = id
  · subst here
    rw [if_pos rfl, if_pos rfl, show (tx.changes.update m').isDeadLettered x = false from alive]
    rfl
  · rw [if_neg here, if_neg (Ne.symm here)]
    rfl

/-- A buried message is not seen, and the others are seen as before. -/
theorem committedView_bury {d : DeadLetter} (same : tx'.changes = tx.changes.bury d)
    (x : MessageId) :
    tx'.committedView st x = if x = d.id then none else tx.committedView st x := by
  rw [committedView, same, Changes.isDeadLettered_bury]
  by_cases here : x = d.id
  · rw [if_pos here, decide_eq_true here.symm, Bool.or_true]
    rfl
  · rw [if_neg here, decide_eq_false (Ne.symm here), Bool.or_false,
      Changes.updated?_bury _ _ (Ne.symm here)]
    rfl

end Tx

/-- A request that neither adds a message nor has to do with the savepoint. -/
def TxRequest.Plain : TxRequest → Prop
  | .claimNext => True
  | .markProcessed _ => True
  | .incrementRetry _ _ => True
  | .add _ => False
  | .savepoint => False
  | .rollbackToSavepoint => False
  | .releaseSavepoint => False

/-- A request that has nothing to do with the savepoint. -/
def TxRequest.LeavesSavepoint : TxRequest → Prop
  | .savepoint => False
  | .rollbackToSavepoint => False
  | .releaseSavepoint => False
  | _ => True

theorem TxRequest.Plain.leavesSavepoint {r : TxRequest} (plain : r.Plain) :
    r.LeavesSavepoint := by
  cases r with
  | add | claimNext | markProcessed | incrementRetry => trivial
  | savepoint | rollbackToSavepoint | releaseSavepoint => exact plain

namespace Tx

variable {tx tx' : Tx} {st st' : Store} {r : TxRequest}

/-- A transaction that went on with the rows sees nothing but rows. -/
theorem GoesOn.row_of_seen (on : tx.GoesOn st) {id : MessageId} {m : QueuedMessage}
    (seen : tx.committedView st id = some m) :
    ∃ row, st.row? id = some row ∧ row.message.GoesOn m := by
  cases found : st.row? id with
  | none =>
      have message : st.message? id = none := by rw [Store.message?, found]; rfl
      rw [(committedView_of_unnamed st (on.stored id found)).2, message] at seen
      cases seen
  | some row =>
      have name := Store.id_of_row? found
      rcases on.seen row (Store.mem_of_row? found) with ⟨m', seen', went⟩ | ⟨gone, -⟩
      · rw [name, seen] at seen'
        cases seen'
        exact ⟨row, rfl, went⟩
      · rw [name, seen] at gone
        cases gone

/-- **Its counts are written**: what it sees as pending has attempts left, as the rows have. -/
theorem GoesOn.request_ne (on : tx.GoesOn st)
    (left : ∀ row ∈ st.rows, row.message.isPending = true → row.message.HasAttempts)
    {now : Timestamp} {p : Store × Tx} : tx.request st now r ≠ .ok (none, p) := by
  intro broken
  obtain ⟨id, error, m, -, seen, pending, full⟩ := request_breaksOff broken
  have notOwn : tx.changes.inserted? id = none := by
    rw [Changes.inserted?_eq_none_iff, on.inserted]
    exact List.not_mem_nil
  rw [sees?, notOwn, Option.none_or] at seen
  obtain ⟨row, found, went⟩ := on.row_of_seen seen
  have attempts := went.left (left row (Store.mem_of_row? found) (went.isPending pending))
  rw [attempts.countIsFull] at full
  cases full

/-- Locks are not part of what is said. -/
theorem GoesOn.of_rows (on : tx.GoesOn st) (same : st'.rows = st.rows) : tx.GoesOn st' := by
  refine ⟨on.inserted, on.names, ?_, ?_⟩
  · intro row hrow
    rw [committedView_of_rows tx same]
    exact on.seen row (same ▸ hrow)
  · intro id none
    rw [Store.row?, same] at none
    exact on.stored id none

theorem GoesOn.of_changes (on : tx.GoesOn st) (same : tx'.changes = tx.changes) :
    tx'.GoesOn st := by
  refine ⟨by rw [same]; exact on.inserted, by rw [same]; exact on.names, ?_,
    fun id none => by rw [same]; exact on.stored id none⟩
  intro row hrow
  have view : tx'.committedView st row.id = tx.committedView st row.id := by
    rw [committedView, committedView, same]
  rw [view]
  exact on.seen row hrow

/-- An attempt at delivery goes on with a row. -/
theorem GoesOn.update (on : tx.GoesOn st) {id : MessageId} {m m' : QueuedMessage}
    (left : ∀ row ∈ st.rows, row.message.isPending = true → row.message.HasAttempts)
    (seen : tx.committedView st id = some m) (pending : m.isPending = true)
    (progress : m.Progress m') (same : tx'.changes = tx.changes.update m') : tx'.GoesOn st := by
  obtain ⟨stored, found, went⟩ := on.row_of_seen seen
  have attempts := went.left (left stored (Store.mem_of_row? found) (went.isPending pending))
  have further := (QueuedMessage.GoesOn.of_progress pending attempts progress).1
  refine ⟨by rw [same]; exact on.inserted, ?_, ?_, ?_⟩
  · rw [same]
    exact Store.nodup_filter_ne_append QueuedMessage.id m' on.names
  · intro row hrow
    rw [committedView_update same seen progress.id_eq]
    by_cases here : row.id = id
    · rw [if_pos here]
      rcases on.seen row hrow with ⟨m₀, seen₀, went₀⟩ | ⟨gone, -⟩
      · rw [here, seen] at seen₀
        cases seen₀
        exact Or.inl ⟨m', rfl, went₀.trans further⟩
      · rw [here, seen] at gone
        cases gone
    · rw [if_neg here]
      exact on.seen row hrow
  · intro x none
    have unnamed := on.stored x none
    rw [Changes.mem_names, not_or, not_or] at unnamed
    have other : x ≠ m'.id := by
      rw [progress.id_eq, id_of_committedView seen]
      rintro rfl
      rw [found] at none
      cases none
    rw [same, Changes.mem_names, not_or, not_or]
    refine ⟨unnamed.1, ?_, unnamed.2.2⟩
    rw [Changes.update, List.map_append, List.mem_append, not_or]
    exact ⟨fun old => unnamed.2.1 ((List.filter_sublist.map _).subset old),
      fun new => other (List.mem_singleton.mp new)⟩

/-- A burial goes on with a row, too. -/
theorem GoesOn.bury (on : tx.GoesOn st) {id : MessageId} {m : QueuedMessage} {d : DeadLetter}
    (seen : tx.committedView st id = some m) (pending : m.isPending = true) (death : m.Death d)
    (same : tx'.changes = tx.changes.bury d) : tx'.GoesOn st := by
  obtain ⟨stored, found, went⟩ := on.row_of_seen seen
  have name : d.id = id := death.id_eq.trans (id_of_committedView seen)
  refine ⟨by rw [same]; exact on.inserted, ?_, ?_, ?_⟩
  · rw [same]
    exact on.names.sublist (List.filter_sublist.map _)
  · intro row hrow
    rw [committedView_bury same]
    by_cases here : row.id = d.id
    · rw [if_pos here]
      rcases on.seen row hrow with ⟨m₀, seen₀, went₀⟩ | ⟨gone, -⟩
      · rw [here, name, seen] at seen₀
        cases seen₀
        exact Or.inr ⟨rfl, went₀.isPending pending⟩
      · rw [here, name, seen] at gone
        cases gone
    · rw [if_neg here]
      exact on.seen row hrow
  · intro x none
    have unnamed := on.stored x none
    rw [Changes.mem_names, not_or, not_or] at unnamed
    have other : x ≠ d.id := by
      rw [name]
      rintro rfl
      rw [found] at none
      cases none
    rw [same, Changes.mem_names, not_or, not_or]
    refine ⟨unnamed.1, fun old => unnamed.2.1 ((List.filter_sublist.map _).subset old), ?_⟩
    rw [Changes.bury, List.map_append, List.mem_append, not_or]
    exact ⟨unnamed.2.2, fun new => other (List.mem_singleton.mp new)⟩

/-- A plain request goes on with the rows. -/
theorem Moves.goesOn (h : tx.Moves st r st' tx') (plain : r.Plain) (on : tx.GoesOn st)
    (left : ∀ row ∈ st.rows, row.message.isPending = true → row.message.HasAttempts) :
    tx'.GoesOn st' := by
  have rows : st'.rows = st.rows := by rw [h.tables]
  suffices here : tx'.GoesOn st from here.of_rows rows
  have notOwn : ∀ {id m}, tx.changes.inserted? id ≠ some m := by
    intro id m own
    have new := Changes.mem_of_inserted? own
    rw [on.inserted] at new
    cases new
  cases h with
  | stays => exact on
  | adds | setsSavepoint | returns | forgets => exact plain.elim
  | takesLock r id₀ m₀ st' tx' seen pending got => exact on.of_changes (acquire_changes got).1
  | rewritesOwn r id m m' own pending progress => exact absurd own notOwn
  | buriesOwn r id m d own pending death => exact absurd own notOwn
  | rewrites r id m m' st' tx₁ _ seen pending got progress =>
      exact on.update left seen pending progress (by rw [(acquire_changes got).1])
  | buries r id m d st' tx₁ _ seen pending got death =>
      exact on.bury seen pending death (by rw [(acquire_changes got).1])

/-- Such a request leaves the savepoint as it is. -/
theorem Moves.savepoint_eq (h : tx.Moves st r st' tx') (leaves : r.LeavesSavepoint) :
    tx'.savepoint = tx.savepoint := by
  refine h.savepoint_stays ?_ ?_
  · rintro rfl
    exact leaves
  · rintro rfl
    exact leaves

/-- **The mark** under a lock is granted; after it the message does not wait any more, whatever the
transaction did with it before. -/
theorem GoesOn.mark (on : tx.GoesOn st) {id : MessageId} (held : id ∈ tx.locks) (now : Timestamp)
    (left : ∀ row ∈ st.rows, row.message.isPending = true → row.message.HasAttempts) :
    ∃ tx', tx.markProcessed st now id = .ok (st, tx') ∧ tx'.GoesOn st ∧
      ∀ m, tx'.committedView st id = some m → m.isPending = false := by
  have notOwn : tx.changes.inserted? id = none := by
    rw [Changes.inserted?_eq_none_iff, on.inserted]
    exact List.not_mem_nil
  rw [markProcessed, notOwn]
  dsimp only
  cases seen : tx.committedView st id with
  | none =>
      refine ⟨tx, rfl, on, fun m here => ?_⟩
      rw [seen] at here
      cases here
  | some m =>
      dsimp only
      cases pending : m.isPending with
      | false =>
          refine ⟨tx, rfl, on, fun m' here => ?_⟩
          rw [seen] at here
          cases here
          exact pending
      | true =>
          have got : tx.acquire st id = .ok (st, tx) :=
            acquire_eq_ok_iff.mpr (Or.inl ⟨held, rfl, rfl⟩)
          have progress : m.Progress (m.markProcessed now) := .delivered now
          rw [got]
          refine ⟨{ tx with changes := tx.changes.update (m.markProcessed now) }, rfl,
            on.update left seen pending progress rfl, fun m' here => ?_⟩
          rw [committedView_update rfl seen progress.id_eq, if_pos rfl] at here
          cases here
          rfl

/-- **The count** under a lock is granted to a transaction without changes; it takes an attempt. -/
theorem count_of_empty (tidy : st.Tidy) (nothing : tx.changes = {}) {row : Row}
    (hrow : row ∈ st.rows) (held : row.id ∈ tx.locks) (pending : row.message.isPending = true)
    (left : ∀ row ∈ st.rows, row.message.isPending = true → row.message.HasAttempts)
    (now : Timestamp) (error : String) :
    ∃ outcome tx', tx.incrementRetry st now row.id error = .ok (some outcome, st, tx') ∧
      tx'.GoesOn st ∧ ((tx'.committedView st row.id).map (·.attemptsLeft)).getD 0 <
        row.message.attemptsLeft := by
  have on := goesOn_of_empty tidy nothing
  have attempts := left row hrow pending
  have notOwn : tx.changes.inserted? row.id = none := by
    rw [Changes.inserted?_eq_none_iff, nothing]
    exact List.not_mem_nil
  have seen : tx.committedView st row.id = some row.message := by
    have unnamed : row.id ∉ tx.changes.names := by
      rw [nothing]
      exact List.not_mem_nil
    rw [(committedView_of_unnamed st unnamed).2, Store.message?, Store.row?_of_mem tidy.rows hrow]
    rfl
  have got : tx.acquire st row.id = .ok (st, tx) := acquire_eq_ok_iff.mpr (Or.inl ⟨held, rfl, rfl⟩)
  rw [incrementRetry, notOwn, seen, Option.filter_some, if_pos pending]
  dsimp only
  rw [got]
  have room := attempts.countIsFull
  simp only [bind, Except.bind, pure, Except.pure, room, Bool.false_eq_true, if_false]
  -- the budget decides
  cases spent : isExhausted (row.message.afterFailure error).retryCount
      (row.message.afterFailure error).maxRetries with
  | true =>
      have death : row.message.Death ⟨row.message.afterFailure error, now⟩ :=
        .failed error now room spent
      refine ⟨_, { tx with changes := tx.changes.bury ⟨row.message.afterFailure error, now⟩ }, rfl,
        on.bury seen pending death rfl, ?_⟩
      have within := attempts.toNat_succ_le
      have named : row.id = (⟨row.message.afterFailure error, now⟩ : DeadLetter).id := rfl
      rw [committedView_bury rfl, if_pos named, QueuedMessage.attemptsLeft, if_pos pending]
      show 0 < _
      omega
  | false =>
      have progress : row.message.Progress (row.message.afterFailure error) :=
        .failed error room spent
      refine ⟨_, { tx with changes := tx.changes.update (row.message.afterFailure error) }, rfl,
        on.update left seen pending progress rfl, ?_⟩
      rw [committedView_update rfl seen progress.id_eq, if_pos rfl]
      exact (QueuedMessage.GoesOn.of_progress pending attempts progress).2

end Tx

/-! ## Commits -/

namespace Tx.GoesOn

variable {tx : Tx} {st : Store}

theorem coherent (on : tx.GoesOn st) : tx.changes.Coherent st := by
  refine ⟨?_, ?_, on.names⟩
  · intro m hm
    rw [on.inserted] at hm
    cases hm
  · rw [on.inserted]
    exact List.nodup_nil

/-- The commit writes the rows as the transaction sees them. -/
theorem rows_apply (on : tx.GoesOn st) (tidy : st.Tidy) :
    (tx.changes.apply st).rows = tx.committedRows st := by
  rw [Tx.rows_apply tidy on.coherent, ownRows, on.inserted]
  exact List.append_nil _

/-- **The commit goes on with the store.** -/
theorem apply (on : tx.GoesOn st) (tidy : st.Tidy) : st.GoesOn (tx.changes.apply st) := by
  have tidy' := tidy.apply tx.changes
  have rows := on.rows_apply tidy
  have mem : ∀ {row}, row ∈ (tx.changes.apply st).rows →
      ∃ old ∈ st.rows, tx.committedView st old.id = some row.message ∧ old.id = row.id := by
    intro row hrow
    rw [rows] at hrow
    obtain ⟨old, hold, view⟩ := List.mem_filterMap.mp hrow
    obtain ⟨m, seen, rfl⟩ := Option.map_eq_some_iff.mp view
    exact ⟨old, hold, seen, (id_of_committedView seen).symm⟩
  refine ⟨?_, ?_⟩
  · intro id r found
    have hr := Store.mem_of_row? found
    have name := Store.id_of_row? found
    rcases on.seen r hr with ⟨m, seen, went⟩ | ⟨gone, pending⟩
    · have there : (⟨r.seq, m⟩ : Row) ∈ (tx.changes.apply st).rows := by
        rw [rows]
        exact List.mem_filterMap.mpr ⟨r, hr, by rw [seen]; rfl⟩
      refine Or.inl ⟨m, ?_, went⟩
      rw [← name, ← id_of_committedView seen]
      exact Store.row?_of_mem tidy'.rows there
    · refine Or.inr ⟨pending, ?_, ?_⟩
      · rw [Store.row?_eq_none_iff]
        intro there
        obtain ⟨row, hrow, named⟩ := List.mem_map.mp there
        obtain ⟨old, hold, seen, same⟩ := mem hrow
        rw [same, named, ← name, gone] at seen
        cases seen
      · -- it is not seen, so that it is buried
        have buried : id ∈ tx.changes.deadLettered.map (·.id) := by
          by_contra alive
          rw [← name, ← Changes.isDeadLettered_iff, Bool.not_eq_true] at alive
          rw [committedView, alive, Store.message?, name, found] at gone
          cases changed : tx.changes.updated? id with
          | none =>
              rw [changed] at gone
              cases gone
          | some m =>
              rw [changed] at gone
              cases gone
        rcases Changes.deadLetter?_apply_cases tx.changes st id with ⟨-, alive⟩ | ⟨d, -, -, dead⟩
        · exact absurd buried alive
        · exact ⟨d, dead⟩
  · intro id none
    have unnamed := on.stored id none
    refine ⟨(Changes.row?_apply_frame st unnamed).trans none, ?_⟩
    rw [Changes.mem_names, not_or, not_or] at unnamed
    exact Changes.deadLetter?_apply_frame st unnamed.2.2

/-- The store is ready again. -/
theorem ready (on : tx.GoesOn st) (ready : st.Ready) : (tx.changes.apply st).Ready := by
  have went := on.apply ready.tidy
  have tidy' := ready.tidy.apply tx.changes
  refine ⟨tidy', (Changes.locked_apply _ _).trans ready.unlocked, ?_, ?_⟩
  · intro id
    cases found : st.row? id with
    | none =>
        obtain ⟨none', same⟩ := went.other id found
        exact Or.inl none'
    | some r =>
        rcases went.row id r found with ⟨m, found', -⟩ | ⟨-, gone, -⟩
        · refine Or.inr ?_
          have dead : st.deadLetter? id = none := (ready.apart id).resolve_left (by simp [found])
          have alive : id ∉ tx.changes.deadLettered.map (·.id) := by
            intro buried
            rw [Changes.row?_apply_buried st buried] at found'
            cases found'
          rw [Changes.deadLetter?_apply_frame st alive, dead]
        · exact Or.inl gone
  · intro row hrow pending
    rw [on.rows_apply ready.tidy] at hrow
    obtain ⟨old, hold, view⟩ := List.mem_filterMap.mp hrow
    obtain ⟨m, seen, rfl⟩ := Option.map_eq_some_iff.mp view
    rcases on.seen old hold with ⟨m', seen', went'⟩ | ⟨gone, -⟩
    · rw [seen] at seen'
      cases seen'
      exact went'.left (ready.left old hold (went'.isPending pending))
    · rw [seen] at gone
      cases gone

/-- What is left of the attempts, row by row. -/
theorem attemptsLeft_apply (on : tx.GoesOn st) (tidy : st.Tidy) :
    (tx.changes.apply st).attemptsLeft =
      (st.rows.map fun r => ((tx.committedView st r.id).map (·.attemptsLeft)).getD 0).sum := by
  rw [Store.attemptsLeft, on.rows_apply tidy, committedRows]
  induction st.rows with
  | nil => rfl
  | cons r rest ih =>
      rw [List.filterMap_cons, List.map_cons, List.sum_cons, ← ih]
      cases tx.committedView st r.id with
      | none => exact (Nat.zero_add _).symm
      | some m => rfl

/-- **Attempts were used up** if one row of them is left fewer attempts. -/
theorem attemptsLeft_lt (on : tx.GoesOn st) (tidy : st.Tidy) {r : Row} (hr : r ∈ st.rows)
    (fewer : ((tx.committedView st r.id).map (·.attemptsLeft)).getD 0 < r.message.attemptsLeft) :
    (tx.changes.apply st).attemptsLeft < st.attemptsLeft := by
  rw [on.attemptsLeft_apply tidy, Store.attemptsLeft]
  refine List.sum_lt_sum _ _ ?_ ⟨r, hr, fewer⟩
  intro row hrow
  rcases on.seen row hrow with ⟨m, seen, went⟩ | ⟨gone, -⟩
  · rw [seen]
    exact went.attemptsLeft_le
  · rw [gone]
    exact Nat.zero_le _

end Tx.GoesOn

end MaintenanceOutbox
