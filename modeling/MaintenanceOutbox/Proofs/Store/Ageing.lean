import MaintenanceOutbox.Proofs.Store.Counts
import MaintenanceOutbox.Proofs.Store.Order

set_option autoImplicit false

/-! # Rows age, and keep their turns

Attempts at delivery change a message, but neither its time of creation nor, in the tables, its
number. So a row keeps its turn while it ages (`Row.Ages.turn_eq`), whatever becomes of it, and a
row that may be claimed stays so until it is delivered or buried. The other way round, a row that
may be claimed could be claimed before, because counts do not decrease: attempts bring nothing back
(`QueuedMessage.Ages.claimable_before`).

A transaction that adds nothing and leaves the savepoint alone makes rows age and does nothing else
(`Tx.Ages.apply`), and so do the mark and the count of a delivery.
-/

namespace MaintenanceOutbox

/-! ## Messages -/

/-- **The message ages** from `m` to `m'`, by attempts at delivery that were made while it was
pending. -/
structure QueuedMessage.Ages (m m' : QueuedMessage) : Prop where
  origin_eq : m'.origin = m.origin
  final : m.isPending = false → m' = m
  counts : m.retryCount ≤ m'.retryCount
  left : m.HasAttempts → m'.HasAttempts

namespace QueuedMessage.Ages

variable {m m' m'' : QueuedMessage}

theorem refl (m : QueuedMessage) : m.Ages m :=
  ⟨rfl, fun _ => rfl, UInt32.le_refl _, fun left => left⟩

theorem id_eq (ages : m.Ages m') : m'.id = m.id :=
  congrArg Origin.id ages.origin_eq

theorem createdAt_eq (ages : m.Ages m') : m'.createdAt = m.createdAt :=
  congrArg Origin.createdAt ages.origin_eq

theorem maxRetries_eq (ages : m.Ages m') : m'.maxRetries = m.maxRetries :=
  congrArg Origin.maxRetries ages.origin_eq

/-- What is still pending was so before. -/
theorem isPending (ages : m.Ages m') (pending : m'.isPending = true) : m.isPending = true := by
  cases before : m.isPending with
  | true => rfl
  | false =>
      rw [ages.final before, before] at pending
      cases pending

theorem trans (first : m.Ages m') (second : m'.Ages m'') : m.Ages m'' := by
  refine ⟨second.origin_eq.trans first.origin_eq, fun delivered => ?_,
    UInt32.le_trans first.counts second.counts, second.left ∘ first.left⟩
  have same := first.final delivered
  rw [← same]
  exact second.final (same ▸ delivered)

theorem of_progress (pending : m.isPending = true) (progress : m.Progress m') : m.Ages m' := by
  refine ⟨progress.origin_eq, fun delivered => ?_, progress.retryCount_le, ?_⟩
  · rw [pending] at delivered
    cases delivered
  · cases progress with
    | delivered now => exact fun left => left
    | failed error room more => exact fun _ => UInt32.not_le.mp (of_decide_eq_false more)

/-- A message that may be claimed stays so until it is delivered. -/
theorem claimable_after (ages : m.Ages m') (claimable : m.isClaimable = true)
    (pending : m'.isPending = true) : m'.isClaimable = true :=
  isClaimable_iff.mpr ⟨pending, ages.left (isClaimable_iff.mp claimable).2⟩

/-- **A message that may be claimed could be claimed before.** -/
theorem claimable_before (ages : m.Ages m') (claimable : m'.isClaimable = true) :
    m.isClaimable = true := by
  obtain ⟨pending, left⟩ := isClaimable_iff.mp claimable
  rw [HasAttempts, ages.maxRetries_eq] at left
  exact isClaimable_iff.mpr ⟨ages.isPending pending, UInt32.lt_of_le_of_lt ages.counts left⟩

end QueuedMessage.Ages

/-! ## Rows -/

/-- **The row ages** with its message, in its place. -/
structure Row.Ages (r r' : Row) : Prop where
  seq_eq : r'.seq = r.seq
  message : r.message.Ages r'.message

namespace Row.Ages

variable {r r' r'' : Row}

theorem refl (r : Row) : r.Ages r :=
  ⟨rfl, .refl r.message⟩

theorem trans (first : r.Ages r') (second : r'.Ages r'') : r.Ages r'' :=
  ⟨second.seq_eq.trans first.seq_eq, first.message.trans second.message⟩

theorem id_eq (ages : r.Ages r') : r'.id = r.id :=
  ages.message.id_eq

/-- **A row keeps its turn.** -/
theorem turn_eq (ages : r.Ages r') : r'.turn = r.turn := by
  rw [turn, turn, ages.seq_eq, ages.message.createdAt_eq]

end Row.Ages

/-! ## Tables -/

namespace Store

/-- The message is a dead letter, and has no row. -/
def Buried (st : Store) (id : MessageId) : Prop :=
  st.row? id = none ∧ ∃ d, st.deadLetter? id = some d

/-- **The tables age**: rows age, or are buried, and there are no new ones. -/
structure Ages (st st' : Store) : Prop where
  before : ∀ r' ∈ st'.rows, ∃ r ∈ st.rows, r.Ages r'
  after : ∀ r ∈ st.rows, (∃ r' ∈ st'.rows, r.Ages r') ∨ st'.Buried r.id
  deadLetters : ∀ id d, st.deadLetter? id = some d → ∃ d', st'.deadLetter? id = some d'

namespace Ages

variable {st st' st'' : Store}

theorem refl (st : Store) : st.Ages st :=
  ⟨fun r hr => ⟨r, hr, .refl r⟩, fun r hr => Or.inl ⟨r, hr, .refl r⟩, fun _ d found => ⟨d, found⟩⟩

/-- No row comes back. -/
theorem row?_eq_none (ages : st.Ages st') {id : MessageId} (missing : st.row? id = none) :
    st'.row? id = none := by
  rw [row?_eq_none_iff] at missing ⊢
  intro there
  obtain ⟨r', hr', rfl⟩ := List.mem_map.mp there
  obtain ⟨r, hr, on⟩ := ages.before r' hr'
  exact missing (on.id_eq ▸ List.mem_map_of_mem hr)

/-- What is buried stays so. -/
theorem buried (ages : st.Ages st') {id : MessageId} (buried : st.Buried id) : st'.Buried id := by
  obtain ⟨missing, d, dead⟩ := buried
  exact ⟨ages.row?_eq_none missing, ages.deadLetters id d dead⟩

theorem trans (first : st.Ages st') (second : st'.Ages st'') : st.Ages st'' := by
  refine ⟨fun r'' hr'' => ?_, fun r hr => ?_, fun id d dead => ?_⟩
  · obtain ⟨r', hr', late⟩ := second.before r'' hr''
    obtain ⟨r, hr, early⟩ := first.before r' hr'
    exact ⟨r, hr, early.trans late⟩
  · rcases first.after r hr with ⟨r', hr', early⟩ | buried
    · rcases second.after r' hr' with ⟨r'', hr'', late⟩ | buried
      · exact Or.inl ⟨r'', hr'', early.trans late⟩
      · exact Or.inr (early.id_eq ▸ buried)
    · exact Or.inr (second.buried buried)
  · obtain ⟨d', dead'⟩ := first.deadLetters id d dead
    exact second.deadLetters id d' dead'

/-- Rows that age in their places. -/
theorem of_map {f : Row → Row} (each : ∀ r ∈ st.rows, r.Ages (f r)) :
    st.Ages { st with rows := st.rows.map f } := by
  refine ⟨fun r' hr' => ?_, fun r hr => Or.inl ⟨f r, List.mem_map_of_mem hr, each r hr⟩,
    fun _ d found => ⟨d, found⟩⟩
  obtain ⟨r, hr, rfl⟩ := List.mem_map.mp hr'
  exact ⟨r, hr, each r hr⟩

/-- A mark. -/
theorem mark (st : Store) (id : MessageId) (now : Timestamp) : st.Ages (st.mark id now) := by
  refine of_map fun r _ => ?_
  split
  · next marked => exact ⟨rfl, .of_progress marked.2 (.delivered now)⟩
  · exact .refl r

/-- A burial. -/
theorem bury (st : Store) (d : DeadLetter) : st.Ages (st.bury d) := by
  refine ⟨fun r' hr' => ⟨r', (List.mem_filter.mp hr').1, .refl r'⟩, fun r hr => ?_,
    fun id e found => ?_⟩
  · by_cases here : r.id = d.id
    · refine Or.inr ⟨?_, d, ?_⟩
      · rw [row?_bury, if_pos here.symm]
      · rw [deadLetter?_bury, if_pos here.symm]
    · exact Or.inl ⟨r, List.mem_filter.mpr ⟨hr, decide_eq_true here⟩, .refl r⟩
  · rw [deadLetter?_bury]
    split
    · exact ⟨d, rfl⟩
    · exact ⟨e, found⟩

/-- **The count of a failed attempt.** -/
theorem afterFailure (tidy : st.Tidy) {row : Row} (hrow : row ∈ st.rows)
    (pending : row.message.isPending = true) (room : row.message.countIsFull = false)
    (error : String) (now : Timestamp) :
    st.Ages (st.afterFailure (row.message.afterFailure error) now) := by
  rw [Store.afterFailure]
  split
  · exact bury st _
  · next more =>
      refine of_map fun r hr => ?_
      split
      · next here =>
          have same : r = row := List.inj_on_of_nodup_map tidy.rows hr hrow here
          rw [same]
          exact ⟨rfl, .of_progress pending (.failed error room (Bool.not_eq_true _ ▸ more))⟩
      · exact .refl r

end Ages

end Store

/-! ## Transactions -/

namespace Tx

variable {tx tx' : Tx} {st st' : Store} {r : TxRequest}

/-- **The transaction makes rows age**: it added nothing, and what it sees of a row comes from it by
attempts at delivery. -/
structure Ages (tx : Tx) (st : Store) : Prop where
  inserted : tx.changes.inserted = []
  seen : ∀ row ∈ st.rows, ∀ m, tx.committedView st row.id = some m → row.message.Ages m

theorem ages_of_empty (tidy : st.Tidy) (nothing : tx.changes = {}) : tx.Ages st := by
  refine ⟨by rw [nothing], fun row hrow m seen => ?_⟩
  have unnamed : row.id ∉ tx.changes.names := by
    rw [nothing]
    exact List.not_mem_nil
  rw [(committedView_of_unnamed st unnamed).2, Store.message?, Store.row?_of_mem tidy.rows hrow]
    at seen
  cases seen
  exact .refl row.message

/-- **Plain requests.** -/
theorem Moves.ages (h : tx.Moves st r st' tx') (plain : r.Plain) (ages : tx.Ages st) :
    tx'.Ages st' := by
  have rows : st'.rows = st.rows := by rw [h.tables]
  suffices here : tx'.changes.inserted = [] ∧
      ∀ row ∈ st.rows, ∀ m, tx'.committedView st row.id = some m → row.message.Ages m by
    refine ⟨here.1, fun row hrow m seen => ?_⟩
    rw [committedView_of_rows tx' rows] at seen
    exact here.2 row (rows ▸ hrow) m seen
  have notOwn : ∀ {id m}, tx.changes.inserted? id ≠ some m := by
    intro id m own
    have new := Changes.mem_of_inserted? own
    rw [ages.inserted] at new
    cases new
  cases h with
  | stays => exact ⟨ages.inserted, ages.seen⟩
  | adds | setsSavepoint | returns | forgets => exact plain.elim
  | takesLock r id₀ m₀ st' tx' seen pending got =>
      have same := (acquire_changes got).1
      refine ⟨by rw [same]; exact ages.inserted, fun row hrow m seen => ?_⟩
      rw [committedView, same] at seen
      exact ages.seen row hrow m seen
  | rewritesOwn r id m m' own => exact absurd own notOwn
  | buriesOwn r id m d own => exact absurd own notOwn
  | rewrites r id m m' st' tx₁ _ seen pending got progress =>
      have same := (acquire_changes got).1
      refine ⟨by rw [same]; exact ages.inserted, fun row hrow x view => ?_⟩
      rw [committedView_update (by rw [same]) seen progress.id_eq] at view
      split at view
      · next here =>
          cases view
          exact (ages.seen row hrow m (here ▸ seen)).trans (.of_progress pending progress)
      · exact ages.seen row hrow x view
  | buries r id m d st' tx₁ _ seen pending got death =>
      have same := (acquire_changes got).1
      have buried : tx₁.changes.bury d = tx.changes.bury d := by rw [same]
      have after : ∀ x, committedView { tx₁ with changes := tx₁.changes.bury d } st x =
          if x = d.id then none else tx.committedView st x := committedView_bury buried
      refine ⟨by rw [same]; exact ages.inserted, fun row hrow x view => ?_⟩
      rw [after] at view
      split at view
      · cases view
      · exact ages.seen row hrow x view

/-- **The commit makes the tables age.** -/
theorem Ages.apply (ages : tx.Ages st) (tidy : st.Tidy) (coherent : tx.changes.Coherent st) :
    st.Ages (tx.changes.apply st) := by
  have rows : (tx.changes.apply st).rows = tx.committedRows st := by
    rw [rows_apply tidy coherent, ownRows, ages.inserted]
    exact List.append_nil _
  refine ⟨fun r' hr' => ?_, fun r hr => ?_, fun id d dead => ?_⟩
  · rw [rows] at hr'
    obtain ⟨r, hr, view⟩ := List.mem_filterMap.mp hr'
    obtain ⟨m, seen, rfl⟩ := Option.map_eq_some_iff.mp view
    exact ⟨r, hr, rfl, ages.seen r hr m seen⟩
  · cases seen : tx.committedView st r.id with
    | some m =>
        refine Or.inl ⟨⟨r.seq, m⟩, ?_, rfl, ages.seen r hr m seen⟩
        rw [rows]
        exact List.mem_filterMap.mpr ⟨r, hr, by rw [seen]; rfl⟩
    | none =>
        -- a row that is not seen any more is buried
        have buried : r.id ∈ tx.changes.deadLettered.map (·.id) := by
          by_contra alive
          rw [← Changes.isDeadLettered_iff] at alive
          rw [committedView, if_neg alive, Store.message?, Store.row?_of_mem tidy.rows hr] at seen
          cases changed : tx.changes.updated? r.id <;> rw [changed] at seen <;> cases seen
        refine Or.inr ⟨Changes.row?_apply_buried st buried, ?_⟩
        rcases Changes.deadLetter?_apply_cases tx.changes st r.id with ⟨-, alive⟩ | ⟨d, -, -, dead⟩
        · exact absurd buried alive
        · exact ⟨d, dead⟩
  · rcases Changes.deadLetter?_apply_cases tx.changes st id with ⟨same, -⟩ | ⟨d', -, -, dead'⟩
    · exact ⟨d, same.trans dead⟩
    · exact ⟨d', dead'⟩

end Tx

end MaintenanceOutbox
