import MaintenanceOutbox.Proofs.Store.Exclusion
import MaintenanceOutbox.Proofs.Store.Order

set_option autoImplicit false

/-! # A claim takes the oldest message

A claim searches two lists, the committed rows as the transaction sees them and the messages that
it added itself, and compares what it finds. Together that is the first row of both lists
(`Tx.claimNext_answer`), where the own messages stand behind all others.

Which row that is does not depend on how the lists are searched. `Tx.Sees` says what a transaction
sees without looking at the order of anything, and `Tx.Candidate` which of that it may be handed.
In every state that a store reaches, no two rows that are seen have the same number, so that one
candidate is the oldest; the claim answers it (`System.claims_oldest`).
-/

namespace MaintenanceOutbox

namespace Tx

variable {tx tx' : Tx} {st st' : Store} {r s : Row}

/-! ## What a transaction sees -/

/-- **What a transaction sees**: committed messages as they are or as it changed them, without those
that it buried, and behind them the messages that it added. -/
inductive Sees (tx : Tx) (st : Store) : Row → Prop where
  | stored (r : Row) (here : r ∈ st.rows) (alive : ∀ d ∈ tx.changes.deadLettered, d.id ≠ r.id)
      (unchanged : ∀ m ∈ tx.changes.updated, m.id ≠ r.id) : Sees tx st r
  | changed (r : Row) (m : QueuedMessage) (here : r ∈ st.rows)
      (alive : ∀ d ∈ tx.changes.deadLettered, d.id ≠ r.id) (written : m ∈ tx.changes.updated)
      (name : m.id = r.id) : Sees tx st ⟨r.seq, m⟩
  | own (k : Nat) (m : QueuedMessage) (added : tx.changes.inserted[k]? = some m) :
      Sees tx st ⟨st.nextSeq + k, m⟩

/-- **What a transaction may be handed**: a message that it sees, that waits for delivery and has
attempts left, and that no other transaction has locked. -/
structure Candidate (tx : Tx) (st : Store) (r : Row) : Prop where
  seen : tx.Sees st r
  pending : r.message.isPending = true
  left : r.message.HasAttempts
  free : tx.lockedElsewhere st r.id = false

/-- **The candidate that comes before all others.** -/
def Oldest (tx : Tx) (st : Store) (r : Row) : Prop :=
  tx.Candidate st r ∧ ∀ s, tx.Candidate st s → s ≠ r → r.turn < s.turn

/-- **Nothing is there twice**: rows have their own names and numbers, the next number is new, no
message was changed to two different ones, and what is new is not locked. -/
structure Unrepeated (tx : Tx) (st : Store) : Prop where
  names : (st.rows.map Row.id).Nodup
  numbers : (st.rows.map Row.seq).Nodup
  below : ∀ r ∈ st.rows, r.seq < st.nextSeq
  updated : (tx.changes.updated.map (·.id)).Nodup
  unlocked : ∀ m ∈ tx.changes.inserted, m.id ∉ st.locked

/-- All rows that a claim chooses from. -/
def claimable (tx : Tx) (st : Store) : List Row :=
  tx.claimableRows st ++ tx.claimableOwnRows st

/-- **A claim answers the first row that it may choose**, and is never refused. -/
theorem claimNext_answer (tx : Tx) (st : Store) :
    (tx.claimNext st).map (·.1) = .ok ((Row.first? (tx.claimable st)).map (·.message)) := by
  rw [claimable, Row.first?_append, claimNext]
  cases committed : Row.first? (tx.claimableRows st) with
  | none => cases Row.first? (tx.claimableOwnRows st) <;> rfl
  | some r =>
      have free := (mem_claimableRows.mp (Row.mem_of_first? committed)).2.2.2
      obtain ⟨p, got⟩ := acquire_ok_of_not_lockedElsewhere free
      dsimp only
      cases (Row.first? (tx.claimableOwnRows st)).filter (·.before r) with
      | none =>
          rw [got]
          rfl
      | some own => rfl

/-- The same for the request, which never breaks off. -/
theorem request_claimNext_answer (tx : Tx) (st : Store) (now : Timestamp) :
    (tx.request st now .claimNext).map (·.1) =
      .ok (some ((Row.first? (tx.claimable st)).map (·.message))) := by
  have answer := claimNext_answer tx st
  rw [request]
  cases claim : tx.claimNext st with
  | error e =>
      rw [claim] at answer
      cases answer
  | ok p =>
      rw [claim] at answer
      exact congrArg (fun m? => Except.ok (some m?)) (Except.ok.inj answer)

/-- The message that is seen under the name of a row. -/
theorem committedView_eq_some_iff (unrepeated : tx.Unrepeated st) (hr : r ∈ st.rows)
    {m : QueuedMessage} :
    tx.committedView st r.id = some m ↔
      (∀ d ∈ tx.changes.deadLettered, d.id ≠ r.id) ∧
        (m ∈ tx.changes.updated ∧ m.id = r.id ∨
          (∀ x ∈ tx.changes.updated, x.id ≠ r.id) ∧ m = r.message) := by
  have stored : st.message? r.id = some r.message := by
    rw [Store.message?, Store.row?_of_mem unrepeated.names hr]
    rfl
  have buried : tx.changes.isDeadLettered r.id = true ↔
      ¬ ∀ d ∈ tx.changes.deadLettered, d.id ≠ r.id := by
    simp [Changes.isDeadLettered]
  rw [committedView, stored]
  by_cases alive : ∀ d ∈ tx.changes.deadLettered, d.id ≠ r.id
  · rw [if_neg fun dead => buried.mp dead alive, and_iff_right alive]
    cases found : tx.changes.updated? r.id with
    | none =>
        have unchanged : ∀ x ∈ tx.changes.updated, x.id ≠ r.id := fun x hx same =>
          Changes.updated?_eq_none_iff.mp found (same ▸ List.mem_map_of_mem hx)
        constructor
        · intro seen
          exact Or.inr ⟨unchanged, (Option.some.inj seen).symm⟩
        · rintro (⟨written, name⟩ | ⟨-, rfl⟩)
          · exact absurd name (unchanged m written)
          · rfl
    | some x =>
        have written := Changes.mem_of_updated? found
        have name := Changes.id_of_updated? found
        constructor
        · intro seen
          cases seen
          exact Or.inl ⟨written, name⟩
        · rintro (⟨written', name'⟩ | ⟨unchanged, -⟩)
          · have same := List.inj_on_of_nodup_map unrepeated.updated written written'
              (name.trans name'.symm)
            rw [same]
            rfl
          · exact absurd name (unchanged x written)
  · rw [if_pos (buried.mpr alive)]
    exact iff_of_false (Option.some_ne_none m).symm fun seen => alive seen.1

/-- **Seeing is being in one of the lists** that a claim searches. -/
theorem sees_iff_mem (unrepeated : tx.Unrepeated st) :
    tx.Sees st r ↔ r ∈ tx.committedRows st ++ tx.ownRows st := by
  rw [List.mem_append, committedRows, List.mem_filterMap, ownRows, List.mem_mapIdx]
  constructor
  · rintro (⟨_, here, alive, unchanged⟩ | ⟨old, m, here, alive, written, name⟩ | ⟨k, m, added⟩)
    · refine Or.inl ⟨r, here, ?_⟩
      rw [(committedView_eq_some_iff unrepeated here).mpr ⟨alive, Or.inr ⟨unchanged, rfl⟩⟩]
      rfl
    · refine Or.inl ⟨old, here, ?_⟩
      rw [(committedView_eq_some_iff unrepeated here).mpr ⟨alive, Or.inl ⟨written, name⟩⟩]
      rfl
    · obtain ⟨hk, rfl⟩ := List.getElem?_eq_some_iff.mp added
      exact Or.inr ⟨k, hk, rfl⟩
  · rintro (⟨old, here, seen⟩ | ⟨k, hk, rfl⟩)
    · obtain ⟨m, view, rfl⟩ := Option.map_eq_some_iff.mp seen
      obtain ⟨alive, ⟨written, name⟩ | ⟨unchanged, rfl⟩⟩ :=
        (committedView_eq_some_iff unrepeated here).mp view
      · exact .changed old m here alive written name
      · exact .stored old here alive unchanged
    · exact .own k _ (List.getElem?_eq_getElem hk)

/-- **Candidates are the rows that a claim chooses from.** -/
theorem candidate_iff_mem (unrepeated : tx.Unrepeated st) :
    tx.Candidate st r ↔ r ∈ tx.claimable st := by
  have mayBe : tx.Candidate st r ↔ tx.Sees st r ∧ r.message.isClaimable = true ∧
      tx.lockedElsewhere st r.id = false := by
    rw [QueuedMessage.isClaimable_iff]
    exact ⟨fun c => ⟨c.seen, ⟨c.pending, c.left⟩, c.free⟩,
      fun ⟨seen, ⟨pending, left⟩, free⟩ => ⟨seen, pending, left, free⟩⟩
  -- what is new is not locked, so that the test for locks may be left out
  have free : r ∈ tx.ownRows st → tx.lockedElsewhere st r.id = false := by
    intro own
    obtain ⟨k, hk, rfl⟩ := List.mem_mapIdx.mp own
    have unlocked := unrepeated.unlocked _ (List.getElem_mem hk)
    rw [lockedElsewhere, Store.isLocked, Row.id, decide_eq_false unlocked]
    rfl
  rw [mayBe, sees_iff_mem unrepeated, claimable, claimableRows, claimableOwnRows, List.mem_append,
    List.mem_append, List.mem_filter, List.mem_filter, Bool.and_eq_true, Bool.not_eq_true']
  tauto

/-- **No number is seen twice.** -/
theorem Sees.eq_of_seq (unrepeated : tx.Unrepeated st) (hr : tx.Sees st r) (hs : tx.Sees st s)
    (same : r.seq = s.seq) : r = s := by
  -- a row that is seen has the number of a committed one, or comes behind them all
  have origin : ∀ {x : Row}, tx.Sees st x →
      (∃ old ∈ st.rows, tx.committedView st old.id = some x.message ∧ old.seq = x.seq) ∨
        ∃ k, tx.changes.inserted[k]? = some x.message ∧ x.seq = st.nextSeq + k := by
    intro x hx
    rcases List.mem_append.mp ((sees_iff_mem unrepeated).mp hx) with committed | own
    · obtain ⟨old, here, seen⟩ := List.mem_filterMap.mp committed
      obtain ⟨m, view, rfl⟩ := Option.map_eq_some_iff.mp seen
      exact Or.inl ⟨old, here, view, rfl⟩
    · obtain ⟨k, hk, rfl⟩ := List.mem_mapIdx.mp own
      exact Or.inr ⟨k, List.getElem?_eq_getElem hk, rfl⟩
  suffices message : r.message = s.message by
    obtain ⟨_, _⟩ := r
    obtain ⟨_, _⟩ := s
    exact Row.mk.injEq .. |>.mpr ⟨same, message⟩
  rcases origin hr with ⟨old, here, seen, seq⟩ | ⟨k, added, seq⟩ <;>
    rcases origin hs with ⟨old', here', seen', seq'⟩ | ⟨k', added', seq'⟩
  · have rows := List.inj_on_of_nodup_map unrepeated.numbers here here' (by omega)
    subst rows
    exact Option.some.inj (seen.symm.trans seen')
  · have := unrepeated.below old here
    omega
  · have := unrepeated.below old' here'
    omega
  · have positions : k = k' := by omega
    subst positions
    exact Option.some.inj (added.symm.trans added')

/-- The first of the rows that may be chosen is the oldest candidate. -/
theorem first?_claimable_eq_some_iff (unrepeated : tx.Unrepeated st) :
    Row.first? (tx.claimable st) = some r ↔ tx.Oldest st r := by
  constructor
  · intro first
    have chosen := (candidate_iff_mem unrepeated).mpr (Row.mem_of_first? first)
    refine ⟨chosen, fun s candidate other => ?_⟩
    have le := Row.turn_le_of_first? first s ((candidate_iff_mem unrepeated).mp candidate)
    refine lt_of_le_of_ne le fun level => other ?_
    exact candidate.seen.eq_of_seq unrepeated chosen.seen (Row.seq_eq_of_turn_eq level.symm)
  · rintro ⟨chosen, least⟩
    have here := (candidate_iff_mem unrepeated).mp chosen
    cases first : Row.first? (tx.claimable st) with
    | none => exact absurd here (Row.first?_eq_none_iff.mp first ▸ List.not_mem_nil)
    | some s =>
        by_contra other
        have candidate := (candidate_iff_mem unrepeated).mpr (Row.mem_of_first? first)
        have lt := least s candidate fun same => other (congrArg some same)
        exact absurd (Row.turn_le_of_first? first r here) (not_le.mpr lt)

theorem first?_claimable_eq_none_iff (unrepeated : tx.Unrepeated st) :
    Row.first? (tx.claimable st) = none ↔ ∀ r, ¬ tx.Candidate st r := by
  rw [Row.first?_eq_none_iff, List.eq_nil_iff_forall_not_mem]
  exact forall_congr' fun r => not_congr (candidate_iff_mem unrepeated).symm

/-! ## Another order of the tables -/

/-- **The same tables and the same transaction, kept in another order.** New messages are a list,
and stay in the order in which they were added. -/
structure Reordered (tx tx' : Tx) (st st' : Store) : Prop where
  rows : st.rows.Perm st'.rows
  locked : st.locked.Perm st'.locked
  nextSeq : st.nextSeq = st'.nextSeq
  inserted : tx.changes.inserted = tx'.changes.inserted
  updated : tx.changes.updated.Perm tx'.changes.updated
  deadLettered : tx.changes.deadLettered.Perm tx'.changes.deadLettered
  locks : tx.locks.Perm tx'.locks

namespace Reordered

theorem symm (h : Reordered tx tx' st st') : Reordered tx' tx st' st :=
  ⟨h.rows.symm, h.locked.symm, h.nextSeq.symm, h.inserted.symm, h.updated.symm,
    h.deadLettered.symm, h.locks.symm⟩

theorem unrepeated (h : Reordered tx tx' st st') (before : tx.Unrepeated st) :
    tx'.Unrepeated st' where
  names := (h.rows.map Row.id).nodup before.names
  numbers := (h.rows.map Row.seq).nodup before.numbers
  below r hr := h.nextSeq ▸ before.below r (h.rows.mem_iff.mpr hr)
  updated := (h.updated.map _).nodup before.updated
  unlocked m hm locked := before.unlocked m (h.inserted ▸ hm) (h.locked.mem_iff.mpr locked)

theorem sees (h : Reordered tx tx' st st') (seen : tx.Sees st r) : tx'.Sees st' r := by
  cases seen with
  | stored r here alive unchanged =>
      exact .stored r (h.rows.mem_iff.mp here) (fun d hd => alive d (h.deadLettered.mem_iff.mpr hd))
        fun m hm => unchanged m (h.updated.mem_iff.mpr hm)
  | changed r m here alive written name =>
      exact .changed r m (h.rows.mem_iff.mp here)
        (fun d hd => alive d (h.deadLettered.mem_iff.mpr hd)) (h.updated.mem_iff.mp written) name
  | own k m added =>
      rw [h.nextSeq]
      exact .own k m (h.inserted ▸ added)

theorem candidate (h : Reordered tx tx' st st') (candidate : tx.Candidate st r) :
    tx'.Candidate st' r := by
  refine ⟨h.sees candidate.seen, candidate.pending, candidate.left, ?_⟩
  have free := candidate.free
  rw [lockedElsewhere, Store.isLocked, holds] at free ⊢
  rwa [← decide_eq_decide.mpr h.locked.mem_iff, ← decide_eq_decide.mpr h.locks.mem_iff]

theorem oldest (h : Reordered tx tx' st st') (oldest : tx.Oldest st r) : tx'.Oldest st' r :=
  ⟨h.candidate oldest.1, fun s candidate => oldest.2 s (h.symm.candidate candidate)⟩

/-- **The order in which tables are searched does not matter.** -/
theorem first?_claimable (h : Reordered tx tx' st st') (unrepeated : tx.Unrepeated st) :
    Row.first? (tx'.claimable st') = Row.first? (tx.claimable st) := by
  refine Option.ext fun r => ?_
  rw [first?_claimable_eq_some_iff (h.unrepeated unrepeated),
    first?_claimable_eq_some_iff unrepeated]
  exact ⟨h.symm.oldest, h.oldest⟩

end Reordered

/-! ## Transactions that have not done anything yet -/

/-- **A transaction that did nothing yet** is handed the first message of the listing that is
claimable and not locked. -/
theorem first?_claimable_new (tidy : st.Tidy) (numbered : st.Numbered) (nothing : tx.changes = {})
    (unlocked : tx.locks = []) :
    (Row.first? (tx.claimable st)).map (·.message) =
      st.messages.find? fun m => m.isClaimable && !st.isLocked m.id := by
  have rows : tx.claimableRows st = st.offered := by
    obtain ⟨changes, savepoint, locks⟩ := tx
    subst nothing unlocked
    exact claimableRows_new tidy
  have own : tx.claimableOwnRows st = [] := by
    rw [claimableOwnRows, ownRows, nothing]
    rfl
  rw [claimable, rows, own, List.append_nil, Store.messages, List.find?_map,
    Row.find?_sort numbered.nodup]
  rfl

/-! ## Messages that a transaction changed -/

/-- The transaction has not changed a message to two different ones. -/
def ChangesOnce (tx : Tx) : Prop :=
  ∀ c, tx.Keeps c → (c.updated.map (·.id)).Nodup

theorem changesOnce_empty : ({} : Tx).ChangesOnce := by
  rintro c (rfl | saved)
  · exact List.nodup_nil
  · cases saved

theorem Moves.changesOnce {r : TxRequest} (h : tx.Moves st r st' tx') (once : tx.ChangesOnce) :
    tx'.ChangesOnce := by
  have now := once tx.changes tx.keeps_changes
  intro c hc
  rcases h.keeps_cases hc with rfl | old
  · cases h with
    | stays | adds | rewritesOwn | buriesOwn | setsSavepoint | forgets => exact now
    | takesLock r id₀ m₀ st' tx' seen pending got => exact (acquire_changes got).1 ▸ now
    | rewrites r id m m' st' tx₁ notOwn seen pending got progress =>
        rw [(acquire_changes got).1]
        exact Store.nodup_filter_ne_append QueuedMessage.id m' now
    | buries r id m d st' tx₁ notOwn seen pending got death =>
        rw [(acquire_changes got).1]
        exact now.sublist (List.filter_sublist.map _)
    | returns c₀ saved => exact once c₀ (Or.inr saved)
  · exact once c old

end Tx

namespace System

theorem changesOnce_run {n : Nat} {i : StoreId} (hi : i.index < n) (calls : List Call)
    {h : TxHandle} {tx : Tx} (opened : (((ofSize n).run calls).view i).tx h = some tx) :
    tx.ChangesOnce := by
  refine tx_run hi Tx.changesOnce_empty ?_ opened
  intro before start k ux r st' tx' old moves once
  exact moves.changesOnce once

/-! ## Claims -/

/-- **What an open transaction may be handed**: a message that it sees, that waits for delivery and
has attempts left, and that no other open transaction has locked. -/
structure Candidate (s : System) (i : StoreId) (t : OpenTx) (r : Row) : Prop where
  seen : t.tx.Sees (s.store i) r
  pending : r.message.isPending = true
  left : r.message.retryCount < r.message.maxRetries
  free : ∀ u ∈ s.openOn i, u.handle ≠ t.handle → r.id ∉ u.tx.locks

/-- **Claims take the oldest message**: they are never refused, and answer the candidate with the
first turn, if there is one. No two rows have the same number, so that it does not matter in which
order tables are kept; and a transaction that did nothing yet is handed the first message of the
listing that is claimable and not locked. -/
structure ClaimsOldest (s : System) (i : StoreId) (t : OpenTx) : Prop where
  answered : ∀ now, ∃ m?, (s.request now i t.handle .claimNext).1 = .ok (some m?)
  nothing : ∀ now,
    (s.request now i t.handle .claimNext).1 = .ok (some none) ↔ ∀ r, ¬ s.Candidate i t r
  oldest : ∀ now m, (s.request now i t.handle .claimNext).1 = .ok (some (some m)) ↔
    ∃ r, r.message = m ∧ s.Candidate i t r ∧ ∀ r', s.Candidate i t r' → r' ≠ r → r.turn < r'.turn
  numbers : ((s.store i).rows.map Row.seq).Nodup ∧
    ∀ r r', t.tx.Sees (s.store i) r → t.tx.Sees (s.store i) r' → r.seq = r'.seq → r = r'
  below : ∀ r ∈ (s.store i).rows, r.seq < (s.store i).nextSeq
  reordered : ∀ st' tx', Tx.Reordered t.tx tx' (s.store i) st' → ∀ now,
    (tx'.request st' now .claimNext).map (·.1) = (s.request now i t.handle .claimNext).1
  new : t.tx.changes = {} → t.tx.locks = [] → ∀ now,
    (s.request now i t.handle .claimNext).1 =
      .ok (some ((s.store i).messages.find? fun m => m.isClaimable && !(s.store i).isLocked m.id))

theorem unrepeated_run {n : Nat} {i : StoreId} (hi : i.index < n) {calls : List Call}
    (once : Call.AddsOnce i calls) {t : OpenTx} (ht : t ∈ ((ofSize n).run calls).openOn i) :
    t.tx.Unrepeated (((ofSize n).run calls).store i) := by
  have distinct := distinct_run (orderly_ofSize n) List.nodup_nil calls
  have opened := view_tx_of_mem distinct ht
  have numbered := numbered_run hi calls
  have inv := sound_run hi once
  refine ⟨(tidy_run hi calls).rows, numbered.nodup, fun r hr => numbered.seq_lt hr,
    changesOnce_run hi calls opened t.tx.changes t.tx.keeps_changes, ?_⟩
  -- what a transaction added is stored nowhere, and only what is stored is locked
  intro m hm locked
  obtain ⟨k, ux, hk, held⟩ := (inv.locking.locked_iff m.id).mp locked
  exact inv.not_locked opened (Or.inl (List.mem_map_of_mem hm)) hk held

/-- A row is locked elsewhere exactly if another open transaction has locked it. -/
theorem candidate_iff {s : System} {i : StoreId} (distinct : s.Distinct)
    (locking : (s.view i).Locking) {t : OpenTx} (ht : t ∈ s.openOn i) {r : Row} :
    s.Candidate i t r ↔ t.tx.Candidate (s.store i) r := by
  have opened := view_tx_of_mem distinct ht
  have free : t.tx.lockedElsewhere (s.store i) r.id = false ↔
      ∀ u ∈ s.openOn i, u.handle ≠ t.handle → r.id ∉ u.tx.locks := by
    rw [Tx.lockedElsewhere, Store.isLocked, Tx.holds, Bool.and_eq_false_imp, decide_eq_true_iff,
      Bool.not_eq_false', decide_eq_true_iff]
    constructor
    · intro ours u hu other held
      have uOpened := view_tx_of_mem distinct hu
      have locked := (locking.locked_iff r.id).mpr ⟨u.handle, u.tx, uOpened, held⟩
      exact other (locking.apart _ _ _ _ _ uOpened opened held (ours locked))
    · intro others locked
      obtain ⟨h, tx, hOpened, held⟩ := (locking.locked_iff r.id).mp locked
      obtain ⟨u, hu, home, rfl⟩ := view_tx_eq_some_iff.mp hOpened
      by_cases same : h = t.handle
      · subst same
        rw [Option.some.inj (opened.symm.trans hOpened)]
        exact held
      · have name := handle_of_open? hu
        exact absurd held (others u (mem_openOn.mpr ⟨mem_of_open? hu, home⟩) (name ▸ same))
  exact ⟨fun c => ⟨c.seen, c.pending, c.left, free.mpr c.free⟩,
    fun c => ⟨c.seen, c.pending, c.left, free.mp c.free⟩⟩

/-- **Every claim takes the oldest message**, after every run in which no name is added twice. -/
theorem claims_oldest {n : Nat} {i : StoreId} (hi : i.index < n) {calls : List Call}
    (once : Call.AddsOnce i calls) {t : OpenTx} (ht : t ∈ ((ofSize n).run calls).openOn i) :
    ((ofSize n).run calls).ClaimsOldest i t := by
  let s := (ofSize n).run calls
  have distinct : s.Distinct := distinct_run (orderly_ofSize n) List.nodup_nil calls
  have unrepeated : t.tx.Unrepeated (s.store i) := unrepeated_run hi once ht
  have candidate : ∀ r, s.Candidate i t r ↔ t.tx.Candidate (s.store i) r :=
    fun r => candidate_iff distinct (locking_run hi calls) ht
  have answer : ∀ now, (s.request now i t.handle .claimNext).1 =
      .ok (some ((Row.first? (t.tx.claimable (s.store i))).map (·.message))) := by
    intro now
    obtain ⟨here, home⟩ := mem_openOn.mp ht
    rw [request_answer (open?_of_mem distinct here) home]
    exact Tx.request_claimNext_answer t.tx (s.store i) now
  have answers : ∀ now (m? : Option QueuedMessage),
      (s.request now i t.handle .claimNext).1 = .ok (some m?) ↔
        (Row.first? (t.tx.claimable (s.store i))).map (·.message) = m? := by
    intro now m?
    rw [answer]
    exact ⟨fun same => Option.some.inj (Except.ok.inj same), fun same => by rw [same]⟩
  refine ⟨fun now => ⟨_, answer now⟩, ?_, ?_, ⟨unrepeated.numbers, fun r r' seen seen' =>
    seen.eq_of_seq unrepeated seen'⟩, unrepeated.below, ?_, ?_⟩
  · intro now
    rw [answers, Option.map_eq_none_iff, Tx.first?_claimable_eq_none_iff unrepeated]
    exact forall_congr' fun r => not_congr (candidate r).symm
  · intro now m
    rw [answers, Option.map_eq_some_iff]
    refine exists_congr fun r => ?_
    rw [Tx.first?_claimable_eq_some_iff unrepeated, Tx.Oldest, candidate, and_comm]
    exact and_congr_right' (and_congr_right' (forall_congr' fun r' => by rw [candidate]))
  · intro st' tx' reordered now
    rw [answer, ← reordered.first?_claimable unrepeated]
    exact Tx.request_claimNext_answer tx' st' now
  · intro nothing unlocked now
    rw [answer,
      Tx.first?_claimable_new (tidy_run hi calls) (numbered_run hi calls) nothing unlocked]

/-- A run in which three messages were created at the same time. One transaction has claimed the
first of them, another one has counted a failure on the second and added a fourth. -/
def level : List Call :=
  [.beginTx ⟨0⟩, .request default ⟨0⟩ ⟨0⟩ (.add (.fresh ⟨.ofNat 1⟩ default "one" .null)),
    .request default ⟨0⟩ ⟨0⟩ (.add (.fresh ⟨.ofNat 2⟩ default "two" .null)),
    .request default ⟨0⟩ ⟨0⟩ (.add (.fresh ⟨.ofNat 3⟩ default "three" .null)), .commit ⟨0⟩ ⟨0⟩,
    .beginTx ⟨0⟩, .request default ⟨0⟩ ⟨1⟩ .claimNext, .beginTx ⟨0⟩,
    .request default ⟨0⟩ ⟨2⟩ (.incrementRetry ⟨.ofNat 2⟩ "down"),
    .request default ⟨0⟩ ⟨2⟩ (.add (.fresh ⟨.ofNat 4⟩ default "four" .null))]

/-- After `level`, the second transaction is handed the second message, as it counted on it. -/
theorem claims_oldest_level :
    ∃ t ∈ ((ofSize 1).run level).openOn ⟨0⟩, t.handle = ⟨2⟩ ∧
      ((ofSize 1).run level).ClaimsOldest ⟨0⟩ t ∧
      (((ofSize 1).run level).request default ⟨0⟩ ⟨2⟩ .claimNext).1 =
        .ok (some (some
          ((QueuedMessage.fresh ⟨.ofNat 2⟩ default "two" .null).afterFailure "down"))) := by
  have once : Call.AddsOnce ⟨0⟩ level := by
    unfold Call.AddsOnce
    decide
  have opened : ((ofSize 1).run level).transactions[1] ∈ ((ofSize 1).run level).openOn ⟨0⟩ :=
    List.mem_cons_of_mem _ List.mem_cons_self
  exact ⟨_, opened, rfl, claims_oldest (by decide) once opened, rfl⟩

end System

end MaintenanceOutbox
