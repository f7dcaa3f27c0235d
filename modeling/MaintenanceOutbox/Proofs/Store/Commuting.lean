import MaintenanceOutbox.Proofs.Store.Claims
import MaintenanceOutbox.Proofs.Store.Savepoints

set_option autoImplicit false

/-! # Commits of concurrent transactions commute

A commit does three things to the rows of a store. It writes changed messages into their rows, it
takes the rows of dead letters away, and it puts new rows behind all others (`Changes.rows_apply`).
What two open transactions write about has no name in common, since a name is under the lock of one
transaction or carried by one (`View.Sound.names_apart`). So it does not matter which of the two
commits first, but for one thing: the new rows are numbered in the order of the commits.

The numbers matter to the order of delivery only among rows created at the same time. In the other
order of the commits, two rows change places only if they are new, one of either transaction, and
were created at the same time (`Changes.Shifted.turn_lt`).
-/

namespace MaintenanceOutbox

/-! ## What a commit makes of the tables -/

namespace Changes

variable {c d : Changes} {st : Store}

/-- The row with the changed message, if its message was changed. -/
def rewrite (c : Changes) (r : Row) : Row :=
  { r with message := (c.updated? r.id).getD r.message }

/-- What a commit makes of a row: it goes away, or its message is changed, or it stays. -/
def onRow (c : Changes) (r : Row) : Option Row :=
  if c.isDeadLettered r.id then none else some (c.rewrite r)

/-- The rows of the new messages, with the numbers from `n` on. -/
def newRows (c : Changes) (n : Nat) : List Row :=
  (Row.numbered n c.inserted).filter (·.id ∉ c.deadLettered.map (·.id))

/-- What a commit buries under a name. -/
def buried? (c : Changes) (id : MessageId) : Option DeadLetter :=
  c.deadLettered.reverse.find? (·.id = id)

theorem id_rewrite (c : Changes) (r : Row) : (c.rewrite r).id = r.id := by
  rw [rewrite]
  cases found : c.updated? r.id with
  | none => rfl
  | some m => exact id_of_updated? found

theorem onRow_eq_some {r r' : Row} (h : c.onRow r = some r') : r'.id = r.id ∧ r'.seq = r.seq := by
  rw [onRow] at h
  split at h
  · cases h
  · cases h
    exact ⟨c.id_rewrite r, rfl⟩

theorem onRow_of_unnamed {r : Row} (unnamed : r.id ∉ c.names) : c.onRow r = some r := by
  rw [mem_names, not_or, not_or] at unnamed
  obtain ⟨-, notChanged, alive⟩ := unnamed
  rw [onRow, if_neg (mt isDeadLettered_iff.mp alive), rewrite,
    updated?_eq_none_iff.mpr notChanged]
  rfl

theorem mem_newRows {n : Nat} {r : Row} :
    r ∈ c.newRows n ↔ (∃ k, c.inserted[k]? = some r.message ∧ r.seq = n + k) ∧
      r.id ∉ c.deadLettered.map (·.id) := by
  rw [newRows, List.mem_filter, decide_eq_true_iff, Row.numbered_eq_mapIdx, List.mem_mapIdx]
  refine and_congr_left' ⟨?_, ?_⟩
  · rintro ⟨k, hk, rfl⟩
    exact ⟨k, List.getElem?_eq_getElem hk, rfl⟩
  · rintro ⟨k, found, number⟩
    obtain ⟨hk, here⟩ := List.getElem?_eq_some_iff.mp found
    exact ⟨k, hk, by rw [here, ← number]⟩

/-- The new messages do not depend on their numbers. -/
theorem messages_newRows (c : Changes) (n : Nat) :
    (c.newRows n).map (·.message) =
      c.inserted.filter (·.id ∉ c.deadLettered.map (·.id)) := by
  have all : ∀ (n : Nat) (ms : List QueuedMessage), (Row.numbered n ms).map (·.message) = ms := by
    intro n ms
    induction ms generalizing n with
    | nil => rfl
    | cons m rest ih => rw [Row.numbered, List.map_cons, ih]
  conv_rhs => rw [← all n c.inserted, List.filter_map]
  rfl

/-- **What a commit makes of the rows.** -/
theorem rows_apply (tidy : st.Tidy) (coherent : c.Coherent st) :
    (c.apply st).rows = st.rows.filterMap c.onRow ++ c.newRows st.nextSeq := by
  obtain ⟨tx, rfl⟩ : ∃ tx : Tx, tx.changes = c := ⟨{ changes := c }, rfl⟩
  rw [Tx.rows_apply tidy coherent, Tx.committedRows_eq tidy coherent, Tx.ownRows_eq_numbered,
    Store.rows_foldl_updateRow coherent.updated]
  refine congrArg (· ++ tx.changes.newRows st.nextSeq) ?_
  generalize tx.changes = c
  show (st.rows.map c.rewrite).filter (·.id ∉ c.deadLettered.map (·.id)) =
    st.rows.filterMap c.onRow
  rw [List.filter_map, ← List.filterMap_eq_map, List.filterMap_filter]
  refine List.filterMap_congr ?_
  intro r _
  rw [onRow, Function.comp_apply, id_rewrite]
  by_cases dead : r.id ∈ c.deadLettered.map (·.id)
  · rw [if_pos (isDeadLettered_iff.mpr dead)]
    simp [dead]
  · rw [if_neg (mt isDeadLettered_iff.mp dead)]
    simp [dead]

theorem nextSeq_apply (c : Changes) (st : Store) :
    (c.apply st).nextSeq = st.nextSeq + c.inserted.length := by
  rw [apply, Store.nextSeq_foldl_bury, Store.nextSeq_foldl_pushRow, Store.nextSeq_foldl_updateRow]

/-- **What a commit makes of the dead letters.** -/
theorem deadLetter?_apply (c : Changes) (st : Store) (id : MessageId) :
    (c.apply st).deadLetter? id = (c.buried? id).or (st.deadLetter? id) := by
  have folded : ∀ (ds : List DeadLetter) (st : Store), (ds.foldl Store.bury st).deadLetter? id =
      (ds.reverse.find? (·.id = id)).or (st.deadLetter? id) := by
    intro ds
    induction ds with
    | nil => exact fun _ => rfl
    | cons d rest ih =>
        intro st
        rw [List.foldl_cons, ih, Store.deadLetter?_bury, List.reverse_cons, List.find?_append]
        by_cases here : d.id = id <;> simp [here]
  rw [apply, folded, Store.deadLetter?_foldl_pushRow, Store.deadLetter?_foldl_updateRow, buried?]

theorem buried?_eq_none_iff {id : MessageId} :
    c.buried? id = none ↔ id ∉ c.deadLettered.map (·.id) := by
  simp [buried?]

/-! ## Two commits -/

/-- **Two transactions can commit in either order**: they write about different messages, and the
changes of each are coherent also after the commit of the other. -/
structure Independent (c d : Changes) (st : Store) : Prop where
  first : c.Coherent st
  second : d.Coherent st
  afterFirst : d.Coherent (c.apply st)
  afterSecond : c.Coherent (d.apply st)
  apart : ∀ id ∈ c.names, id ∉ d.names

theorem Independent.symm (h : c.Independent d st) : d.Independent c st :=
  ⟨h.second, h.first, h.afterSecond, h.afterFirst, fun id named other => h.apart id other named⟩

/-- A row that one of two commits may touch is not touched by the other, so that the order does not
matter. -/
theorem filterMap_onRow_comm (apart : ∀ id ∈ c.names, id ∉ d.names) (rows : List Row) :
    (rows.filterMap c.onRow).filterMap d.onRow = (rows.filterMap d.onRow).filterMap c.onRow := by
  rw [List.filterMap_filterMap, List.filterMap_filterMap]
  refine List.filterMap_congr ?_
  intro r _
  -- one of the two leaves the row alone, also after the other
  by_cases named : r.id ∈ c.names
  · have alone : d.onRow r = some r := onRow_of_unnamed (apart r.id named)
    rw [alone]
    cases other : c.onRow r with
    | none => exact other.symm
    | some r' =>
        have name := (onRow_eq_some other).1
        exact (onRow_of_unnamed (name ▸ apart r.id named)).trans other.symm
  · have alone : c.onRow r = some r := onRow_of_unnamed named
    rw [alone]
    cases other : d.onRow r with
    | none => exact other
    | some r' =>
        have name := (onRow_eq_some other).1
        exact other.trans (onRow_of_unnamed (name.symm ▸ named)).symm

/-- New rows of one commit are not touched by the other. -/
theorem filterMap_onRow_newRows (apart : ∀ id ∈ c.names, id ∉ d.names) (n : Nat) :
    (c.newRows n).filterMap d.onRow = c.newRows n := by
  have alone : ∀ r ∈ c.newRows n, d.onRow r = some r := by
    intro r hr
    obtain ⟨⟨k, found, -⟩, -⟩ := mem_newRows.mp hr
    have new : r.id ∈ c.inserted.map (·.id) := List.mem_map_of_mem (List.mem_of_getElem? found)
    exact onRow_of_unnamed (apart r.id (mem_names.mpr (Or.inl new)))
  rw [List.filterMap_congr alone, List.filterMap_some]

/-- **What two commits make of the rows**: the old rows are as in the other order, and behind them
are the new ones of the first commit, and then those of the second. -/
theorem Independent.rows_apply (h : c.Independent d st) (tidy : st.Tidy) :
    (d.apply (c.apply st)).rows =
      (st.rows.filterMap c.onRow).filterMap d.onRow ++ c.newRows st.nextSeq ++
        d.newRows (st.nextSeq + c.inserted.length) := by
  rw [Changes.rows_apply (tidy.apply c) h.afterFirst, Changes.rows_apply tidy h.first,
    List.filterMap_append, filterMap_onRow_newRows h.apart, nextSeq_apply]

/-- New messages of either transaction that were created at the same time. -/
def Rivals (c d : Changes) (m m' : QueuedMessage) : Prop :=
  (m ∈ c.inserted ∧ m' ∈ d.inserted ∨ m ∈ d.inserted ∧ m' ∈ c.inserted) ∧
    m.createdAt = m'.createdAt

/-- **Where a row stands when `c` is committed before `d`, and when it is the other way**: an old
row keeps its number, and a new one gives way to those of the commit before. -/
inductive Shifted (c d : Changes) (n : Nat) : Row → Row → Prop where
  | old (r : Row) (below : r.seq < n) : Shifted c d n r r
  | first (k : Nat) (m : QueuedMessage) (new : c.inserted[k]? = some m) :
      Shifted c d n ⟨n + k, m⟩ ⟨n + d.inserted.length + k, m⟩
  | second (k : Nat) (m : QueuedMessage) (new : d.inserted[k]? = some m) :
      Shifted c d n ⟨n + c.inserted.length + k, m⟩ ⟨n + k, m⟩

theorem Shifted.message_eq {n : Nat} {r r' : Row} (h : c.Shifted d n r r') :
    r'.message = r.message := by
  cases h <;> rfl

/-- **Two rows keep their order**, unless they are rivals. -/
theorem Shifted.turn_lt {n : Nat} {r r' s s' : Row} (hr : c.Shifted d n r r')
    (hs : c.Shifted d n s s') (sooner : r.turn < s.turn) :
    r'.turn < s'.turn ∨ c.Rivals d r.message s.message := by
  rw [Row.turn_lt_iff] at sooner ⊢
  rw [hr.message_eq, hs.message_eq]
  rcases sooner with earlier | ⟨level, less⟩
  · exact Or.inl (Or.inl earlier)
  · -- the numbers decide, and they are moved by what was committed before
    cases hr with
    | old r below =>
        cases hs with
        | old => exact Or.inl (Or.inr ⟨level, less⟩)
        | first k m new | second k m new => exact Or.inl (Or.inr ⟨level, by simp only; omega⟩)
    | first k m new =>
        cases hs with
        | old s below' =>
            simp only at less
            omega
        | first k' m' new' => exact Or.inl (Or.inr ⟨level, by simp only at less ⊢; omega⟩)
        | second k' m' new' =>
            exact Or.inr ⟨Or.inl ⟨List.mem_of_getElem? new, List.mem_of_getElem? new'⟩, level⟩
    | second k m new =>
        cases hs with
        | old s below' =>
            simp only at less
            omega
        | first k' m' new' =>
            exact Or.inr ⟨Or.inr ⟨List.mem_of_getElem? new, List.mem_of_getElem? new'⟩, level⟩
        | second k' m' new' => exact Or.inl (Or.inr ⟨level, by simp only at less ⊢; omega⟩)

/-- Every row has its place in the other order. -/
theorem Independent.exists_shifted (h : c.Independent d st) (tidy : st.Tidy) {r : Row}
    (hr : r ∈ (d.apply (c.apply st)).rows) :
    ∃ r' ∈ (c.apply (d.apply st)).rows, c.Shifted d st.nextSeq r r' := by
  rw [h.symm.rows_apply tidy, ← filterMap_onRow_comm h.apart]
  rw [h.rows_apply tidy] at hr
  rcases List.mem_append.mp hr with front | ofSecond
  · rcases List.mem_append.mp front with old | ofFirst
    · -- an old row has the number that it had
      refine ⟨r, List.mem_append_left _ (List.mem_append_left _ old), .old r ?_⟩
      obtain ⟨r₁, h₁, once⟩ := List.mem_filterMap.mp old
      obtain ⟨r₀, h₀, before⟩ := List.mem_filterMap.mp h₁
      rw [(onRow_eq_some once).2, (onRow_eq_some before).2]
      exact tidy.seq_lt r₀ h₀
    · obtain ⟨⟨k, new, number⟩, alive⟩ := mem_newRows.mp ofFirst
      refine ⟨⟨st.nextSeq + d.inserted.length + k, r.message⟩,
        List.mem_append_right _ (mem_newRows.mpr ⟨⟨k, new, rfl⟩, alive⟩), ?_⟩
      rw [show r = ⟨st.nextSeq + k, r.message⟩ by rw [← number]]
      exact .first k r.message new
  · obtain ⟨⟨k, new, number⟩, alive⟩ := mem_newRows.mp ofSecond
    refine ⟨⟨st.nextSeq + k, r.message⟩, List.mem_append_left _ (List.mem_append_right _
      (mem_newRows.mpr ⟨⟨k, new, rfl⟩, alive⟩)), ?_⟩
    rw [show r = ⟨st.nextSeq + c.inserted.length + k, r.message⟩ by rw [← number]]
    exact .second k r.message new

/-- The messages are the same. -/
theorem Independent.messages_perm (h : c.Independent d st) (tidy : st.Tidy) :
    ((d.apply (c.apply st)).rows.map (·.message)).Perm
      ((c.apply (d.apply st)).rows.map (·.message)) := by
  rw [h.symm.rows_apply tidy, ← filterMap_onRow_comm h.apart, h.rows_apply tidy, List.append_assoc,
    List.append_assoc, List.map_append, List.map_append, List.map_append, List.map_append,
    messages_newRows, messages_newRows, messages_newRows, messages_newRows]
  exact List.perm_append_comm.append_left _

/-- The dead letters are the same. -/
theorem deadLetter?_comm (apart : ∀ id ∈ c.names, id ∉ d.names) (st : Store) (id : MessageId) :
    (d.apply (c.apply st)).deadLetter? id = (c.apply (d.apply st)).deadLetter? id := by
  have alone : c.buried? id = none ∨ d.buried? id = none := by
    rw [buried?_eq_none_iff, buried?_eq_none_iff, ← not_and_or]
    rintro ⟨dead, dead'⟩
    exact apart id (mem_names.mpr (Or.inr (Or.inr dead)))
      (mem_names.mpr (Or.inr (Or.inr dead')))
  rw [deadLetter?_apply, deadLetter?_apply, deadLetter?_apply, deadLetter?_apply]
  rcases alone with none' | none'
  · rw [none', Option.none_or, Option.none_or]
  · rw [none', Option.none_or, Option.none_or]

end Changes

/-! ## Listings -/

/-- Of two rows in a list that goes up in turns, the one whose turn is first comes first. -/
theorem Row.sublist_of_sorted {rows : List Row} (sorted : rows.Pairwise (·.turn ≤ ·.turn))
    {r s : Row} (hr : r ∈ rows) (hs : s ∈ rows) (sooner : r.turn < s.turn) :
    List.Sublist [r, s] rows := by
  induction rows with
  | nil => cases hr
  | cons x rest ih =>
      obtain ⟨least, sorted⟩ := List.pairwise_cons.mp sorted
      rcases List.mem_cons.mp hr with rfl | hr'
      · have later : s ∈ rest :=
          (List.mem_cons.mp hs).resolve_left fun same => lt_irrefl _ (same ▸ sooner)
        exact (List.singleton_sublist.mpr later).cons_cons r
      · have later : s ∈ rest := by
          refine (List.mem_cons.mp hs).resolve_left ?_
          rintro rfl
          exact not_lt_of_ge (least r hr') sooner
        exact (ih sorted hr' later).cons x

namespace Store

/-- **A message is listed before another one** if the turn of its row comes first. -/
theorem listed_iff {st : Store} (numbered : st.Numbered) {m m' : QueuedMessage} :
    List.Sublist [m, m'] st.messages ↔
      ∃ r ∈ st.rows, ∃ s ∈ st.rows, r.message = m ∧ s.message = m' ∧ r.turn < s.turn := by
  have listed : ∀ r, r ∈ Row.sort st.rows ↔ r ∈ st.rows := fun r => (Row.sort_perm st.rows).mem_iff
  constructor
  · intro inOrder
    obtain ⟨rows, sub, eq⟩ := List.sublist_map_iff.mp inOrder
    obtain ⟨r, s, rfl⟩ : ∃ r s, rows = [r, s] := by
      have two := congrArg List.length eq
      rw [List.length_map] at two
      exact List.length_eq_two.mp two.symm
    cases eq
    have le : r.turn ≤ s.turn := by simpa using (Row.sort_sorted st.rows).sublist sub
    -- no number stands twice in the table
    have other : r.seq ≠ s.seq := by
      have apart := (((Row.sort_perm st.rows).map Row.seq).nodup_iff.mpr numbered.nodup).sublist
        (sub.map Row.seq)
      simpa using apart
    have lt : r.turn < s.turn := lt_of_le_of_ne le fun same => other (Row.seq_eq_of_turn_eq same)
    exact ⟨r, (listed r).mp (sub.subset List.mem_cons_self), s,
      (listed s).mp (sub.subset (List.mem_cons_of_mem _ List.mem_cons_self)), rfl, rfl, lt⟩
  · rintro ⟨r, hr, s, hs, rfl, rfl, sooner⟩
    exact (Row.sublist_of_sorted (Row.sort_sorted st.rows) ((listed r).mpr hr) ((listed s).mpr hs)
      sooner).map (·.message)

/-- The messages of a table determine what is found under a name. -/
theorem message?_eq_of_perm {st st' : Store} (tidy : st.Tidy) (tidy' : st'.Tidy)
    (same : (st.rows.map (·.message)).Perm (st'.rows.map (·.message))) (id : MessageId) :
    st.message? id = st'.message? id := by
  have found : ∀ {st : Store}, st.Tidy → ∀ m,
      st.message? id = some m ↔ m ∈ st.rows.map (·.message) ∧ m.id = id := by
    intro st tidy m
    rw [message?, Option.map_eq_some_iff, List.mem_map]
    constructor
    · rintro ⟨r, here, rfl⟩
      exact ⟨⟨r, mem_of_row? here, rfl⟩, id_of_row? here⟩
    · rintro ⟨⟨r, hr, rfl⟩, rfl⟩
      exact ⟨r, row?_of_mem tidy.rows hr, rfl⟩
  refine Option.ext fun m => ?_
  rw [found tidy, found tidy', same.mem_iff]

end Store

/-- **Messages are listed in the same order**, unless they are rivals. -/
theorem Changes.Independent.listed {c d : Changes} {st : Store} (h : c.Independent d st)
    (tidy : st.Tidy) (numbered : st.Numbered) {m m' : QueuedMessage}
    (inOrder : List.Sublist [m, m'] (d.apply (c.apply st)).messages) :
    List.Sublist [m, m'] (c.apply (d.apply st)).messages ∨ c.Rivals d m m' := by
  have lasting : ∀ c d : Changes, (d.apply (c.apply st)).Numbered := fun c d =>
    Store.numbered_lasting.apply (Store.numbered_lasting.apply numbered c) d
  obtain ⟨r, hr, s, hs, rfl, rfl, sooner⟩ := (Store.listed_iff (lasting c d)).mp inOrder
  obtain ⟨r', hr', there⟩ := h.exists_shifted tidy hr
  obtain ⟨s', hs', there'⟩ := h.exists_shifted tidy hs
  refine (there.turn_lt there' sooner).imp_left fun sooner' => ?_
  exact (Store.listed_iff (lasting d c)).mpr
    ⟨r', hr', s', hs', there.message_eq, there'.message_eq, sooner'⟩

/-! ## Two transactions of a store -/

namespace View.Sound

variable {v : View} {h k : TxHandle} {tx ux : Tx}

/-- **No two transactions write about one name.** -/
theorem names_apart (inv : v.Sound) (opened : v.tx h = some tx) (hk : v.tx k = some ux)
    (other : k ≠ h) : ∀ id ∈ tx.changes.names, id ∉ ux.changes.names := by
  intro id named named'
  rcases inv.locked_or_carried opened named with held | carried
  · rcases inv.locked_or_carried hk named' with held' | carried'
    · exact other (inv.locking.apart k h ux tx id hk opened held' held)
    · exact inv.not_locked hk carried' opened held
  · rcases inv.locked_or_carried hk named' with held' | carried'
    · exact inv.not_locked opened carried hk held'
    · exact other (inv.sole k h ux tx id hk opened carried' carried)

/-- The changes of a transaction stay coherent when another one commits. -/
theorem coherent_commit (inv : v.Sound) (opened : v.tx h = some tx) (hk : v.tx k = some ux)
    (other : k ≠ h) (coherent : ux.changes.Coherent v.store) :
    ux.changes.Coherent (tx.changes.apply v.store) := by
  refine ⟨fun m hm => ?_, coherent.inserted, coherent.updated⟩
  exact (inv.unused_commit opened hk other (Or.inl (List.mem_map_of_mem hm))).1

/-- **Two open transactions can commit in either order.** -/
theorem independent (inv : v.Sound) (opened : v.tx h = some tx) (hk : v.tx k = some ux)
    (other : k ≠ h) (first : tx.changes.Coherent v.store) (second : ux.changes.Coherent v.store) :
    tx.changes.Independent ux.changes v.store :=
  ⟨first, second, inv.coherent_commit opened hk other second,
    inv.coherent_commit hk opened other.symm first, inv.names_apart opened hk other⟩

end View.Sound

/-- What two commits make of a store, the locks apart from the tables. -/
theorem Tx.commit_commit (tx ux : Tx) (st : Store) :
    ux.commit (tx.commit st) = { ux.changes.apply (tx.changes.apply st) with
      locked := (st.locked.filter (· ∉ tx.locks)).filter (· ∉ ux.locks) } := by
  have first : tx.commit st =
      { tx.changes.apply st with locked := st.locked.filter (· ∉ tx.locks) } := by
    rw [commit, Store.unlock, Changes.locked_apply]
  rw [commit, Store.unlock, Changes.locked_apply, first, Changes.apply_locked]

namespace System

/-- The changes that a transaction may commit are coherent, after every run in which no name is
added twice. -/
theorem coherent_run {n : Nat} {i : StoreId} (hi : i.index < n) {calls : List Call}
    (once : Call.AddsOnce i calls) {h : TxHandle} {tx : Tx}
    (opened : (((ofSize n).run calls).view i).tx h = some tx) :
    ∀ c, tx.Keeps c → c.Coherent (((ofSize n).run calls).store i) := by
  -- what is new to the tables belongs to the transaction; the rest does not depend on the tables
  suffices distinct : ∀ c, tx.Keeps c →
      (c.inserted.map (·.id)).Nodup ∧ (c.updated.map (·.id)).Nodup by
    intro c hc
    have valid := (sound_run hi once).valid_of_keeps opened hc
    exact ⟨fun m hm => (valid.inserted m hm).1, (distinct c hc).1, (distinct c hc).2⟩
  refine tx_run hi (P := fun tx => ∀ c, tx.Keeps c →
    (c.inserted.map (·.id)).Nodup ∧ (c.updated.map (·.id)).Nodup) ?_ ?_ opened
  · rintro c (rfl | saved)
    · exact ⟨List.nodup_nil, List.nodup_nil⟩
    · cases saved
  · rintro before ⟨rest, rfl⟩ k ux r st' tx' old moves apart c hc
    have kept := moves.coherent (fun c hc => ?_) c hc
    · exact ⟨kept.inserted, kept.updated⟩
    · have valid := (sound_run hi once.of_append).valid_of_keeps old hc
      exact ⟨fun m hm => (valid.inserted m hm).1, (apart c hc).1, (apart c hc).2⟩

/-- The system after two transactions committed on a store, one after the other. -/
def commitBoth (s : System) (i : StoreId) (t u : OpenTx) : System :=
  ((s.commit i t.handle).2.commit i u.handle).2

/-- **The order of two commits does not matter**: both are granted, and afterwards the store has the
same messages, the same dead letters and the same locks, and everything else is the same, too. Two
messages may be listed in another order only if they were added by the two transactions, one by
each, and were created at the same time. -/
structure CommitsCommute (s : System) (i : StoreId) (t u : OpenTx) : Prop where
  granted : (s.commit i t.handle).1 = .ok () ∧ (s.commit i u.handle).1 = .ok ()
  grantedNext : ((s.commit i t.handle).2.commit i u.handle).1 = .ok () ∧
    ((s.commit i u.handle).2.commit i t.handle).1 = .ok ()
  messages : ∀ id, ((s.commitBoth i t u).store i).message? id =
    ((s.commitBoth i u t).store i).message? id
  deadLetters : ∀ id, ((s.commitBoth i t u).store i).deadLetter? id =
    ((s.commitBoth i u t).store i).deadLetter? id
  locked : ((s.commitBoth i t u).store i).locked = ((s.commitBoth i u t).store i).locked
  elsewhere : ∀ j, j ≠ i → (s.commitBoth i t u).store j = (s.commitBoth i u t).store j
  transactions : (s.commitBoth i t u).transactions = (s.commitBoth i u t).transactions
  order : ∀ m m', List.Sublist [m, m'] ((s.commitBoth i t u).store i).messages →
    List.Sublist [m, m'] ((s.commitBoth i u t).store i).messages ∨
      t.tx.changes.Rivals u.tx.changes m m'

section Both

variable {s : System} {i : StoreId} {t u : OpenTx} (hi : i.index < s.stores.length)
  (opened : s.open? t.handle = some t) (opened' : s.open? u.handle = some u) (home : t.home = i)
  (home' : u.home = i) (other : u.handle ≠ t.handle)
include hi opened opened' home home' other

/-- Two commits in a row. -/
theorem commit_commit :
    s.commit i t.handle = (.ok (), s.close t (t.tx.commit (s.store i))) ∧
      (s.commit i t.handle).2.commit i u.handle = (.ok (),
        (s.close t (t.tx.commit (s.store i))).close u (u.tx.commit (t.tx.commit (s.store i)))) := by
  have first : s.commit i t.handle = (.ok (), s.close t (t.tx.commit (s.store i))) := by
    rw [commit, opened]
    exact if_pos home
  have still : (s.close t (t.tx.commit (s.store i))).open? u.handle = some u := by
    rw [open?_close, if_neg other, opened']
  have tables : (s.close t (t.tx.commit (s.store i))).store i = t.tx.commit (s.store i) := by
    subst home
    exact store_setStore_self hi _
  refine ⟨first, ?_⟩
  rw [first, commit, still]
  dsimp only
  rw [if_pos home', tables]

theorem commitBoth_eq : s.commitBoth i t u =
    (s.close t (t.tx.commit (s.store i))).close u (u.tx.commit (t.tx.commit (s.store i))) :=
  congrArg Prod.snd (commit_commit hi opened opened' home home' other).2

theorem store_commitBoth :
    (s.commitBoth i t u).store i = u.tx.commit (t.tx.commit (s.store i)) := by
  rw [commitBoth_eq hi opened opened' home home' other]
  subst home'
  refine store_setStore_self ?_ _
  rw [show (s.close t (t.tx.commit (s.store u.home))).stores.length = s.stores.length from
    length_stores_setStore s _ _]
  exact hi

theorem store_commitBoth_ne {j : StoreId} (elsewhere : j ≠ i) :
    (s.commitBoth i t u).store j = s.store j := by
  rw [commitBoth_eq hi opened opened' home home' other]
  have second := store_setStore_ne (s.close t (t.tx.commit (s.store i)))
    (home' ▸ elsewhere.symm) (u.tx.commit (t.tx.commit (s.store i)))
  exact second.trans (store_setStore_ne s (home ▸ elsewhere.symm) _)

theorem transactions_commitBoth : (s.commitBoth i t u).transactions =
    s.transactions.filter fun w => w.handle ≠ u.handle ∧ w.handle ≠ t.handle := by
  rw [commitBoth_eq hi opened opened' home home' other, close, close, List.filter_filter]
  refine List.filter_congr fun w _ => ?_
  rw [Bool.decide_and]

end Both

/-- **Commits of concurrent transactions commute**, after every run in which no name is added
twice. -/
theorem commits_commute {n : Nat} {i : StoreId} (hi : i.index < n) {calls : List Call}
    (once : Call.AddsOnce i calls) {t u : OpenTx} (ht : t ∈ ((ofSize n).run calls).openOn i)
    (hu : u ∈ ((ofSize n).run calls).openOn i) (other : u.handle ≠ t.handle) :
    ((ofSize n).run calls).CommitsCommute i t u := by
  have distinct := distinct_run (orderly_ofSize n) List.nodup_nil calls
  have hi' := index_lt_run hi calls
  have tidy := tidy_run hi calls
  obtain ⟨mem, home⟩ := mem_openOn.mp ht
  obtain ⟨mem', home'⟩ := mem_openOn.mp hu
  have opened := open?_of_mem distinct mem
  have opened' := open?_of_mem distinct mem'
  have seen := view_tx_of_mem distinct ht
  have seen' := view_tx_of_mem distinct hu
  have independent := (sound_run hi once).independent seen seen' other
    (coherent_run hi once seen _ t.tx.keeps_changes)
    (coherent_run hi once seen' _ u.tx.keeps_changes)
  -- the one order and the other
  have commits := commit_commit hi' opened opened' home home' other
  have commits' := commit_commit hi' opened' opened home' home other.symm
  have store := store_commitBoth hi' opened opened' home home' other
  have store' := store_commitBoth hi' opened' opened home' home other.symm
  rw [Tx.commit_commit] at store store'
  refine ⟨⟨congrArg Prod.fst commits.1, congrArg Prod.fst commits'.1⟩,
    ⟨congrArg Prod.fst commits.2, congrArg Prod.fst commits'.2⟩, ?_, ?_, ?_, ?_, ?_, ?_⟩
  · rw [store, store']
    exact Store.message?_eq_of_perm (((tidy.apply _).apply _).of_locked _)
      (((tidy.apply _).apply _).of_locked _) (independent.messages_perm tidy)
  · rw [store, store']
    exact Changes.deadLetter?_comm independent.apart _
  · rw [store, store', List.filter_filter, List.filter_filter]
    exact List.filter_congr fun id _ => Bool.and_comm _ _
  · intro j elsewhere
    rw [store_commitBoth_ne hi' opened opened' home home' other elsewhere,
      store_commitBoth_ne hi' opened' opened home' home other.symm elsewhere]
  · rw [transactions_commitBoth hi' opened opened' home home' other,
      transactions_commitBoth hi' opened' opened home' home other.symm]
    exact List.filter_congr fun w _ => decide_eq_decide.mpr and_comm
  · intro m m' inOrder
    rw [store] at inOrder
    rw [store']
    exact independent.listed tidy (numbered_run hi calls) inOrder

/-- A run in which two transactions are open. One has delivered the first message and added a third
one, the other has given up the second message and added a fourth one. -/
def crossing : List Call :=
  [.beginTx ⟨0⟩, .request default ⟨0⟩ ⟨0⟩ (.add (.fresh ⟨.ofNat 1⟩ default "one" .null)),
    .request default ⟨0⟩ ⟨0⟩
      (.add ((QueuedMessage.fresh ⟨.ofNat 2⟩ default "two" .null).withMaxRetries 1)),
    .commit ⟨0⟩ ⟨0⟩, .beginTx ⟨0⟩, .beginTx ⟨0⟩, .request default ⟨0⟩ ⟨1⟩ .claimNext,
    .request default ⟨0⟩ ⟨2⟩ .claimNext,
    .request default ⟨0⟩ ⟨2⟩ (.incrementRetry ⟨.ofNat 2⟩ "down"),
    .request default ⟨0⟩ ⟨1⟩ (.markProcessed ⟨.ofNat 1⟩),
    .request default ⟨0⟩ ⟨1⟩ (.add (.fresh ⟨.ofNat 3⟩ default "three" .null)),
    .request default ⟨0⟩ ⟨2⟩ (.add (.fresh ⟨.ofNat 4⟩ default "four" .null))]

/-- After `crossing`, the new messages are listed in the order of the commits. -/
theorem commits_commute_crossing :
    let s := (ofSize 1).run crossing
    ∃ t ∈ s.openOn ⟨0⟩, ∃ u ∈ s.openOn ⟨0⟩, u.handle ≠ t.handle ∧ s.CommitsCommute ⟨0⟩ t u ∧
      ((s.commitBoth ⟨0⟩ t u).store ⟨0⟩).messages.map (·.eventType) = ["one", "three", "four"] ∧
      ((s.commitBoth ⟨0⟩ u t).store ⟨0⟩).messages.map (·.eventType) = ["one", "four", "three"] := by
  intro s
  have once : Call.AddsOnce ⟨0⟩ crossing := by
    unfold Call.AddsOnce
    decide
  have first : s.transactions[0] ∈ s.openOn ⟨0⟩ := List.mem_cons_self
  have second : s.transactions[1] ∈ s.openOn ⟨0⟩ := List.mem_cons_of_mem _ List.mem_cons_self
  have other : s.transactions[1].handle ≠ s.transactions[0].handle := by decide
  exact ⟨_, first, _, second, other, commits_commute (by decide) once first second other,
    by decide, by decide⟩

end System

end MaintenanceOutbox
