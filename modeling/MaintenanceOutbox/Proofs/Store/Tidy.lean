import MaintenanceOutbox.Proofs.Store.Locks

set_option autoImplicit false

/-! # Tables without repetition

Within each of the two tables no name stands twice, and every row has a number that was drawn
already. No transaction has to behave well for that (`System.tidy_run`): every change drops what
stands under a name before it writes there.

With that, lookups say all there is to say about a table, also about what operators do to it.
-/

namespace MaintenanceOutbox

namespace Store

/-! ## What lasts in the tables -/

/-- **A property of tables that lasts**: every change of the tables keeps it, entries may be taken
away, and locks are nothing to it. -/
structure Lasting (P : Store → Prop) : Prop where
  updateRow : ∀ {st}, P st → ∀ m, P (st.updateRow m)
  pushRow : ∀ {st}, P st → ∀ m, P (st.pushRow m)
  bury : ∀ {st}, P st → ∀ d, P (st.bury d)
  fewerRows : ∀ {st}, P st → ∀ keep, P { st with rows := st.rows.filter keep }
  fewerDeadLetters : ∀ {st}, P st → ∀ keep,
    P { st with deadLetters := st.deadLetters.filter keep }
  locked : ∀ {st}, P st → ∀ locked, P { st with locked := locked }

namespace Lasting

variable {P : Store → Prop} {st : Store}

theorem apply (lasting : Lasting P) (holds : P st) (c : Changes) : P (c.apply st) := by
  -- the three folds of a commit, in their order
  have updated : P (c.updated.foldl Store.updateRow st) :=
    List.foldlRecOn _ _ holds fun _ ok m _ => lasting.updateRow ok m
  have inserted : P (c.inserted.foldl Store.pushRow (c.updated.foldl Store.updateRow st)) :=
    List.foldlRecOn _ _ updated fun _ ok m _ => lasting.pushRow ok m
  exact List.foldlRecOn _ _ inserted fun _ ok d _ => lasting.bury ok d

theorem requeue (lasting : Lasting P) (holds : P st) {id : MessageId} {m : QueuedMessage}
    {st' : Store} (h : st.requeue id = .ok (m, st')) : P st' := by
  unfold Store.requeue at h
  split at h
  · cases h
  · cases h
    exact lasting.pushRow (lasting.fewerDeadLetters holds _) _

theorem deleteDeadLetter (lasting : Lasting P) (holds : P st) {id : MessageId} {st' : Store}
    (h : st.deleteDeadLetter id = .ok st') : P st' := by
  unfold Store.deleteDeadLetter at h
  split at h
  · cases h
  · cases h
    exact lasting.fewerDeadLetters holds _

end Lasting

/-! ## Tables without repetition -/

/-- **No name stands twice in a table**, and the next number is new. -/
structure Tidy (st : Store) : Prop where
  rows : (st.rows.map Row.id).Nodup
  deadLetters : (st.deadLetters.map (·.id)).Nodup
  seq_lt : ∀ r ∈ st.rows, r.seq < st.nextSeq

theorem tidy_empty : ({} : Store).Tidy :=
  ⟨List.nodup_nil, List.nodup_nil, fun _ hr => absurd hr List.not_mem_nil⟩

/-- What stands under other names stays without repetition when a new entry is put behind it. -/
theorem nodup_filter_ne_append {α : Type} (name : α → MessageId) {entries : List α} (new : α)
    (distinct : (entries.map name).Nodup) :
    ((entries.filter (name · ≠ name new) ++ [new]).map name).Nodup := by
  rw [List.map_append, List.nodup_append]
  refine ⟨distinct.sublist (List.filter_sublist.map name), List.nodup_singleton _, ?_⟩
  intro a ha b hb
  obtain ⟨entry, hentry, rfl⟩ := List.mem_map.mp ha
  have other : name entry ≠ name new := by simpa using (List.mem_filter.mp hentry).2
  rw [List.map_singleton, List.mem_singleton] at hb
  rw [hb]
  exact other

namespace Tidy

variable {st : Store}

theorem updateRow (tidy : st.Tidy) (m : QueuedMessage) : (st.updateRow m).Tidy := by
  -- a row that is written keeps its name and its number
  have names : (st.updateRow m).rows.map Row.id = st.rows.map Row.id := by
    rw [Store.updateRow, List.map_map]
    refine List.map_congr_left ?_
    intro r _
    by_cases written : r.id = m.id
    · rw [Function.comp_apply, if_pos written]
      exact written.symm
    · rw [Function.comp_apply, if_neg written]
  refine ⟨by rw [names]; exact tidy.rows, tidy.deadLetters, ?_⟩
  intro r hr
  obtain ⟨old, hold, rfl⟩ := List.mem_map.mp hr
  split
  · exact tidy.seq_lt old hold
  · exact tidy.seq_lt old hold

theorem pushRow (tidy : st.Tidy) (m : QueuedMessage) : (st.pushRow m).Tidy := by
  refine ⟨nodup_filter_ne_append Row.id ⟨st.nextSeq, m⟩ tidy.rows, tidy.deadLetters, ?_⟩
  intro r hr
  rcases List.mem_append.mp hr with old | new
  · exact Nat.lt_succ_of_lt (tidy.seq_lt r (List.mem_filter.mp old).1)
  · rw [List.mem_singleton.mp new]
    exact Nat.lt_succ_self st.nextSeq

theorem bury (tidy : st.Tidy) (d : DeadLetter) : (st.bury d).Tidy :=
  ⟨tidy.rows.sublist (List.filter_sublist.map Row.id),
    nodup_filter_ne_append DeadLetter.id d tidy.deadLetters,
    fun r hr => tidy.seq_lt r (List.mem_filter.mp hr).1⟩

/-- Locks are not part of the tables. -/
theorem of_locked (tidy : st.Tidy) (locked : List MessageId) :
    { st with locked := locked : Store }.Tidy :=
  ⟨tidy.rows, tidy.deadLetters, tidy.seq_lt⟩

end Tidy

theorem tidy_lasting : Lasting Tidy where
  updateRow := Tidy.updateRow
  pushRow := Tidy.pushRow
  bury := Tidy.bury
  fewerRows tidy _ := ⟨tidy.rows.sublist (List.filter_sublist.map Row.id), tidy.deadLetters,
    fun r hr => tidy.seq_lt r (List.mem_filter.mp hr).1⟩
  fewerDeadLetters tidy _ :=
    ⟨tidy.rows, tidy.deadLetters.sublist (List.filter_sublist.map _), tidy.seq_lt⟩
  locked := Tidy.of_locked

namespace Tidy

variable {st : Store}

theorem apply (tidy : st.Tidy) (c : Changes) : (c.apply st).Tidy :=
  tidy_lasting.apply tidy c

theorem requeue (tidy : st.Tidy) {id : MessageId} {m : QueuedMessage} {st' : Store}
    (h : st.requeue id = .ok (m, st')) : st'.Tidy :=
  tidy_lasting.requeue tidy h

theorem deleteDeadLetter (tidy : st.Tidy) {id : MessageId} {st' : Store}
    (h : st.deleteDeadLetter id = .ok st') : st'.Tidy :=
  tidy_lasting.deleteDeadLetter tidy h

theorem purge (tidy : st.Tidy) (cutoff : Timestamp) : (st.purge cutoff).2.Tidy :=
  tidy_lasting.fewerRows tidy _

end Tidy

/-! ## What operators do -/

/-- **Requeueing** moves one dead letter into the queue. -/
theorem requeue_cases {st st' : Store} {id : MessageId} {m : QueuedMessage}
    (h : st.requeue id = .ok (m, st')) :
    ∃ d, st.deadLetter? id = some d ∧ m = d.requeued ∧ st'.locked = st.locked ∧
      (∀ x, st'.row? x = if id = x then some ⟨st.nextSeq, d.requeued⟩ else st.row? x) ∧
        ∀ x, st'.deadLetter? x = if id = x then none else st.deadLetter? x := by
  unfold requeue at h
  split at h
  · cases h
  · next d found =>
      cases h
      have name : d.requeued.id = id := id_of_deadLetter? found
      refine ⟨d, found, rfl, rfl, ?_, ?_⟩
      · intro x
        rw [row?_pushRow, name]
        rfl
      · intro x
        exact find?_filter_ne DeadLetter.id id x st.deadLetters

/-- **Deletion** takes one dead letter away. -/
theorem deleteDeadLetter_cases {st st' : Store} {id : MessageId}
    (h : st.deleteDeadLetter id = .ok st') :
    (∃ d, st.deadLetter? id = some d) ∧ st'.locked = st.locked ∧ (∀ x, st'.row? x = st.row? x) ∧
      ∀ x, st'.deadLetter? x = if id = x then none else st.deadLetter? x := by
  unfold deleteDeadLetter at h
  split at h
  · cases h
  · next d found =>
      cases h
      exact ⟨⟨d, found⟩, rfl, fun _ => rfl,
        fun x => find?_filter_ne DeadLetter.id id x st.deadLetters⟩

/-- **Purging** takes the rows away that were delivered before the cutoff, and no others. -/
theorem row?_purge {st : Store} (tidy : st.Tidy) (cutoff : Timestamp) (id : MessageId) :
    (st.purge cutoff).2.row? id =
      (st.row? id).filter fun r => !processedBefore cutoff r.message := by
  have kept : ∀ rows : List Row, (rows.map Row.id).Nodup →
      (rows.filter fun r => !processedBefore cutoff r.message).find? (·.id = id) =
        (rows.find? (·.id = id)).filter fun r => !processedBefore cutoff r.message := by
    intro rows
    induction rows with
    | nil => intro _; rfl
    | cons r rest ih =>
        intro distinct
        rw [List.map_cons, List.nodup_cons] at distinct
        obtain ⟨notLater, distinct⟩ := distinct
        by_cases found : r.id = id
        · -- the only row of that name comes first, so that nothing is found after it
          have missing : rest.find? (·.id = id) = none := by
            rw [List.find?_eq_none]
            intro s hs same
            exact notLater (found ▸ of_decide_eq_true same ▸ List.mem_map_of_mem hs)
          have later := ih distinct
          rw [missing] at later
          cases old : processedBefore cutoff r.message <;> simp [found, old, later, Option.filter]
        · have later := ih distinct
          cases old : processedBefore cutoff r.message <;> simp [found, old, later]
  exact kept st.rows tidy.rows

/-- A pending row is not purged. -/
theorem row?_purge_of_isPending {st : Store} (tidy : st.Tidy) (cutoff : Timestamp) {id : MessageId}
    {r : Row} (found : st.row? id = some r) (pending : r.message.isPending = true) :
    (st.purge cutoff).2.row? id = some r := by
  have young : processedBefore cutoff r.message = false := by
    rw [QueuedMessage.isPending, Option.isNone_iff_eq_none] at pending
    rw [processedBefore, pending]
  rw [row?_purge tidy, found, Option.filter_some, young]
  rfl

end Store

/-! ## Runs -/

/-- What lasts in tables is kept by whatever happens to a store. -/
theorem View.lasting_step {P : Store → Prop} (lasting : Store.Lasting P) {v : View}
    (holds : P v.store) (e : Happening) : P (v.step e).store := by
  cases e with
  | nothing | elsewhere | begins => exact holds
  | requests now h r =>
      rw [View.step]
      split
      · exact holds
      · split
        · exact holds
        · next done =>
            have moves := Tx.request_moves done
            rw [moves.tables]
            exact lasting.locked holds _
  | commits h =>
      rw [View.step]
      split
      · exact holds
      · next tx _ => exact lasting.locked (lasting.apply holds tx.changes) _
  | releases h =>
      rw [View.step]
      split
      · exact holds
      · exact lasting.locked holds _
  | requeues id =>
      rw [View.step]
      split
      · exact holds
      · next done => exact lasting.requeue holds done
  | deletes id =>
      rw [View.step]
      split
      · exact holds
      · next done => exact lasting.deleteDeadLetter holds done
  | purges cutoff => exact lasting.fewerRows holds _

/-- **What lasts in tables, and holds of empty ones, holds after every run.** -/
theorem System.lasting_run {P : Store → Prop} (lasting : Store.Lasting P) (empty : P {}) {n : Nat}
    {i : StoreId} (hi : i.index < n) (calls : List Call) :
    P (((ofSize n).run calls).store i) := by
  have kept : ∀ (happenings : List Happening) (v : View),
      P v.store → P (v.run happenings).store := by
    intro happenings
    induction happenings with
    | nil => exact fun _ holds => holds
    | cons e rest ih => exact fun v holds => ih (v.step e) (View.lasting_step lasting holds e)
  show P (((ofSize n).run calls).view i).store
  rw [view_run (orderly_ofSize n) (index_lt_run hi []) calls, view_ofSize hi]
  exact kept _ View.empty empty

theorem View.tidy_step {v : View} (tidy : v.store.Tidy) (e : Happening) :
    (v.step e).store.Tidy :=
  lasting_step Store.tidy_lasting tidy e

/-- Whatever happens to a store, its tables stay without repetition. -/
theorem System.tidy_run {n : Nat} {i : StoreId} (hi : i.index < n) (calls : List Call) :
    (((ofSize n).run calls).store i).Tidy :=
  lasting_run Store.tidy_lasting Store.tidy_empty hi calls

end MaintenanceOutbox
