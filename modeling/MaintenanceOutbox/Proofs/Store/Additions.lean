import MaintenanceOutbox.Proofs.Store.Requests

set_option autoImplicit false

/-! # Messages that a transaction adds last

A transaction did something and then adds some messages: `Tx.adding`. If their names are new to it
(`Tx.NewNames`), its commit does what it would have done without them, and then puts them behind all
other rows, in order (`Tx.apply_adding`).

The store refuses a name that is in use, but for one case: the transaction may have added and buried
a message of that name. A message added after that would share the fate of its namesake at the
commit.
-/

namespace MaintenanceOutbox

/-- Messages as rows, with the numbers from `n` on. -/
def Row.numbered : (n : Nat) → List QueuedMessage → List Row
  | _, [] => []
  | n, m :: ms => ⟨n, m⟩ :: numbered (n + 1) ms

theorem Row.message_of_numbered {n : Nat} {ms : List QueuedMessage} {r : Row}
    (h : r ∈ Row.numbered n ms) : r.message ∈ ms := by
  induction ms generalizing n with
  | nil => cases h
  | cons m rest ih =>
      rcases List.mem_cons.mp h with rfl | later
      · exact List.mem_cons_self
      · exact List.mem_cons_of_mem m (ih later)

namespace Store

/-- Messages with new names are put behind all rows. -/
theorem foldl_pushRow_new {ms : List QueuedMessage} {st : Store}
    (new : ∀ m ∈ ms, st.row? m.id = none) (nodup : (ms.map (·.id)).Nodup) :
    ms.foldl pushRow st =
      { st with
        nextSeq := st.nextSeq + ms.length
        rows := st.rows ++ Row.numbered st.nextSeq ms } := by
  induction ms generalizing st with
  | nil => simp [Row.numbered]
  | cons m rest ih =>
      obtain ⟨notAgain, nodup⟩ := List.nodup_cons.mp nodup
      have unused := row?_eq_none_iff.mp (new m List.mem_cons_self)
      have pushed : st.pushRow m =
          { st with nextSeq := st.nextSeq + 1, rows := st.rows ++ [⟨st.nextSeq, m⟩] } := by
        have kept : st.rows.filter (·.id ≠ m.id) = st.rows :=
          List.filter_eq_self.mpr fun r hr => decide_eq_true fun same =>
            unused (same ▸ List.mem_map_of_mem hr)
        rw [pushRow, kept]
      have later : ∀ x ∈ rest, (st.pushRow m).row? x.id = none := by
        intro x hx
        have other : m.id ≠ x.id := fun same => notAgain (List.mem_map.mpr ⟨x, hx, same.symm⟩)
        rw [row?_pushRow, if_neg other]
        exact new x (List.mem_cons_of_mem m hx)
      rw [List.foldl_cons, ih later nodup, pushed]
      simp [Row.numbered, Nat.add_assoc, Nat.add_comm 1]

/-- Rows of other messages do not get in the way of dead letters. -/
theorem foldl_bury_behind {ds : List DeadLetter} {more : List Row}
    (others : ∀ r ∈ more, r.id ∉ ds.map (·.id)) (st : Store) (n : Nat) :
    ds.foldl bury { st with nextSeq := n, rows := st.rows ++ more } =
      { ds.foldl bury st with nextSeq := n, rows := (ds.foldl bury st).rows ++ more } := by
  induction ds generalizing st with
  | nil => rfl
  | cons d rest ih =>
      have kept : more.filter (·.id ≠ d.id) = more :=
        List.filter_eq_self.mpr fun r hr => decide_eq_true fun same =>
          others r hr (same ▸ List.mem_cons_self)
      have first : Store.bury { st with nextSeq := n, rows := st.rows ++ more } d =
          { st.bury d with nextSeq := n, rows := (st.bury d).rows ++ more } := by
        rw [bury, bury, List.filter_append, kept]
      rw [List.foldl_cons, first, List.foldl_cons]
      exact ih (fun r hr later => others r hr (List.mem_cons_of_mem _ later)) (st.bury d)

theorem nextSeq_foldl_bury (ds : List DeadLetter) (st : Store) :
    (ds.foldl bury st).nextSeq = st.nextSeq := by
  induction ds generalizing st with
  | nil => rfl
  | cons d rest ih => rw [List.foldl_cons, ih, bury]

end Store

namespace Tx

/-- The transaction with more messages added. -/
def adding (tx : Tx) (ms : List QueuedMessage) : Tx :=
  { tx with changes := { tx.changes with inserted := tx.changes.inserted ++ ms } }

/-- **The names of some messages are new** to a transaction: neither the tables nor the transaction
have them, and none is given twice. -/
structure NewNames (tx : Tx) (st : Store) (ms : List QueuedMessage) : Prop where
  free : ∀ m ∈ ms, tx.nameTaken st m.id = false
  nodup : (ms.map (·.id)).Nodup

variable {tx : Tx} {st : Store} {m : QueuedMessage} {ms : List QueuedMessage}

theorem adding_nil (tx : Tx) : tx.adding [] = tx := by
  rw [adding, List.append_nil]

theorem adding_adding (tx : Tx) (ms later : List QueuedMessage) :
    (tx.adding ms).adding later = tx.adding (ms ++ later) := by
  simp only [adding, List.append_assoc]

theorem add_eq_ok_iff {tx' : Tx} :
    tx.add st m = .ok tx' ↔ tx.nameTaken st m.id = false ∧ tx' = tx.adding [m] := by
  rw [add]
  cases tx.nameTaken st m.id with
  | true => simp
  | false => simp [adding, eq_comm]

/-- Names that are new after a message was added differ from its name, too. -/
theorem NewNames.cons (free : tx.nameTaken st m.id = false)
    (later : (tx.adding [m]).NewNames st ms) : tx.NewNames st (m :: ms) := by
  have apart : ∀ x ∈ ms, tx.nameTaken st x.id = false ∧ m.id ≠ x.id := by
    intro x hx
    obtain ⟨tables, notOwn⟩ := nameTaken_eq_false_iff.mp (later.free x hx)
    rw [Changes.inserted?_eq_none_iff, adding, List.map_append, List.mem_append, not_or] at notOwn
    obtain ⟨notBefore, notThis⟩ := notOwn
    refine ⟨nameTaken_eq_false_iff.mpr ⟨tables, Changes.inserted?_eq_none_iff.mpr notBefore⟩, ?_⟩
    intro same
    exact notThis (List.mem_singleton.mpr same.symm)
  refine ⟨?_, ?_⟩
  · intro x hx
    rcases List.mem_cons.mp hx with rfl | there
    · exact free
    · exact (apart x there).1
  · rw [List.map_cons, List.nodup_cons]
    refine ⟨fun again => ?_, later.nodup⟩
    obtain ⟨x, hx, same⟩ := List.mem_map.mp again
    exact (apart x hx).2 same.symm

/-- **A commit puts the messages that were added last behind everything else.** -/
theorem apply_adding (new : tx.NewNames st ms)
    (unburied : ∀ m ∈ ms, m.id ∉ tx.changes.deadLettered.map (·.id)) :
    (tx.adding ms).changes.apply st =
      { tx.changes.apply st with
        nextSeq := (tx.changes.apply st).nextSeq + ms.length
        rows := (tx.changes.apply st).rows ++
          Row.numbered (tx.changes.apply st).nextSeq ms } := by
  -- the tables before the dead letters are written
  let updated := tx.changes.updated.foldl Store.updateRow st
  let written := tx.changes.inserted.foldl Store.pushRow updated
  have unused : ∀ m ∈ ms, written.row? m.id = none := by
    intro m hm
    obtain ⟨⟨noRow, -⟩, notOwn⟩ := nameTaken_eq_false_iff.mp (new.free m hm)
    have notNew : m.id ∉ tx.changes.inserted.map (·.id) := Changes.inserted?_eq_none_iff.mp notOwn
    rcases Store.row?_foldl_pushRow tx.changes.inserted updated m.id with
      ⟨same, -⟩ | ⟨own, hown, named, -⟩
    · have before := Store.isSome_row?_foldl_updateRow tx.changes.updated st m.id
      rw [noRow] at before
      exact same.trans (Option.not_isSome_iff_eq_none.mp (ne_true_of_eq_false before))
    · exact absurd (named ▸ List.mem_map_of_mem hown) notNew
  have number : (tx.changes.apply st).nextSeq = written.nextSeq :=
    Store.nextSeq_foldl_bury tx.changes.deadLettered written
  have others : ∀ r ∈ Row.numbered written.nextSeq ms,
      r.id ∉ tx.changes.deadLettered.map (·.id) :=
    fun r hr => unburied r.message (Row.message_of_numbered hr)
  calc (tx.adding ms).changes.apply st
      = tx.changes.deadLettered.foldl Store.bury (ms.foldl Store.pushRow written) := by
        rw [Changes.apply, adding, List.foldl_append]
    _ = _ := by
        rw [Store.foldl_pushRow_new unused new.nodup, Store.foldl_bury_behind others, number]
        rfl

end Tx

end MaintenanceOutbox
