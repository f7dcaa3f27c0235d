import Mathlib.Data.List.Nodup
import Mathlib.Tactic.Common
import MaintenanceOutbox.Store.Transaction

set_option autoImplicit false

/-! # What a commit does to the tables

A commit is three folds: over the changed messages, over the new ones and over the dead letters.
Here each fold is seen through the lookups `Store.row?` and `Store.deadLetter?`, and the commit as a
whole through four facts:

* a name that the transaction did not touch is looked up as before (`Changes.row?_apply_frame`,
  `Changes.deadLetter?_apply_frame`);
* a dead letter has no row (`Changes.row?_apply_buried`);
* a row after the commit is an old one, an old one with a changed message, or a new one
  (`Changes.row?_apply_cases`);
* a dead letter after the commit is an old one or one of the transaction's
  (`Changes.deadLetter?_apply_cases`).

Nothing is assumed about the tables or about the changes, in particular not that names are distinct.
-/

namespace MaintenanceOutbox

namespace Store

/-! ## Lookups and membership -/

theorem id_of_row? {st : Store} {id : MessageId} {r : Row} (h : st.row? id = some r) :
    r.id = id := by
  simpa using List.find?_some h

theorem mem_of_row? {st : Store} {id : MessageId} {r : Row} (h : st.row? id = some r) :
    r ∈ st.rows :=
  List.mem_of_find?_eq_some h

theorem row?_eq_none_iff {st : Store} {id : MessageId} :
    st.row? id = none ↔ id ∉ st.rows.map Row.id := by
  simp [row?]

theorem row?_of_mem {st : Store} (distinct : (st.rows.map Row.id).Nodup) {r : Row}
    (hr : r ∈ st.rows) : st.row? r.id = some r := by
  cases h : st.row? r.id with
  | none => exact absurd (List.mem_map_of_mem hr) (row?_eq_none_iff.mp h)
  | some s =>
      have same : s.id = r.id := id_of_row? h
      rw [List.inj_on_of_nodup_map distinct (mem_of_row? h) hr same]

theorem id_of_deadLetter? {st : Store} {id : MessageId} {d : DeadLetter}
    (h : st.deadLetter? id = some d) : d.id = id := by
  simpa using List.find?_some h

theorem mem_of_deadLetter? {st : Store} {id : MessageId} {d : DeadLetter}
    (h : st.deadLetter? id = some d) : d ∈ st.deadLetters :=
  List.mem_of_find?_eq_some h

theorem deadLetter?_eq_none_iff {st : Store} {id : MessageId} :
    st.deadLetter? id = none ↔ id ∉ st.deadLetters.map (·.id) := by
  simp [deadLetter?]

theorem deadLetter?_of_mem {st : Store} (distinct : (st.deadLetters.map (·.id)).Nodup)
    {d : DeadLetter} (hd : d ∈ st.deadLetters) : st.deadLetter? d.id = some d := by
  cases h : st.deadLetter? d.id with
  | none => exact absurd (List.mem_map_of_mem hd) (deadLetter?_eq_none_iff.mp h)
  | some e =>
      have same : e.id = d.id := id_of_deadLetter? h
      rw [List.inj_on_of_nodup_map distinct (mem_of_deadLetter? h) hd same]

/-! ## Single changes -/

/-- A row that is written keeps its number. -/
theorem row?_updateRow (st : Store) (m : QueuedMessage) (id : MessageId) :
    (st.updateRow m).row? id =
      if m.id = id then (st.row? id).map fun r => { r with message := m } else st.row? id := by
  simp only [row?, updateRow]
  induction st.rows with
  | nil => simp
  | cons r rest ih =>
      by_cases written : r.id = m.id <;> by_cases found : r.id = id <;> grind [Row.id]

@[simp] theorem deadLetter?_updateRow (st : Store) (m : QueuedMessage) (id : MessageId) :
    (st.updateRow m).deadLetter? id = st.deadLetter? id := rfl

@[simp] theorem deadLetter?_pushRow (st : Store) (m : QueuedMessage) (id : MessageId) :
    (st.pushRow m).deadLetter? id = st.deadLetter? id := rfl

@[simp] theorem nextSeq_updateRow (st : Store) (m : QueuedMessage) :
    (st.updateRow m).nextSeq = st.nextSeq := rfl

@[simp] theorem row?_unlock (st : Store) (ids : List MessageId) (id : MessageId) :
    (st.unlock ids).row? id = st.row? id := rfl

/-! ## Many changes -/

/-- Changed messages go into their rows. -/
theorem row?_foldl_updateRow (ms : List QueuedMessage) (st : Store) (id : MessageId) :
    (ms.foldl updateRow st).row? id = st.row? id ∧ id ∉ ms.map (·.id) ∨
      ∃ m ∈ ms, m.id = id ∧
        (ms.foldl updateRow st).row? id = (st.row? id).map fun r => { r with message := m } := by
  induction ms generalizing st with
  | nil => simp
  | cons m rest ih =>
      rw [List.foldl_cons]
      -- a later change of the same name is what remains
      rcases ih (st.updateRow m) with ⟨same, notLater⟩ | ⟨later, hlater, hid, changed⟩
      · rw [row?_updateRow] at same
        by_cases hm : m.id = id
        · rw [if_pos hm] at same
          exact Or.inr ⟨m, List.mem_cons_self, hm, same⟩
        · rw [if_neg hm] at same
          refine Or.inl ⟨same, ?_⟩
          rw [List.map_cons, List.mem_cons, not_or]
          exact ⟨fun h => hm h.symm, notLater⟩
      · refine Or.inr ⟨later, List.mem_cons_of_mem m hlater, hid, ?_⟩
        rw [changed, row?_updateRow]
        split
        · rw [Option.map_map]
          rfl
        · rfl

/-- A change writes rows and makes none. -/
theorem isSome_row?_foldl_updateRow (ms : List QueuedMessage) (st : Store) (id : MessageId) :
    ((ms.foldl updateRow st).row? id).isSome = (st.row? id).isSome := by
  rcases row?_foldl_updateRow ms st id with ⟨same, -⟩ | ⟨m, -, -, changed⟩
  · rw [same]
  · rw [changed, Option.isSome_map]

@[simp] theorem deadLetter?_foldl_updateRow (ms : List QueuedMessage) (st : Store)
    (id : MessageId) : (ms.foldl updateRow st).deadLetter? id = st.deadLetter? id := by
  induction ms generalizing st with
  | nil => rfl
  | cons m rest ih => rw [List.foldl_cons, ih, deadLetter?_updateRow]

@[simp] theorem nextSeq_foldl_updateRow (ms : List QueuedMessage) (st : Store) :
    (ms.foldl updateRow st).nextSeq = st.nextSeq := by
  induction ms generalizing st with
  | nil => rfl
  | cons m rest ih => rw [List.foldl_cons, ih, nextSeq_updateRow]

/-- New messages get rows with new numbers. -/
theorem row?_foldl_pushRow (ms : List QueuedMessage) (st : Store) (id : MessageId) :
    (ms.foldl pushRow st).row? id = st.row? id ∧ id ∉ ms.map (·.id) ∨
      ∃ m ∈ ms, m.id = id ∧ ∃ seq, st.nextSeq ≤ seq ∧
        (ms.foldl pushRow st).row? id = some ⟨seq, m⟩ := by
  induction ms generalizing st with
  | nil => simp
  | cons m rest ih =>
      rw [List.foldl_cons]
      -- a later message of the same name takes the place of `m`
      rcases ih (st.pushRow m) with ⟨same, notLater⟩ | ⟨later, hlater, hid, seq, hseq, new⟩
      · rw [row?_pushRow] at same
        by_cases hm : m.id = id
        · rw [if_pos hm] at same
          exact Or.inr ⟨m, List.mem_cons_self, hm, st.nextSeq, Nat.le_refl _, same⟩
        · rw [if_neg hm] at same
          refine Or.inl ⟨same, ?_⟩
          rw [List.map_cons, List.mem_cons, not_or]
          exact ⟨fun h => hm h.symm, notLater⟩
      · have older : st.nextSeq ≤ seq := Nat.le_trans (Nat.le_succ st.nextSeq) hseq
        exact Or.inr ⟨later, List.mem_cons_of_mem m hlater, hid, seq, older, new⟩

@[simp] theorem deadLetter?_foldl_pushRow (ms : List QueuedMessage) (st : Store)
    (id : MessageId) : (ms.foldl pushRow st).deadLetter? id = st.deadLetter? id := by
  induction ms generalizing st with
  | nil => rfl
  | cons m rest ih => rw [List.foldl_cons, ih, deadLetter?_pushRow]

/-- Dead letters lose their rows. -/
theorem row?_foldl_bury (ds : List DeadLetter) (st : Store) (id : MessageId) :
    (ds.foldl bury st).row? id = if id ∈ ds.map (·.id) then none else st.row? id := by
  induction ds generalizing st with
  | nil => simp
  | cons d rest ih =>
      rw [List.foldl_cons, ih, row?_bury, List.map_cons]
      by_cases later : id ∈ rest.map (·.id)
      · rw [if_pos later, if_pos (List.mem_cons_of_mem _ later)]
      · by_cases hd : d.id = id
        · rw [if_neg later, if_pos hd, if_pos (by rw [hd]; exact List.mem_cons_self)]
        · have notHere : id ∉ d.id :: rest.map (·.id) := by
            rw [List.mem_cons, not_or]
            exact ⟨fun h => hd h.symm, later⟩
          rw [if_neg later, if_neg hd, if_neg notHere]

/-- A dead letter is found under its name. -/
theorem deadLetter?_foldl_bury (ds : List DeadLetter) (st : Store) (id : MessageId) :
    (ds.foldl bury st).deadLetter? id = st.deadLetter? id ∧ id ∉ ds.map (·.id) ∨
      ∃ d ∈ ds, d.id = id ∧ (ds.foldl bury st).deadLetter? id = some d := by
  induction ds generalizing st with
  | nil => simp
  | cons d rest ih =>
      rw [List.foldl_cons]
      rcases ih (st.bury d) with ⟨same, notLater⟩ | ⟨later, hlater, hid, new⟩
      · rw [deadLetter?_bury] at same
        by_cases hd : d.id = id
        · rw [if_pos hd] at same
          exact Or.inr ⟨d, List.mem_cons_self, hd, same⟩
        · rw [if_neg hd] at same
          refine Or.inl ⟨same, ?_⟩
          rw [List.map_cons, List.mem_cons, not_or]
          exact ⟨fun h => hd h.symm, notLater⟩
      · exact Or.inr ⟨later, List.mem_cons_of_mem d hlater, hid, new⟩

end Store

/-! ## The commit -/

namespace Changes

open Store

/-- The names that the changes are about. -/
def names (c : Changes) : List MessageId :=
  c.inserted.map (·.id) ++ c.updated.map (·.id) ++ c.deadLettered.map (·.id)

theorem mem_names {c : Changes} {id : MessageId} :
    id ∈ c.names ↔
      id ∈ c.inserted.map (·.id) ∨ id ∈ c.updated.map (·.id) ∨ id ∈ c.deadLettered.map (·.id) := by
  rw [names, List.mem_append, List.mem_append, or_assoc]

theorem isDeadLettered_iff {c : Changes} {id : MessageId} :
    c.isDeadLettered id = true ↔ id ∈ c.deadLettered.map (·.id) := by
  simp [isDeadLettered]

theorem inserted?_eq_none_iff {c : Changes} {id : MessageId} :
    c.inserted? id = none ↔ id ∉ c.inserted.map (·.id) := by
  simp [inserted?]

theorem updated?_eq_none_iff {c : Changes} {id : MessageId} :
    c.updated? id = none ↔ id ∉ c.updated.map (·.id) := by
  simp [updated?]

theorem row?_apply_buried {c : Changes} {id : MessageId} (st : Store)
    (h : id ∈ c.deadLettered.map (·.id)) : (c.apply st).row? id = none := by
  rw [apply, row?_foldl_bury, if_pos h]

/-- **What is found in the rows after a commit**: an old row, an old row with a changed message, or
a new row. -/
theorem row?_apply_cases {c : Changes} {st : Store} {id : MessageId} {r : Row}
    (h : (c.apply st).row? id = some r) :
    id ∉ c.deadLettered.map (·.id) ∧
      (st.row? id = some r ∧ id ∉ c.names ∨
        (∃ old, st.row? id = some old ∧
          ∃ m ∈ c.updated, m.id = id ∧ r = { old with message := m }) ∨
        ∃ m ∈ c.inserted, m.id = id ∧ r.message = m ∧ st.nextSeq ≤ r.seq) := by
  -- from the last fold to the first: dead letters, new messages, changed messages
  rw [apply, row?_foldl_bury] at h
  split at h
  · cases h
  · next notBuried =>
      refine ⟨notBuried, ?_⟩
      rcases row?_foldl_pushRow c.inserted (c.updated.foldl updateRow st) id with
        ⟨same, notNew⟩ | ⟨m, hm, hid, seq, hseq, new⟩
      · rw [same] at h
        rcases row?_foldl_updateRow c.updated st id with ⟨same', notChanged⟩ | ⟨m, hm, hid, changed⟩
        · rw [same'] at h
          refine Or.inl ⟨h, ?_⟩
          rw [mem_names, not_or, not_or]
          exact ⟨notNew, notChanged, notBuried⟩
        · rw [changed] at h
          obtain ⟨old, hold, hr⟩ := Option.map_eq_some_iff.mp h
          exact Or.inr (Or.inl ⟨old, hold, m, hm, hid, hr.symm⟩)
      · rw [new, Option.some.injEq] at h
        rw [nextSeq_foldl_updateRow] at hseq
        subst h
        exact Or.inr (Or.inr ⟨m, hm, hid, rfl, hseq⟩)

/-- **What is found among the dead letters after a commit**: an old one, or one of the
transaction's. -/
theorem deadLetter?_apply_cases (c : Changes) (st : Store) (id : MessageId) :
    (c.apply st).deadLetter? id = st.deadLetter? id ∧ id ∉ c.deadLettered.map (·.id) ∨
      ∃ d ∈ c.deadLettered, d.id = id ∧ (c.apply st).deadLetter? id = some d := by
  have h := deadLetter?_foldl_bury c.deadLettered
    (c.inserted.foldl pushRow (c.updated.foldl updateRow st)) id
  rwa [deadLetter?_foldl_pushRow, deadLetter?_foldl_updateRow] at h

/-- A new message that was not buried has a row, with a number that no earlier row has. -/
theorem row?_apply_inserted {c : Changes} {id : MessageId} (st : Store)
    (new : id ∈ c.inserted.map (·.id)) (notBuried : id ∉ c.deadLettered.map (·.id)) :
    ∃ m ∈ c.inserted, m.id = id ∧ ∃ seq, st.nextSeq ≤ seq ∧
      (c.apply st).row? id = some ⟨seq, m⟩ := by
  rw [apply, row?_foldl_bury, if_neg notBuried]
  rcases row?_foldl_pushRow c.inserted (c.updated.foldl updateRow st) id with
    ⟨-, notNew⟩ | pushed
  · exact absurd new notNew
  · rwa [nextSeq_foldl_updateRow] at pushed

/-- The rows of other messages keep existing. -/
theorem isSome_row?_apply {c : Changes} {id : MessageId} (st : Store)
    (notNew : id ∉ c.inserted.map (·.id)) (notBuried : id ∉ c.deadLettered.map (·.id)) :
    ((c.apply st).row? id).isSome = (st.row? id).isSome := by
  rw [apply, row?_foldl_bury, if_neg notBuried]
  rcases row?_foldl_pushRow c.inserted (c.updated.foldl updateRow st) id with
    ⟨same, -⟩ | ⟨m, hm, hid, -⟩
  · rw [same, isSome_row?_foldl_updateRow]
  · exact absurd (hid ▸ List.mem_map_of_mem hm) notNew

/-- **Frame.** The row of a message that the changes are not about stays. -/
theorem row?_apply_frame {c : Changes} {id : MessageId} (st : Store) (h : id ∉ c.names) :
    (c.apply st).row? id = st.row? id := by
  rw [mem_names, not_or, not_or] at h
  obtain ⟨notNew, notChanged, notBuried⟩ := h
  rw [apply, row?_foldl_bury, if_neg notBuried]
  rcases row?_foldl_pushRow c.inserted (c.updated.foldl updateRow st) id with
    ⟨same, -⟩ | ⟨m, hm, hid, -⟩
  · rw [same]
    rcases row?_foldl_updateRow c.updated st id with ⟨same', -⟩ | ⟨m, hm, hid, -⟩
    · exact same'
    · exact absurd (hid ▸ List.mem_map_of_mem hm) notChanged
  · exact absurd (hid ▸ List.mem_map_of_mem hm) notNew

/-- **Frame.** The dead letter of a message that was not buried stays. -/
theorem deadLetter?_apply_frame {c : Changes} {id : MessageId} (st : Store)
    (h : id ∉ c.deadLettered.map (·.id)) : (c.apply st).deadLetter? id = st.deadLetter? id := by
  rcases deadLetter?_apply_cases c st id with ⟨same, -⟩ | ⟨d, hd, hid, -⟩
  · exact same
  · exact absurd (hid ▸ List.mem_map_of_mem hd) h

end Changes

end MaintenanceOutbox
