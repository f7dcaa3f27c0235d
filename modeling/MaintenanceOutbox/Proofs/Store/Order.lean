import MaintenanceOutbox.Proofs.Store.Attempt
import Mathlib.Data.Prod.Lex

set_option autoImplicit false

/-! # The order of delivery

Rows are delivered by their time of creation, and rows created at the same time by their numbers.
`Row.turn` is that pair, ordered lexicographically, and both ways in which a store looks at its rows
follow it: the row that is taken first has the least turn (`Row.turn_le_of_first?`), and a listing
goes up in turns (`Row.sort_sorted`).

**No two rows of a store have the same turn**, as their numbers differ. The rows stand in a table in
the order in which their numbers were drawn, behind them the number that is drawn next
(`Store.Numbered`), and nothing that happens to a store changes that (`System.numbered_run`). So
there is one row with the least turn, in whatever order the table is searched.
-/

namespace MaintenanceOutbox

namespace Timestamp

/-- Times are told apart by their ranks: no part of a time outweighs the one before it. -/
theorem rank_injective : Function.Injective rank := by
  intro t u same
  have days := Nat.le_trans t.date.ok.2.2.2.2.2 (Date.daysInMonth_le t.date.year t.date.month)
  have days' := Nat.le_trans u.date.ok.2.2.2.2.2 (Date.daysInMonth_le u.date.year u.date.month)
  have months := t.date.ok.2.2.2.1
  have months' := u.date.ok.2.2.2.1
  obtain ⟨hours, minutes, seconds, nanoseconds⟩ := t.ok
  obtain ⟨hours', minutes', seconds', nanoseconds'⟩ := u.ok
  unfold rank at same
  unfold secondSize at same nanoseconds nanoseconds'
  -- the parts agree one after the other, from the smallest to the year
  have nanosecond : t.nanosecond = u.nanosecond := by omega
  have second : t.second = u.second := by omega
  have minute : t.minute = u.minute := by omega
  have hour : t.hour = u.hour := by omega
  have day : t.date.day = u.date.day := by omega
  have month : t.date.month = u.date.month := by omega
  have year : t.date.year = u.date.year := by omega
  obtain ⟨⟨_, _, _, _⟩, _, _, _, _, _⟩ := t
  obtain ⟨⟨_, _, _, _⟩, _, _, _, _, _⟩ := u
  simp only at nanosecond second minute hour day month year
  subst nanosecond second minute hour day month year
  rfl

end Timestamp

namespace Row

/-- **When a row is delivered**: by its time of creation, and then by its number. -/
def turn (r : Row) : ℤ ×ₗ ℕ :=
  toLex (r.message.createdAt.rank, r.seq)

theorem turn_lt_iff {r s : Row} :
    r.turn < s.turn ↔ r.message.createdAt < s.message.createdAt ∨
      r.message.createdAt = s.message.createdAt ∧ r.seq < s.seq := by
  rw [turn, turn, Prod.Lex.toLex_lt_toLex]
  exact or_congr Iff.rfl (and_congr_left' Timestamp.rank_injective.eq_iff)

/-- One row is delivered before another one if its turn comes first. -/
theorem before_iff {r s : Row} : r.before s = true ↔ r.turn < s.turn := by
  have later : ¬ s.message.createdAt < r.message.createdAt ↔
      r.message.createdAt.rank ≤ s.message.createdAt.rank :=
    not_lt (a := s.message.createdAt.rank)
  have sooner : r.message.createdAt < s.message.createdAt ↔
      r.message.createdAt.rank < s.message.createdAt.rank := Iff.rfl
  rw [turn, turn, Prod.Lex.toLex_lt_toLex, before, deliveredBefore, Bool.or_eq_true,
    Bool.and_eq_true, Bool.not_eq_true', decide_eq_false_iff_not, decide_eq_true_iff,
    decide_eq_true_iff, later, sooner]
  omega

theorem seq_eq_of_turn_eq {r s : Row} (same : r.turn = s.turn) : r.seq = s.seq :=
  congrArg (fun turn => (ofLex turn).2) same

/-! ## The first row -/

/-- **The row that is taken has the least turn.** -/
theorem turn_le_of_first? {rows : List Row} {r : Row} (first : first? rows = some r) :
    ∀ s ∈ rows, r.turn ≤ s.turn := by
  induction rows generalizing r with
  | nil => cases first
  | cons s rest ih =>
      rw [first?] at first
      split at first
      · next none' =>
          cases first
          rw [first?_eq_none_iff.mp none']
          intro x hx
          rw [List.mem_singleton.mp hx]
      · next t found =>
          have least := ih found
          split at first
          · next sooner =>
              cases first
              exact List.forall_mem_cons.mpr ⟨(before_iff.mp sooner).le, least⟩
          · next notSooner =>
              cases first
              have le : s.turn ≤ t.turn := not_lt.mp (mt before_iff.mpr notSooner)
              exact List.forall_mem_cons.mpr ⟨le_rfl, fun x hx => le.trans (least x hx)⟩

/-- The first of two lists is the first of the firsts; of two that are level, the one in front. -/
theorem first?_append (front back : List Row) :
    first? (front ++ back) =
      match first? front, first? back with
      | none, b? => b?
      | some a, b? => some ((b?.filter (·.before a)).getD a) := by
  induction front with
  | nil => rfl
  | cons r rest ih =>
      rw [List.cons_append, first?, ih, first?]
      cases first? rest with
      | none =>
          cases first? back with
          | none => rfl
          | some b => by_cases sooner : b.before r <;> simp [sooner, Option.filter]
      | some a =>
          cases first? back with
          | none => by_cases sooner : a.before r <;> simp [sooner]
          | some b =>
              -- which of the three comes first
              simp only [Option.filter, before_iff]
              grind [before_iff]

/-! ## Listings -/

theorem insertSorted_perm (r : Row) (rows : List Row) : (insertSorted r rows).Perm (r :: rows) := by
  induction rows with
  | nil => exact List.Perm.refl _
  | cons s rest ih =>
      rw [insertSorted]
      split
      · exact List.Perm.refl _
      · exact (ih.cons s).trans (List.Perm.swap r s rest)

theorem sort_perm (rows : List Row) : (sort rows).Perm rows := by
  induction rows with
  | nil => exact List.Perm.refl _
  | cons r rest ih => exact (insertSorted_perm r (sort rest)).trans (ih.cons r)

theorem insertSorted_sorted {rows : List Row} (sorted : rows.Pairwise (·.turn ≤ ·.turn))
    (r : Row) : (insertSorted r rows).Pairwise (·.turn ≤ ·.turn) := by
  induction rows with
  | nil => exact List.pairwise_singleton _ r
  | cons s rest ih =>
      obtain ⟨least, sorted⟩ := List.pairwise_cons.mp sorted
      rw [insertSorted]
      split
      · next sooner =>
          have lt := before_iff.mp sooner
          refine List.pairwise_cons.mpr ⟨?_, List.pairwise_cons.mpr ⟨least, sorted⟩⟩
          exact List.forall_mem_cons.mpr ⟨lt.le, fun x hx => lt.le.trans (least x hx)⟩
      · next notSooner =>
          refine List.pairwise_cons.mpr ⟨?_, ih sorted⟩
          intro x hx
          rcases List.mem_cons.mp ((insertSorted_perm r rest).mem_iff.mp hx) with rfl | later
          · exact not_lt.mp (mt before_iff.mpr notSooner)
          · exact least x later

/-- **A listing goes up in turns.** -/
theorem sort_sorted (rows : List Row) : (sort rows).Pairwise (·.turn ≤ ·.turn) := by
  induction rows with
  | nil => exact List.Pairwise.nil
  | cons r rest ih => exact insertSorted_sorted ih r

/-- What a listing has first of some kind is the row of that kind that is taken first. -/
theorem find?_sort {rows : List Row} (apart : (rows.map seq).Nodup) (p : Row → Bool) :
    (sort rows).find? p = first? (rows.filter p) := by
  have same : ((sort rows).filter p).Perm (rows.filter p) := (sort_perm rows).filter p
  rw [← List.head?_filter]
  cases first : first? (rows.filter p) with
  | none =>
      rw [first?_eq_none_iff.mp first] at same
      rw [same.eq_nil]
      rfl
  | some r =>
      have here := mem_of_first? first
      cases listed : (sort rows).filter p with
      | nil => exact absurd (same.mem_iff.mpr here) (listed ▸ List.not_mem_nil)
      | cons s rest =>
          have there : s ∈ rows.filter p := same.mem_iff.mp (listed ▸ List.mem_cons_self)
          have sorted := (sort_sorted rows).filter p
          have least : s.turn ≤ r.turn := by
            rw [listed] at sorted
            have found := same.mem_iff.mpr here
            rw [listed] at found
            rcases List.mem_cons.mp found with rfl | later
            · exact le_rfl
            · exact (List.pairwise_cons.mp sorted).1 r later
          have level := least.antisymm (turn_le_of_first? first s there)
          have equal := List.inj_on_of_nodup_map apart (List.mem_filter.mp there).1
            (List.mem_filter.mp here).1 (seq_eq_of_turn_eq level)
          rw [equal]
          rfl

end Row

namespace Store

/-- **If nothing is locked, the claimable row with the least turn is next.** -/
theorem turn_le_of_next? {st : Store} (unlocked : st.locked = []) {r : Row}
    (next : st.next? = some r) :
    ∀ s ∈ st.rows, s.message.isClaimable = true → r.turn ≤ s.turn := by
  intro s hs claimable
  refine Row.turn_le_of_first? next s (List.mem_filter.mpr ⟨hs, ?_⟩)
  simp [claimable, isLocked, unlocked]

/-- If nothing is locked and something is claimable, some row is next. -/
theorem exists_next? {st : Store} (unlocked : st.locked = []) {s : Row} (hs : s ∈ st.rows)
    (claimable : s.message.isClaimable = true) : ∃ r, st.next? = some r ∧ r.turn ≤ s.turn := by
  cases next : st.next? with
  | none =>
      have locked := next?_eq_none_iff.mp next s hs claimable
      simp [isLocked, unlocked] at locked
  | some r => exact ⟨r, rfl, turn_le_of_next? unlocked next s hs claimable⟩

/-! ## Numbers -/

/-- **Rows stand in the order of their numbers**, and behind them all is the next number. -/
def Numbered (st : Store) : Prop :=
  (st.rows.map Row.seq ++ [st.nextSeq]).Pairwise (· < ·)

theorem numbered_empty : ({} : Store).Numbered :=
  List.pairwise_singleton _ 0

namespace Numbered

variable {st : Store}

/-- No number stands twice. -/
theorem nodup (numbered : st.Numbered) : (st.rows.map Row.seq).Nodup :=
  (List.pairwise_append.mp numbered).1.imp Nat.ne_of_lt

theorem seq_lt (numbered : st.Numbered) {r : Row} (hr : r ∈ st.rows) : r.seq < st.nextSeq :=
  (List.pairwise_append.mp numbered).2.2 r.seq (List.mem_map_of_mem hr) st.nextSeq
    (List.mem_singleton.mpr rfl)

/-- Rows may be taken away. -/
theorem of_sublist (numbered : st.Numbered) {rows : List Row} (fewer : rows.Sublist st.rows) :
    { st with rows := rows : Store }.Numbered :=
  numbered.sublist ((fewer.map Row.seq).append (List.Sublist.refl _))

/-- The numbers and the next number are all that matters. -/
theorem congr (numbered : st.Numbered) {st' : Store}
    (rows : st'.rows.map Row.seq = st.rows.map Row.seq) (next : st'.nextSeq = st.nextSeq) :
    st'.Numbered := by
  rw [Numbered, rows, next]
  exact numbered

theorem updateRow (numbered : st.Numbered) (m : QueuedMessage) : (st.updateRow m).Numbered := by
  refine numbered.congr ?_ rfl
  rw [Store.updateRow, List.map_map]
  exact List.map_congr_left fun r _ => (apply_ite Row.seq _ _ _).trans (ite_self r.seq)

theorem pushRow (numbered : st.Numbered) (m : QueuedMessage) : (st.pushRow m).Numbered := by
  have old : ((st.rows.filter (·.id ≠ m.id)).map Row.seq ++ [st.nextSeq]).Pairwise (· < ·) :=
    numbered.sublist ((List.filter_sublist.map Row.seq).append (List.Sublist.refl _))
  have rows : (st.pushRow m).rows.map Row.seq =
      (st.rows.filter (·.id ≠ m.id)).map Row.seq ++ [st.nextSeq] := List.map_append
  rw [Numbered, rows, List.pairwise_append]
  refine ⟨old, List.pairwise_singleton _ _, ?_⟩
  intro n hn next hnext
  rw [List.mem_singleton.mp hnext]
  rcases List.mem_append.mp hn with before | new
  · obtain ⟨r, hr, rfl⟩ := List.mem_map.mp before
    exact Nat.lt_succ_of_lt (numbered.seq_lt (List.mem_filter.mp hr).1)
  · rw [List.mem_singleton.mp new]
    exact Nat.lt_succ_self st.nextSeq

end Numbered

theorem numbered_lasting : Lasting Numbered where
  updateRow := Numbered.updateRow
  pushRow := Numbered.pushRow
  bury numbered _ := numbered.of_sublist List.filter_sublist
  fewerRows numbered _ := numbered.of_sublist List.filter_sublist
  fewerDeadLetters numbered _ := numbered.congr rfl rfl
  locked numbered _ := numbered.congr rfl rfl

end Store

/-- **Rows stand in the order of their numbers**, after every run. -/
theorem System.numbered_run {n : Nat} {i : StoreId} (hi : i.index < n) (calls : List Call) :
    (((ofSize n).run calls).store i).Numbered :=
  lasting_run Store.numbered_lasting Store.numbered_empty hi calls

end MaintenanceOutbox
