import MaintenanceOutbox.Proofs.Store.Order
import Mathlib.Data.List.Sort

set_option autoImplicit false

/-! # The listing of dead letters

Dead letters are listed by the time at which they became ones, and those of the same time by name.
`DeadLetter.place` is that pair, ordered lexicographically. Many dead letters can have the same
time, but no two have the same name (`Store.Tidy`), so that no two have the same place. There is one
way to list them, then, and it does not depend on the order in which the table is read
(`DeadLetter.sort_eq_of_perm`).

A listing with a limit is the front part of the whole listing, and a dead letter that is put back
into the queue or deleted leaves the whole listing without moving any other.
-/

namespace MaintenanceOutbox

namespace DeadLetter

/-- **The order of listing**: by the time at which they became dead letters, and then by name. -/
def ListedBefore (d e : DeadLetter) : Prop :=
  d.movedAt < e.movedAt ∨ d.movedAt = e.movedAt ∧ d.id < e.id

/-- Where a dead letter stands in a listing. -/
def place (d : DeadLetter) : ℤ ×ₗ ℕ :=
  toLex (d.movedAt.rank, d.id.uuid.value)

theorem place_lt_iff {d e : DeadLetter} : d.place < e.place ↔ d.ListedBefore e := by
  rw [place, place, Prod.Lex.toLex_lt_toLex]
  exact or_congr Iff.rfl (and_congr_left' Timestamp.rank_injective.eq_iff)

theorem before_iff {d e : DeadLetter} : d.before e = true ↔ d.place < e.place := by
  have later : ¬ e.movedAt < d.movedAt ↔ d.movedAt.rank ≤ e.movedAt.rank :=
    not_lt (a := e.movedAt.rank)
  have sooner : d.movedAt < e.movedAt ↔ d.movedAt.rank < e.movedAt.rank := Iff.rfl
  have name : d.id < e.id ↔ d.id.uuid.value < e.id.uuid.value := Iff.rfl
  rw [place, place, Prod.Lex.toLex_lt_toLex, before, Bool.or_eq_true, Bool.and_eq_true,
    Bool.not_eq_true', decide_eq_false_iff_not, decide_eq_true_iff, decide_eq_true_iff, later,
    sooner, name]
  dsimp only
  omega

/-- The place tells the name. -/
theorem id_eq_of_place_eq {d e : DeadLetter} (same : d.place = e.place) : d.id = e.id := by
  have value : d.id.uuid.value = e.id.uuid.value := congrArg (fun place => (ofLex place).2) same
  revert value
  cases d.id with
  | mk u =>
      cases e.id with
      | mk v =>
          cases u
          cases v
          rintro rfl
          rfl

/-! ## Sorting -/

theorem insertSorted_perm (d : DeadLetter) (letters : List DeadLetter) :
    (insertSorted d letters).Perm (d :: letters) := by
  have inserted : insertSorted d letters = letters.orderedInsert (·.before ·) d := by
    induction letters with
    | nil => rfl
    | cons e rest ih => rw [insertSorted, List.orderedInsert_cons, ih]
  rw [inserted]
  exact List.perm_orderedInsert _ d letters

theorem sort_perm (letters : List DeadLetter) : (sort letters).Perm letters := by
  induction letters with
  | nil => exact List.Perm.refl _
  | cons d rest ih => exact (insertSorted_perm d (sort rest)).trans (ih.cons d)

/-- A dead letter with a place of its own goes between those before it and those behind it. -/
theorem insertSorted_sorted {letters : List DeadLetter}
    (sorted : letters.Pairwise (·.place < ·.place)) {d : DeadLetter}
    (apart : ∀ e ∈ letters, e.place ≠ d.place) :
    (insertSorted d letters).Pairwise (·.place < ·.place) := by
  induction letters with
  | nil => exact List.pairwise_singleton _ d
  | cons e rest ih =>
      obtain ⟨least, sorted⟩ := List.pairwise_cons.mp sorted
      obtain ⟨notHere, notLater⟩ := List.forall_mem_cons.mp apart
      rw [insertSorted]
      split
      · next sooner =>
          have lt := before_iff.mp sooner
          refine List.pairwise_cons.mpr ⟨?_, List.pairwise_cons.mpr ⟨least, sorted⟩⟩
          exact List.forall_mem_cons.mpr ⟨lt, fun x hx => lt.trans (least x hx)⟩
      · next notSooner =>
          have lt : e.place < d.place :=
            lt_of_le_of_ne (not_lt.mp (mt before_iff.mpr notSooner)) notHere
          refine List.pairwise_cons.mpr ⟨?_, ih sorted notLater⟩
          intro x hx
          rcases List.mem_cons.mp ((insertSorted_perm d rest).mem_iff.mp hx) with rfl | later
          · exact lt
          · exact least x later

/-- **Dead letters of different names are listed in strict order.** -/
theorem sort_sorted {letters : List DeadLetter} (distinct : (letters.map (·.id)).Nodup) :
    (sort letters).Pairwise (·.place < ·.place) := by
  induction letters with
  | nil => exact List.Pairwise.nil
  | cons d rest ih =>
      obtain ⟨new, distinct⟩ := List.nodup_cons.mp distinct
      refine insertSorted_sorted (ih distinct) ?_
      intro e he same
      have there : e ∈ rest := (sort_perm rest).mem_iff.mp he
      exact new (List.mem_map.mpr ⟨e, there, id_eq_of_place_eq same⟩)

/-- A strict order can be listed in one way only. -/
theorem eq_of_sorted {letters others : List DeadLetter} (same : letters.Perm others)
    (sorted : letters.Pairwise (·.place < ·.place))
    (sorted' : others.Pairwise (·.place < ·.place)) : letters = others :=
  same.eq_of_pairwise (fun _ _ _ _ before after => absurd (before.trans after) (lt_irrefl _))
    sorted sorted'

/-- **The listing does not depend on the order of the table.** -/
theorem sort_eq_of_perm {letters others : List DeadLetter}
    (distinct : (letters.map (·.id)).Nodup) (same : letters.Perm others) :
    sort letters = sort others :=
  eq_of_sorted ((sort_perm letters).trans (same.trans (sort_perm others).symm))
    (sort_sorted distinct) (sort_sorted ((same.map _).nodup_iff.mp distinct))

/-- What is dropped from the table is dropped from the listing, and nothing else moves. -/
theorem sort_filter {letters : List DeadLetter} (distinct : (letters.map (·.id)).Nodup)
    (keep : DeadLetter → Bool) : sort (letters.filter keep) = (sort letters).filter keep :=
  eq_of_sorted ((sort_perm _).trans ((sort_perm letters).filter keep).symm)
    (sort_sorted (distinct.sublist (List.filter_sublist.map _))) ((sort_sorted distinct).filter _)

/-- **A listing of at most `limit` dead letters** out of those in the table: in strict order, as
many as there are and the limit allows, and those that come first. -/
structure IsListing (table : List DeadLetter) (limit : Nat) (listed : List DeadLetter) : Prop where
  sorted : listed.Pairwise ListedBefore
  length : listed.length = min limit table.length
  stored : ∀ d ∈ listed, d ∈ table
  rest : ∀ d ∈ table, d ∉ listed → ∀ e ∈ listed, e.ListedBefore d

end DeadLetter

namespace Store

variable {st st' : Store}

/-- All dead letters, in the order of listing. -/
def allDeadLetters (st : Store) : List DeadLetter :=
  st.listDeadLetters st.deadLetters.length

/-- **One dead letter has left the listing** between `st` and `st'`, and all others are listed as
before. -/
def Unlists (st : Store) (d : DeadLetter) (st' : Store) : Prop :=
  ∃ front back, st.allDeadLetters = front ++ d :: back ∧ st'.allDeadLetters = front ++ back

theorem allDeadLetters_eq (st : Store) : st.allDeadLetters = DeadLetter.sort st.deadLetters :=
  List.take_of_length_le (DeadLetter.sort_perm _).length_eq.le

/-- **Tidy tables are listed** as far as the limit goes. -/
theorem Tidy.isListing (tidy : st.Tidy) (limit : Nat) :
    DeadLetter.IsListing st.deadLetters limit (st.listDeadLetters limit) := by
  have sorted := DeadLetter.sort_sorted tidy.deadLetters
  have same := DeadLetter.sort_perm st.deadLetters
  refine ⟨?_, ?_, ?_, ?_⟩
  · refine (sorted.sublist (List.take_sublist limit _)).imp ?_
    exact DeadLetter.place_lt_iff.mp
  · rw [listDeadLetters, List.length_take, same.length_eq]
  · intro d hd
    exact same.mem_iff.mp (List.mem_of_mem_take hd)
  · intro d hd unlisted e he
    -- what is not in the front part of the sorted table is in the rest
    have there := same.mem_iff.mpr hd
    rw [← List.take_append_drop limit (DeadLetter.sort st.deadLetters)] at there sorted
    have behind := (List.mem_append.mp there).resolve_left unlisted
    exact DeadLetter.place_lt_iff.mp ((List.pairwise_append.mp sorted).2.2 e he d behind)

/-- What takes one dead letter out of the table takes it out of the listing. -/
theorem Tidy.unlists (tidy : st.Tidy) {d : DeadLetter} (hd : d ∈ st.deadLetters)
    (fewer : st'.deadLetters = st.deadLetters.filter (·.id ≠ d.id)) : st.Unlists d st' := by
  have distinct : ((DeadLetter.sort st.deadLetters).map (·.id)).Nodup :=
    ((DeadLetter.sort_perm _).map _).nodup_iff.mpr tidy.deadLetters
  obtain ⟨front, back, split⟩ :=
    List.append_of_mem ((DeadLetter.sort_perm st.deadLetters).mem_iff.mpr hd)
  refine ⟨front, back, (allDeadLetters_eq st).trans split, ?_⟩
  rw [allDeadLetters_eq, fewer, DeadLetter.sort_filter tidy.deadLetters, split]
  -- no other entry has the name
  rw [split, List.map_append, List.map_cons, List.nodup_middle, List.nodup_cons,
    List.mem_append, not_or] at distinct
  obtain ⟨⟨notBefore, notBehind⟩, -⟩ := distinct
  have kept : ∀ {letters : List DeadLetter}, d.id ∉ letters.map (·.id) →
      letters.filter (·.id ≠ d.id) = letters := by
    intro letters absent
    refine List.filter_eq_self.mpr fun e he => decide_eq_true fun same => ?_
    exact absent (same ▸ List.mem_map_of_mem he)
  rw [List.filter_append, kept notBefore, List.filter_cons_of_neg (by simp), kept notBehind]

theorem requeue_deadLetters {id : MessageId} {m : QueuedMessage}
    (done : st.requeue id = .ok (m, st')) :
    st'.deadLetters = st.deadLetters.filter (·.id ≠ id) := by
  rw [requeue] at done
  split at done
  · cases done
  · cases done
    rfl

theorem deleteDeadLetter_deadLetters {id : MessageId} (done : st.deleteDeadLetter id = .ok st') :
    st'.deadLetters = st.deadLetters.filter (·.id ≠ id) := by
  rw [deleteDeadLetter] at done
  split at done
  · cases done
  · cases done
    rfl

end Store

namespace System

/-- **The listing of dead letters is the front part of one sorted list.** After every run: a listing
is in strict order, as long as the limit and the table allow, and what it leaves out comes behind
what it has; it does not depend on the order of the table; smaller limits give shorter fronts of the
same list; and to put a dead letter back into the queue, or to delete it, takes that one out of the
list and leaves the others in their order. Under a name without a dead letter both are refused. -/
theorem listing_run {n : Nat} {i : StoreId} (hi : i.index < n) (calls : List Call) :
    let s := (ofSize n).run calls
    let st := s.store i
    (∀ limit, DeadLetter.IsListing st.deadLetters limit (st.listDeadLetters limit)) ∧
      (∀ letters limit, letters.Perm st.deadLetters →
        { st with deadLetters := letters }.listDeadLetters limit = st.listDeadLetters limit) ∧
      (∀ k l, k ≤ l → st.listDeadLetters k <+: st.listDeadLetters l) ∧
      (∀ d ∈ st.deadLetters,
        (s.requeue i d.id).1 = .ok d.requeued ∧ st.Unlists d ((s.requeue i d.id).2.store i) ∧
        (s.deleteDeadLetter i d.id).1 = .ok () ∧
          st.Unlists d ((s.deleteDeadLetter i d.id).2.store i)) ∧
      ∀ id, id ∉ st.deadLetters.map (·.id) →
        s.requeue i id = (.error (.notFound id), s) ∧
          s.deleteDeadLetter i id = (.error (.notFound id), s) := by
  intro s st
  have tidy : st.Tidy := tidy_run hi calls
  have hi' : i.index < s.stores.length := index_lt_run hi calls
  refine ⟨tidy.isListing, ?_, ?_, ?_, ?_⟩
  · intro letters limit same
    show (DeadLetter.sort letters).take limit = (DeadLetter.sort st.deadLetters).take limit
    rw [DeadLetter.sort_eq_of_perm tidy.deadLetters same.symm]
  · intro k l le
    exact List.take_prefix_take_left le
  · intro d hd
    have found := Store.deadLetter?_of_mem tidy.deadLetters hd
    -- both calls find the dead letter
    obtain ⟨st₁, back⟩ : ∃ st₁, st.requeue d.id = .ok (d.requeued, st₁) := by
      rw [Store.requeue, found]
      exact ⟨_, rfl⟩
    obtain ⟨st₂, gone⟩ : ∃ st₂, st.deleteDeadLetter d.id = .ok st₂ := by
      rw [Store.deleteDeadLetter, found]
      exact ⟨_, rfl⟩
    have requeued : s.requeue i d.id = (.ok d.requeued, s.setStore i st₁) := by
      rw [requeue, show s.store i = st from rfl, back]
    have deleted : s.deleteDeadLetter i d.id = (.ok (), s.setStore i st₂) := by
      rw [deleteDeadLetter, show s.store i = st from rfl, gone]
    rw [requeued, deleted]
    dsimp only
    rw [store_setStore_self hi', store_setStore_self hi']
    exact ⟨rfl, tidy.unlists hd (Store.requeue_deadLetters back), rfl,
      tidy.unlists hd (Store.deleteDeadLetter_deadLetters gone)⟩
  · intro id absent
    have none' : st.deadLetter? id = none := Store.deadLetter?_eq_none_iff.mpr absent
    constructor
    · rw [requeue, show s.store i = st from rfl, Store.requeue, none']
    · rw [deleteDeadLetter, show s.store i = st from rfl, Store.deleteDeadLetter, none']

/-- A run in which two messages use up their attempts at the same time, the one with the greater
name first. -/
def failingTogether : List Call :=
  let m (id : MessageId) := { QueuedMessage.fresh id default "ping" .null with maxRetries := 1 }
  [.beginTx ⟨0⟩, .request default ⟨0⟩ ⟨0⟩ (.add (m ⟨.ofNat 1⟩)),
    .request default ⟨0⟩ ⟨0⟩ (.add (m default)),
    .request default ⟨0⟩ ⟨0⟩ (.incrementRetry ⟨.ofNat 1⟩ "down"),
    .request default ⟨0⟩ ⟨0⟩ (.incrementRetry default "down"), .commit ⟨0⟩ ⟨0⟩]

/-- The two dead letters of `failingTogether` have the same time and are listed by name, the other
way round than they stand in the table; and each leaves the listing alone. -/
theorem listing_run_failingTogether :
    let s := (ofSize 1).run failingTogether
    let st := s.store ⟨0⟩
    st.deadLetters.map (·.id) = [⟨.ofNat 1⟩, default] ∧
      st.allDeadLetters.map (·.id) = [default, ⟨.ofNat 1⟩] ∧
      (∀ limit, DeadLetter.IsListing st.deadLetters limit (st.listDeadLetters limit)) ∧
      ∀ d ∈ st.deadLetters, st.Unlists d ((s.requeue ⟨0⟩ d.id).2.store ⟨0⟩) := by
  intro s st
  have main := listing_run (n := 1) (i := ⟨0⟩) (by decide) failingTogether
  exact ⟨by decide, by decide, main.1, fun d hd => (main.2.2.2.1 d hd).2.1⟩

end System

end MaintenanceOutbox
