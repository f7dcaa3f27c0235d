import MaintenanceOutbox.Proofs.Store.Sight

set_option autoImplicit false

/-! # Does a transaction commit what it sees?

A session is one transaction at work: it begins on a store, is asked for one thing after the other,
and nobody else makes a call meanwhile (`System.session`). Whatever was asked for, the commit is
accepted. What it writes is what the transaction saw (`System.CommitsSight`), in the same order, as
long as no message is added under a name that the transaction buried before
(`System.AddsUnburied`). This is exact (`System.commit_sight`): if such a message is added, a commit
right after that drops it.

The duplicate check of an addition lets it through. It looks at the rows, at the committed dead
letters and at the new messages of the transaction, and not at its own dead letters
(`System.not_commitsSight_readded`).
-/

namespace MaintenanceOutbox

namespace System

variable {s : System} {i : StoreId}

/-! ## Sessions -/

/-- The system after a transaction was begun on store `i` and asked for some things. -/
def session (s : System) (i : StoreId) (qs : List (Timestamp × TxRequest)) : System :=
  s.run (.beginTx i :: qs.map fun q => .request q.1 i ⟨s.begun⟩ q.2)

/-- The tables of store `i` after a session on it and its commit. -/
def committed (s : System) (i : StoreId) (qs : List (Timestamp × TxRequest)) : Store :=
  ((s.session i qs).commit i ⟨s.begun⟩).2.store i

/-- What an open transaction sees. -/
def sight (s : System) (h : TxHandle) : List QueuedMessage :=
  match s.open? h with
  | none => []
  | some t => t.tx.sight (s.store t.home)

/-- The names of the messages that an open transaction made dead letters. -/
def buriedBy (s : System) (h : TxHandle) : List MessageId :=
  match s.open? h with
  | none => []
  | some t => t.tx.changes.deadLettered.map (·.id)

/-- **The session commits what it sees**: the messages after its commit are those that the
transaction saw, in the same order. -/
def CommitsSight (s : System) (i : StoreId) (qs : List (Timestamp × TxRequest)) : Prop :=
  (s.committed i qs).messages = (s.session i qs).sight ⟨s.begun⟩

/-- No addition that passes uses the name of a message that the transaction buried before. -/
def AddsUnburied (s : System) (i : StoreId) (qs : List (Timestamp × TxRequest)) : Prop :=
  ∀ before now m after, qs = before ++ (now, .add m) :: after →
    ((s.session i before).request now i ⟨s.begun⟩ (.add m)).1 = .ok (some ()) →
      m.id ∉ (s.session i before).buriedBy ⟨s.begun⟩

/-- **An addition passes and lasts** through what is asked for after it. -/
structure AddLasts (s : System) (i : StoreId) (before : List (Timestamp × TxRequest))
    (now : Timestamp) (m : QueuedMessage) (after : List (Timestamp × TxRequest)) : Prop where
  passes : ((s.session i before).request now i ⟨s.begun⟩ (.add m)).1 = .ok (some ())
  /-- no return to a savepoint that was set before the addition -/
  kept : ∀ mid time rest, after = mid ++ (time, .rollbackToSavepoint) :: rest →
    (∀ q ∈ mid, q.2 ≠ .savepoint) →
      ((s.session i (before ++ (now, .add m) :: mid)).request time i ⟨s.begun⟩
        .rollbackToSavepoint).1 ≠ .ok (some ())
  /-- no failure that uses up the attempts of the message -/
  unburied : ∀ mid time error rest, after = mid ++ (time, .incrementRetry m.id error) :: rest →
    ∀ count, ((s.session i (before ++ (now, .add m) :: mid)).request time i ⟨s.begun⟩
      (.incrementRetry m.id error)).1 ≠ .ok (some (.deadLettered count))

section Sessions

variable (orderly : s.Orderly) (hi : i.index < s.stores.length)
include orderly hi

/-- A session is the work of its transaction, and nothing else. -/
theorem session_eq_put (qs : List (Timestamp × TxRequest)) :
    s.session i qs =
      (s.beginTx i).2.put ⟨⟨s.begun⟩, i, {}⟩ (Tx.work (s.store i) qs).1
        (Tx.work (s.store i) qs).2 := by
  have opened : (s.beginTx i).2.open? ⟨s.begun⟩ = some ⟨⟨s.begun⟩, i, {}⟩ := by
    rw [open?_beginTx orderly, if_pos rfl]
  induction qs using List.reverseRecOn with
  | nil => exact beginTx_eq_put orderly i
  | append_singleton qs q ih =>
      have concat : s.session i (qs ++ [q]) =
          (s.session i qs).step (.request q.1 i ⟨s.begun⟩ q.2) := by
        rw [session, List.map_append, List.map_singleton, ← List.cons_append, run_concat, session]
      have served := request_put (t := ⟨⟨s.begun⟩, i, {}⟩) opened hi (Tx.work (s.store i) qs).1
        (Tx.work (s.store i) qs).2 q.1 q.2
      rw [concat, ih, step]
      dsimp only at served ⊢
      rw [served, Tx.work_concat, Tx.serve]
      cases (Tx.work (s.store i) qs).2.request (Tx.work (s.store i) qs).1 q.1 q.2 with
      | error e => rfl
      | ok p => rfl

theorem open?_session (qs : List (Timestamp × TxRequest)) :
    (s.session i qs).open? ⟨s.begun⟩ = some ⟨⟨s.begun⟩, i, (Tx.work (s.store i) qs).2⟩ := by
  have opened : (s.beginTx i).2.open? ⟨s.begun⟩ = some ⟨⟨s.begun⟩, i, {}⟩ := by
    rw [open?_beginTx orderly, if_pos rfl]
  rw [session_eq_put orderly hi]
  exact open?_put_self (t := ⟨⟨s.begun⟩, i, {}⟩) opened

theorem store_session (qs : List (Timestamp × TxRequest)) :
    (s.session i qs).store i = (Tx.work (s.store i) qs).1 := by
  rw [session_eq_put orderly hi]
  exact store_put_self (s := (s.beginTx i).2) (t := ⟨⟨s.begun⟩, i, {}⟩) hi

theorem answer_session (qs : List (Timestamp × TxRequest)) (now : Timestamp) (r : TxRequest) :
    ((s.session i qs).request now i ⟨s.begun⟩ r).1 =
      ((Tx.work (s.store i) qs).2.request (Tx.work (s.store i) qs).1 now r).map (·.1) := by
  rw [request, open?_session orderly hi, store_session orderly hi]
  dsimp only
  rw [if_pos rfl]
  cases (Tx.work (s.store i) qs).2.request (Tx.work (s.store i) qs).1 now r with
  | error e => rfl
  | ok p => rfl

theorem commit_session (qs : List (Timestamp × TxRequest)) :
    ((s.session i qs).commit i ⟨s.begun⟩).1 = .ok () ∧
      s.committed i qs = (Tx.work (s.store i) qs).2.commit (Tx.work (s.store i) qs).1 := by
  have opened := open?_session orderly hi qs
  have hi' : i.index < (s.session i qs).stores.length := by
    rwa [session, length_stores_run]
  rw [committed, commit, opened, store_session orderly hi]
  dsimp only
  rw [if_pos rfl]
  exact ⟨rfl, store_setStore_self hi' _⟩

theorem sight_session (qs : List (Timestamp × TxRequest)) :
    (s.session i qs).sight ⟨s.begun⟩ =
      (Tx.work (s.store i) qs).2.sight (Tx.work (s.store i) qs).1 := by
  rw [sight, open?_session orderly hi]
  dsimp only
  rw [store_session orderly hi]

theorem buriedBy_session (qs : List (Timestamp × TxRequest)) :
    (s.session i qs).buriedBy ⟨s.begun⟩ =
      (Tx.work (s.store i) qs).2.changes.deadLettered.map (·.id) := by
  rw [buriedBy, open?_session orderly hi]

/-- A session commits what it sees exactly if its new messages and its buried ones have different
names. -/
theorem commitsSight_iff (tidy : (s.store i).Tidy) (qs : List (Timestamp × TxRequest)) :
    s.CommitsSight i qs ↔ (Tx.work (s.store i) qs).2.changes.NamesApart := by
  obtain ⟨tidy', coherent⟩ := Tx.work_coherent tidy qs
  rw [CommitsSight, (commit_session orderly hi qs).2, sight_session orderly hi]
  exact Tx.messages_commit_eq_sight_iff tidy' (coherent _ (Tx.keeps_changes _))

/-- An addition under the name of a buried message is not committed. -/
theorem unburied_of_commitsSight (tidy : (s.store i).Tidy)
    {before : List (Timestamp × TxRequest)} {now : Timestamp} {m : QueuedMessage}
    (passes : ((s.session i before).request now i ⟨s.begun⟩ (.add m)).1 = .ok (some ()))
    (commits : s.CommitsSight i (before ++ [(now, .add m)])) :
    m.id ∉ (s.session i before).buriedBy ⟨s.begun⟩ := by
  rw [answer_session orderly hi] at passes
  rw [commitsSight_iff orderly hi tidy, Tx.work_concat, Tx.serve_add passes] at commits
  rw [buriedBy_session orderly hi]
  exact commits m (List.mem_append_right _ List.mem_cons_self)

/-- **A message whose addition lasts is a row after the commit**, unless the transaction had buried
one of its name. -/
theorem isSome_row?_of_addLasts {before after : List (Timestamp × TxRequest)} {now : Timestamp}
    {m : QueuedMessage} (lasts : s.AddLasts i before now m after) :
    ((s.committed i (before ++ (now, .add m) :: after)).row? m.id).isSome ↔
      m.id ∉ (s.session i before).buriedBy ⟨s.begun⟩ := by
  have passes := lasts.passes
  rw [answer_session orderly hi] at passes
  -- the state after the addition and some of what follows it
  have later : ∀ mid, Tx.work (s.store i) (before ++ (now, .add m) :: mid) =
      mid.foldl Tx.serve ((Tx.work (s.store i) before).1,
        (Tx.work (s.store i) before).2.adding [m]) := by
    intro mid
    rw [← Tx.serve_add passes, Tx.work, List.foldl_append, List.foldl_cons]
    rfl
  have added : ((Tx.work (s.store i) before).2.adding [m]).changes.Shows m.id
      (m.id ∈ (Tx.work (s.store i) before).2.changes.deadLettered.map (·.id)) :=
    ⟨List.mem_map_of_mem (List.mem_append_right _ List.mem_cons_self), Iff.rfl⟩
  have shown := Tx.foldl_serve_shows
    (p := ((Tx.work (s.store i) before).1, (Tx.work (s.store i) before).2.adding [m])) added
    (fun mid time rest split noSavepoint => by
      have refused := lasts.kept mid time rest split noSavepoint
      rwa [answer_session orderly hi, later] at refused)
    (fun mid time error rest split count => by
      have alive := lasts.unburied mid time error rest split count
      rwa [answer_session orderly hi, later] at alive)
  rw [← later] at shown
  obtain ⟨new, burial⟩ := shown
  rw [buriedBy_session orderly hi, (commit_session orderly hi _).2, Tx.commit, Store.row?_unlock,
    ← burial]
  constructor
  · intro found buried
    rw [Changes.row?_apply_buried _ buried] at found
    cases found
  · intro notBuried
    obtain ⟨own, -, -, seq, -, found⟩ := Changes.row?_apply_inserted
      (Tx.work (s.store i) (before ++ (now, .add m) :: after)).1 new notBuried
    rw [found]
    rfl

end Sessions

/-- **What a transaction commits.** Whatever is asked for in a session, its commit is accepted. It
writes what the transaction saw, in the same order, and so would a commit at any earlier moment of
the session, exactly if no message is added under a name that the transaction had buried. Of the
additions that pass, and that are not undone by a return to a savepoint or followed by the burial of
their messages, exactly those under such names are missing among the rows. -/
theorem commit_sight {n : Nat} (i : Fin n) (calls : List Call) (qs : List (Timestamp × TxRequest)) :
    (((((ofSize n).run calls).session ⟨i⟩ qs).commit ⟨i⟩
      ⟨((ofSize n).run calls).begun⟩).1 = .ok ()) ∧
    (((ofSize n).run calls).AddsUnburied ⟨i⟩ qs ↔
      ∀ before, before <+: qs → ((ofSize n).run calls).CommitsSight ⟨i⟩ before) ∧
    ∀ before now m after, qs = before ++ (now, .add m) :: after →
      ((ofSize n).run calls).AddLasts ⟨i⟩ before now m after →
        (((((ofSize n).run calls).committed ⟨i⟩ qs).row? m.id).isSome ↔
          m.id ∉ (((ofSize n).run calls).session ⟨i⟩ before).buriedBy
            ⟨((ofSize n).run calls).begun⟩) := by
  have hi : (StoreId.mk i).index < ((ofSize n).run calls).stores.length := index_lt_run i.isLt calls
  have orderly := orderly_run (orderly_ofSize n) calls
  have tidy : (((ofSize n).run calls).store ⟨i⟩).Tidy := tidy_run i.isLt calls
  refine ⟨(commit_session orderly hi qs).1, ⟨?_, ?_⟩, ?_⟩
  · rintro unburied before ⟨rest, rfl⟩
    rw [commitsSight_iff orderly hi tidy]
    refine Tx.work_namesApart tidy ?_ _ (Tx.keeps_changes _)
    intro first now m after split passes
    rw [← buriedBy_session orderly hi]
    rw [← answer_session orderly hi] at passes
    exact unburied first now m (after ++ rest) (by rw [split, List.append_assoc]; rfl) passes
  · intro commits before now m after split passes
    refine unburied_of_commitsSight orderly hi tidy passes (commits _ ⟨after, ?_⟩)
    rw [split, List.append_assoc]
    rfl
  · rintro before now m after rfl lasts
    exact isSome_row?_of_addLasts orderly hi lasts

/-- A transaction adds a message with a single attempt, counts a failure on it, and adds a message
of the same name. -/
def readded : List (Timestamp × TxRequest) :=
  [(default, .add ((QueuedMessage.fresh default default "first" .null).withMaxRetries 1)),
    (default, .incrementRetry default "failed"),
    (default, .add (.fresh default default "second" .null))]

/-- **An addition is lost at the commit**: the second message passes the duplicate check and is all
that the transaction sees, and no message is left after the commit, which is accepted. -/
theorem not_commitsSight_readded :
    ¬ (ofSize 1).CommitsSight ⟨0⟩ readded ∧
      (((ofSize 1).session ⟨0⟩ (readded.take 2)).request default ⟨0⟩ ⟨0⟩
        (.add (.fresh default default "second" .null))).1 = .ok (some ()) ∧
      ((ofSize 1).session ⟨0⟩ readded).sight ⟨0⟩ = [.fresh default default "second" .null] ∧
      (((ofSize 1).session ⟨0⟩ readded).commit ⟨0⟩ ⟨0⟩).1 = .ok () ∧
      ((ofSize 1).committed ⟨0⟩ readded).messages = [] := by
  have seen : ((ofSize 1).session ⟨0⟩ readded).sight ⟨0⟩ =
      [.fresh default default "second" .null] := rfl
  have left : ((ofSize 1).committed ⟨0⟩ readded).messages = [] := rfl
  refine ⟨?_, rfl, seen, rfl, left⟩
  intro commits
  rw [CommitsSight, left] at commits
  cases commits.trans seen

end System

end MaintenanceOutbox
