import MaintenanceOutbox.Proofs.Store.Requests
import Mathlib.Logic.Function.Basic

set_option autoImplicit false

/-! # Runs of a system, and what is seen of one store

A run of a system is a list of calls. Every call is one step, whoever makes it, so that the lists of
calls are all the ways in which transactions and operators can interleave.

Most properties are about a single store. `System.view` is what is seen of it: its tables, the
transactions that are open on it, and the number of handles that are used up. `View.step` says what
happens to that when a call is made, `Call.seenFrom` what the call looks like from there, and
`System.view_step` that this is all: calls on other stores do nothing, except that a transaction
which is ended on the wrong store is abandoned in its own.
-/

namespace MaintenanceOutbox

/-- A call on a system. Every request has the time at which it is made. -/
inductive Call where
  | beginTx (store : StoreId)
  | request (now : Timestamp) (store : StoreId) (tx : TxHandle) (r : TxRequest)
  | commit (store : StoreId) (tx : TxHandle)
  | rollback (store : StoreId) (tx : TxHandle)
  | drop (tx : TxHandle)
  | requeue (store : StoreId) (id : MessageId)
  | deleteDeadLetter (store : StoreId) (id : MessageId)
  | purge (store : StoreId) (cutoff : Timestamp)

namespace System

/-- The system after a call. -/
def step (s : System) : Call → System
  | .beginTx i => (s.beginTx i).2
  | .request now i h r => (s.request now i h r).2
  | .commit i h => (s.commit i h).2
  | .rollback i h => (s.rollback i h).2
  | .drop h => s.drop h
  | .requeue i id => (s.requeue i id).2
  | .deleteDeadLetter i id => (s.deleteDeadLetter i id).2
  | .purge i cutoff => (s.purge i cutoff).2

/-- **The system after a run.** -/
def run (s : System) (calls : List Call) : System :=
  calls.foldl step s

@[simp] theorem run_nil (s : System) : s.run [] = s := rfl

@[simp] theorem run_cons (s : System) (c : Call) (rest : List Call) :
    s.run (c :: rest) = (s.step c).run rest := rfl

theorem run_append (s : System) (first second : List Call) :
    s.run (first ++ second) = (s.run first).run second :=
  List.foldl_append

theorem run_concat (s : System) (calls : List Call) (c : Call) :
    s.run (calls ++ [c]) = (s.run calls).step c := by
  rw [run_append, run_cons, run_nil]

end System

/-! ## One store -/

/-- What is seen of one store. -/
@[ext]
structure View where
  store : Store
  /-- the transactions that are open on the store -/
  tx : TxHandle → Option Tx
  /-- how many transactions were begun so far, on any store -/
  begun : Nat

/-- What happens to a store. -/
inductive Happening where
  | nothing
  /-- a transaction is begun on another store -/
  | elsewhere
  | begins
  | requests (now : Timestamp) (tx : TxHandle) (r : TxRequest)
  | commits (tx : TxHandle)
  /-- a transaction is abandoned -/
  | releases (tx : TxHandle)
  | requeues (id : MessageId)
  | deletes (id : MessageId)
  | purges (cutoff : Timestamp)

namespace View

/-- An empty store on which no transaction is open. -/
def empty : View := ⟨{}, fun _ => none, 0⟩

/-- **What happens to a store.** A transaction that is not open on it changes nothing. -/
def step (v : View) : Happening → View
  | .nothing => v
  | .elsewhere => { v with begun := v.begun + 1 }
  | .begins =>
    { v with tx := Function.update v.tx ⟨v.begun⟩ (some {}), begun := v.begun + 1 }
  | .requests now h r =>
    match v.tx h with
    | none => v
    | some tx =>
      match tx.request v.store now r with
      | .error _ => v
      | .ok (_, st, tx) => { v with store := st, tx := Function.update v.tx h (some tx) }
  | .commits h =>
    match v.tx h with
    | none => v
    | some tx => { v with store := tx.commit v.store, tx := Function.update v.tx h none }
  | .releases h =>
    match v.tx h with
    | none => v
    | some tx => { v with store := tx.release v.store, tx := Function.update v.tx h none }
  | .requeues id =>
    match v.store.requeue id with
    | .error _ => v
    | .ok (_, st) => { v with store := st }
  | .deletes id =>
    match v.store.deleteDeadLetter id with
    | .error _ => v
    | .ok st => { v with store := st }
  | .purges cutoff => { v with store := (v.store.purge cutoff).2 }

/-- The store after some happenings. -/
def run (v : View) (happenings : List Happening) : View :=
  happenings.foldl step v

end View

/-- What a call looks like from store `i`. -/
def Call.seenFrom (i : StoreId) : Call → Happening
  | .beginTx j => if j = i then .begins else .elsewhere
  | .request now j h r => if j = i then .requests now h r else .nothing
  | .commit j h => if j = i then .commits h else .releases h
  | .rollback _ h => .releases h
  | .drop h => .releases h
  | .requeue j id => if j = i then .requeues id else .nothing
  | .deleteDeadLetter j id => if j = i then .deletes id else .nothing
  | .purge j cutoff => if j = i then .purges cutoff else .nothing

namespace System

/-- What is seen of store `i`. -/
def view (s : System) (i : StoreId) : View where
  store := s.store i
  tx h := (s.open? h).bind fun t => if t.home = i then some t.tx else none
  begun := s.begun

/-- Handles are numbered in the order in which they are given out. -/
def Orderly (s : System) : Prop :=
  ∀ t ∈ s.transactions, t.handle.number < s.begun

/-! ### Lookups of transactions and tables -/

theorem mem_of_open? {s : System} {h : TxHandle} {t : OpenTx} (ht : s.open? h = some t) :
    t ∈ s.transactions :=
  List.mem_of_find?_eq_some ht

theorem handle_of_open? {s : System} {h : TxHandle} {t : OpenTx} (ht : s.open? h = some t) :
    t.handle = h := by
  simpa using List.find?_some ht

theorem open?_close (s : System) (t : OpenTx) (st : Store) (h : TxHandle) :
    (s.close t st).open? h = if h = t.handle then none else s.open? h := by
  simp only [open?, close]
  induction s.transactions with
  | nil => simp
  | cons u rest ih =>
      by_cases ended : u.handle = t.handle <;> by_cases found : u.handle = h <;> grind

theorem open?_put (s : System) (t : OpenTx) (st : Store) (tx : Tx) (h : TxHandle) :
    (s.put t st tx).open? h =
      if h = t.handle then (s.open? h).map fun u => { u with tx := tx } else s.open? h := by
  simp only [open?, put]
  induction s.transactions with
  | nil => simp
  | cons u rest ih =>
      by_cases moved : u.handle = t.handle <;> by_cases found : u.handle = h <;> grind

/-- The next handle was not given out yet. -/
theorem open?_begun {s : System} (orderly : s.Orderly) : s.open? ⟨s.begun⟩ = none := by
  rw [open?, List.find?_eq_none]
  intro t ht same
  have older := orderly t ht
  rw [of_decide_eq_true same] at older
  exact Nat.lt_irrefl _ older

theorem open?_beginTx {s : System} (orderly : s.Orderly) (i : StoreId) (h : TxHandle) :
    (s.beginTx i).2.open? h =
      if h = ⟨s.begun⟩ then some ⟨⟨s.begun⟩, i, {}⟩ else s.open? h := by
  simp only [open?, beginTx, List.find?_append]
  split
  · next new =>
      subst new
      have unused : s.transactions.find? (·.handle = ⟨s.begun⟩) = none := open?_begun orderly
      simp [unused]
  · next old =>
      have other : (TxHandle.mk s.begun = h) = False := by
        simpa using fun same => old (Eq.symm same)
      simp [other]

theorem store_setStore_self {s : System} {i : StoreId} (hi : i.index < s.stores.length)
    (st : Store) : (s.setStore i st).store i = st := by
  simp [store, setStore, List.getD, hi]

theorem store_setStore_ne (s : System) {i j : StoreId} (h : j ≠ i) (st : Store) :
    (s.setStore j st).store i = s.store i := by
  have hne : j.index ≠ i.index := fun same => h (by cases i; cases j; cases same; rfl)
  simp [store, setStore, List.getD, hne]

/-! ### What stays in a system -/

@[simp] theorem length_stores_setStore (s : System) (i : StoreId) (st : Store) :
    (s.setStore i st).stores.length = s.stores.length := by
  simp [setStore]

theorem length_stores_drop (s : System) (h : TxHandle) :
    (s.drop h).stores.length = s.stores.length := by
  unfold drop
  split
  · rfl
  · exact length_stores_setStore s _ _

/-- Stores are neither made nor lost. -/
theorem length_stores_step (s : System) (c : Call) :
    (s.step c).stores.length = s.stores.length := by
  cases c with
  | beginTx i => rfl
  | request now i h r =>
      simp only [step, request]
      repeat' split
      all_goals first | rfl | exact length_stores_setStore s _ _
  | commit i h =>
      simp only [step, commit]
      repeat' split
      · rfl
      · exact length_stores_setStore s _ _
      · exact length_stores_drop s h
  | rollback i h =>
      simp only [step, rollback]
      split
      · rfl
      · exact length_stores_drop s h
  | drop h => exact length_stores_drop s h
  | requeue i id =>
      simp only [step, requeue]
      split
      · rfl
      · exact length_stores_setStore s _ _
  | deleteDeadLetter i id =>
      simp only [step, deleteDeadLetter]
      split
      · rfl
      · exact length_stores_setStore s _ _
  | purge i cutoff => exact length_stores_setStore s _ _

theorem orderly_close {s : System} (orderly : s.Orderly) (t : OpenTx) (st : Store) :
    (s.close t st).Orderly := by
  intro u hu
  exact orderly u (List.mem_filter.mp hu).1

theorem orderly_drop {s : System} (orderly : s.Orderly) (h : TxHandle) : (s.drop h).Orderly := by
  unfold drop
  split
  · exact orderly
  · exact orderly_close orderly _ _

theorem orderly_put {s : System} (orderly : s.Orderly) (t : OpenTx) (st : Store) (tx : Tx) :
    (s.put t st tx).Orderly := by
  intro u hu
  obtain ⟨w, hw, rfl⟩ := List.mem_map.mp hu
  split
  · exact orderly w hw
  · exact orderly w hw

theorem orderly_step {s : System} (orderly : s.Orderly) (c : Call) : (s.step c).Orderly := by
  cases c with
  | beginTx i =>
      intro t ht
      rcases List.mem_append.mp ht with old | new
      · exact Nat.lt_succ_of_lt (orderly t old)
      · rw [List.mem_singleton.mp new]
        exact Nat.lt_succ_self s.begun
  | request now i h r =>
      simp only [step, request]
      repeat' split
      all_goals first | exact orderly | exact orderly_put orderly _ _ _
  | commit i h =>
      simp only [step, commit]
      repeat' split
      · exact orderly
      · exact orderly_close orderly _ _
      · exact orderly_drop orderly h
  | rollback i h =>
      simp only [step, rollback]
      split
      · exact orderly
      · exact orderly_drop orderly h
  | drop h => exact orderly_drop orderly h
  | requeue i id =>
      simp only [step, requeue]
      split <;> exact orderly
  | deleteDeadLetter i id =>
      simp only [step, deleteDeadLetter]
      split <;> exact orderly
  | purge i cutoff => exact orderly

/-- No handle is given to two open transactions. -/
def Distinct (s : System) : Prop :=
  (s.transactions.map (·.handle)).Nodup

theorem open?_of_mem {s : System} (distinct : s.Distinct) {t : OpenTx} (ht : t ∈ s.transactions) :
    s.open? t.handle = some t := by
  cases found : s.open? t.handle with
  | none => exact absurd (decide_eq_true rfl) (List.find?_eq_none.mp found t ht)
  | some u =>
      have same := handle_of_open? found
      rw [List.inj_on_of_nodup_map distinct (mem_of_open? found) ht same]

theorem distinct_close {s : System} (distinct : s.Distinct) (t : OpenTx) (st : Store) :
    (s.close t st).Distinct :=
  distinct.sublist (List.filter_sublist.map _)

theorem distinct_drop {s : System} (distinct : s.Distinct) (h : TxHandle) :
    (s.drop h).Distinct := by
  unfold drop
  split
  · exact distinct
  · exact distinct_close distinct _ _

theorem distinct_put {s : System} (distinct : s.Distinct) (t : OpenTx) (st : Store) (tx : Tx) :
    (s.put t st tx).Distinct := by
  have handles : (s.put t st tx).transactions.map (·.handle) = s.transactions.map (·.handle) := by
    rw [put, List.map_map]
    refine List.map_congr_left ?_
    intro u _
    rw [Function.comp_apply]
    split <;> rfl
  rw [Distinct, handles]
  exact distinct

theorem distinct_step {s : System} (orderly : s.Orderly) (distinct : s.Distinct) (c : Call) :
    (s.step c).Distinct := by
  cases c with
  | beginTx i =>
      rw [Distinct, step, beginTx, List.map_append, List.nodup_append]
      refine ⟨distinct, List.nodup_singleton _, ?_⟩
      intro a ha b hb
      obtain ⟨t, ht, rfl⟩ := List.mem_map.mp ha
      rw [List.map_singleton, List.mem_singleton] at hb
      rintro rfl
      have older := orderly t ht
      rw [hb] at older
      exact Nat.lt_irrefl _ older
  | request now i h r =>
      simp only [step, request]
      repeat' split
      all_goals first | exact distinct | exact distinct_put distinct _ _ _
  | commit i h =>
      simp only [step, commit]
      repeat' split
      · exact distinct
      · exact distinct_close distinct _ _
      · exact distinct_drop distinct h
  | rollback i h =>
      simp only [step, rollback]
      split
      · exact distinct
      · exact distinct_drop distinct h
  | drop h => exact distinct_drop distinct h
  | requeue i id =>
      simp only [step, requeue]
      split <;> exact distinct
  | deleteDeadLetter i id =>
      simp only [step, deleteDeadLetter]
      split <;> exact distinct
  | purge i cutoff => exact distinct

/-! ### The view of a step -/

theorem view_setStore_self {s : System} {i : StoreId} (hi : i.index < s.stores.length)
    (st : Store) : (s.setStore i st).view i = { s.view i with store := st } := by
  have same := store_setStore_self hi st
  rw [view, same]
  rfl

theorem view_setStore_ne (s : System) {i j : StoreId} (h : j ≠ i) (st : Store) :
    (s.setStore j st).view i = s.view i := by
  have same := store_setStore_ne s h st
  rw [view, same]
  rfl

theorem view_close_self {s : System} {i : StoreId} {t : OpenTx}
    (hi : i.index < s.stores.length) (home : t.home = i) (st : Store) :
    (s.close t st).view i =
      { s.view i with store := st, tx := Function.update (s.view i).tx t.handle none } := by
  have tables : (s.close t st).store i = st := by
    rw [← home] at hi ⊢
    exact store_setStore_self hi st
  apply View.ext
  · exact tables
  · funext h
    by_cases ended : h = t.handle
    · simp [view, open?_close, ended]
    · simp [view, open?_close, ended]
  · rfl

theorem view_close_ne {s : System} {i : StoreId} {t : OpenTx} (opened : s.open? t.handle = some t)
    (home : t.home ≠ i) (st : Store) : (s.close t st).view i = s.view i := by
  have tables : (s.close t st).store i = s.store i := store_setStore_ne s home st
  apply View.ext
  · exact tables
  · funext h
    by_cases ended : h = t.handle
    · simp [view, open?_close, ended, opened, home]
    · simp [view, open?_close, ended]
  · rfl

theorem view_put_self {s : System} {i : StoreId} {t : OpenTx} (opened : s.open? t.handle = some t)
    (hi : i.index < s.stores.length) (home : t.home = i) (st : Store) (tx : Tx) :
    (s.put t st tx).view i =
      { s.view i with store := st, tx := Function.update (s.view i).tx t.handle (some tx) } := by
  have tables : (s.put t st tx).store i = st := by
    rw [← home] at hi ⊢
    exact store_setStore_self hi st
  apply View.ext
  · exact tables
  · funext h
    by_cases moved : h = t.handle
    · simp [view, open?_put, moved, opened, home]
    · simp [view, open?_put, moved]
  · rfl

theorem view_put_ne {s : System} {i : StoreId} {t : OpenTx} (opened : s.open? t.handle = some t)
    (home : t.home ≠ i) (st : Store) (tx : Tx) : (s.put t st tx).view i = s.view i := by
  have tables : (s.put t st tx).store i = s.store i := store_setStore_ne s home st
  apply View.ext
  · exact tables
  · funext h
    by_cases moved : h = t.handle
    · simp [view, open?_put, moved, opened, home]
    · simp [view, open?_put, moved]
  · rfl

theorem view_tx_self {s : System} {i : StoreId} {h : TxHandle} {t : OpenTx}
    (opened : s.open? h = some t) (home : t.home = i) : (s.view i).tx h = some t.tx := by
  simp [view, opened, home]

theorem view_tx_ne {s : System} {i : StoreId} {h : TxHandle} {t : OpenTx}
    (opened : s.open? h = some t) (home : t.home ≠ i) : (s.view i).tx h = none := by
  simp [view, opened, home]

/-- What is open on a store, in the table of all transactions. -/
theorem view_tx_eq_some_iff {s : System} {i : StoreId} {h : TxHandle} {tx : Tx} :
    (s.view i).tx h = some tx ↔ ∃ t, s.open? h = some t ∧ t.home = i ∧ t.tx = tx := by
  cases opened : s.open? h with
  | none => simp [view, opened]
  | some t => simp [view, opened]

theorem view_tx_closed {s : System} {i : StoreId} {h : TxHandle} (closed : s.open? h = none) :
    (s.view i).tx h = none := by
  simp [view, closed]

/-- **An abandoned transaction** is abandoned in its own store and in no other. -/
theorem view_drop {s : System} {i : StoreId} (hi : i.index < s.stores.length) (h : TxHandle) :
    (s.drop h).view i = (s.view i).step (.releases h) := by
  unfold drop
  cases opened : s.open? h with
  | none => rw [View.step, view_tx_closed opened]
  | some t =>
      have handle : t.handle = h := handle_of_open? opened
      dsimp only
      by_cases home : t.home = i
      · rw [View.step, view_tx_self opened home, view_close_self hi home, handle, home]
        rfl
      · rw [View.step, view_tx_ne opened home]
        exact view_close_ne (handle ▸ opened) home _

theorem view_beginTx {s : System} (orderly : s.Orderly) (i j : StoreId) :
    (s.beginTx j).2.view i = (s.view i).step ((Call.beginTx j).seenFrom i) := by
  by_cases hj : j = i
  · rw [Call.seenFrom, if_pos hj, View.step]
    apply View.ext
    · rfl
    · funext h
      by_cases new : h = ⟨s.begun⟩
      · simp [view, open?_beginTx orderly, new, hj]
      · simp [view, open?_beginTx orderly, new]
    · rfl
  · rw [Call.seenFrom, if_neg hj, View.step]
    apply View.ext
    · rfl
    · funext h
      by_cases new : h = ⟨s.begun⟩
      · simp [view, open?_beginTx orderly, new, hj, open?_begun orderly]
      · simp [view, open?_beginTx orderly, new]
    · rfl

theorem view_request {s : System} {i : StoreId} (hi : i.index < s.stores.length)
    (now : Timestamp) (j : StoreId) (h : TxHandle) (r : TxRequest) :
    (s.request now j h r).2.view i = (s.view i).step ((Call.request now j h r).seenFrom i) := by
  unfold request
  cases opened : s.open? h with
  | none =>
      by_cases hj : j = i
      · rw [Call.seenFrom, if_pos hj, View.step, view_tx_closed opened]
      · rw [Call.seenFrom, if_neg hj, View.step]
  | some t =>
      have handle : t.handle = h := handle_of_open? opened
      dsimp only
      by_cases home : t.home = j
      · rw [if_pos home]
        by_cases hj : j = i
        · rw [Call.seenFrom, if_pos hj, View.step, view_tx_self opened (home.trans hj), hj]
          dsimp only [view]
          cases t.tx.request (s.store i) now r with
          | error e => rfl
          | ok p =>
              have put := view_put_self (handle ▸ opened) hi (home.trans hj) p.2.1 p.2.2
              rw [handle] at put
              exact put
        · -- nothing of another store is seen from here
          rw [Call.seenFrom, if_neg hj, View.step]
          cases t.tx.request (s.store j) now r with
          | error e => rfl
          | ok p =>
              have away : t.home ≠ i := fun here => hj (home.symm.trans here)
              exact view_put_ne (handle ▸ opened) away p.2.1 p.2.2
      · rw [if_neg home]
        by_cases hj : j = i
        · rw [Call.seenFrom, if_pos hj, View.step, view_tx_ne opened (hj ▸ home)]
        · rw [Call.seenFrom, if_neg hj, View.step]

theorem view_commit {s : System} {i : StoreId} (hi : i.index < s.stores.length)
    (j : StoreId) (h : TxHandle) :
    (s.commit j h).2.view i = (s.view i).step ((Call.commit j h).seenFrom i) := by
  unfold commit
  cases opened : s.open? h with
  | none =>
      by_cases hj : j = i
      · rw [Call.seenFrom, if_pos hj, View.step, view_tx_closed opened]
      · rw [Call.seenFrom, if_neg hj, View.step, view_tx_closed opened]
  | some t =>
      have handle : t.handle = h := handle_of_open? opened
      dsimp only
      by_cases home : t.home = j
      · rw [if_pos home]
        by_cases hj : j = i
        · have here : t.home = i := home.trans hj
          rw [Call.seenFrom, if_pos hj, View.step, view_tx_self opened here,
            view_close_self hi here, handle, hj]
          rfl
        · have away : t.home ≠ i := fun here => hj (home.symm.trans here)
          rw [Call.seenFrom, if_neg hj, View.step, view_tx_ne opened away]
          exact view_close_ne (handle ▸ opened) away _
      · -- refused on the wrong store, and abandoned in its own
        rw [if_neg home]
        by_cases hj : j = i
        · have away : t.home ≠ i := fun here => home (here.trans hj.symm)
          have abandoned := view_drop hi h
          rw [View.step, view_tx_ne opened away] at abandoned
          rw [Call.seenFrom, if_pos hj, View.step, view_tx_ne opened away]
          exact abandoned
        · rw [Call.seenFrom, if_neg hj]
          exact view_drop hi h

theorem view_rollback {s : System} {i : StoreId} (hi : i.index < s.stores.length)
    (j : StoreId) (h : TxHandle) :
    (s.rollback j h).2.view i = (s.view i).step (.releases h) := by
  unfold rollback
  cases opened : s.open? h with
  | none => rw [View.step, view_tx_closed opened]
  | some t => exact view_drop hi h

theorem view_requeue {s : System} {i : StoreId} (hi : i.index < s.stores.length)
    (j : StoreId) (id : MessageId) :
    (s.requeue j id).2.view i = (s.view i).step ((Call.requeue j id).seenFrom i) := by
  unfold requeue
  by_cases hj : j = i
  · rw [Call.seenFrom, if_pos hj, View.step, hj]
    dsimp only [view]
    cases (s.store i).requeue id with
    | error e => rfl
    | ok p => exact view_setStore_self hi p.2
  · rw [Call.seenFrom, if_neg hj, View.step]
    cases (s.store j).requeue id with
    | error e => rfl
    | ok p => exact view_setStore_ne s hj p.2

theorem view_deleteDeadLetter {s : System} {i : StoreId} (hi : i.index < s.stores.length)
    (j : StoreId) (id : MessageId) :
    (s.deleteDeadLetter j id).2.view i =
      (s.view i).step ((Call.deleteDeadLetter j id).seenFrom i) := by
  unfold deleteDeadLetter
  by_cases hj : j = i
  · rw [Call.seenFrom, if_pos hj, View.step, hj]
    dsimp only [view]
    cases (s.store i).deleteDeadLetter id with
    | error e => rfl
    | ok st => exact view_setStore_self hi st
  · rw [Call.seenFrom, if_neg hj, View.step]
    cases (s.store j).deleteDeadLetter id with
    | error e => rfl
    | ok st => exact view_setStore_ne s hj st

theorem view_purge {s : System} {i : StoreId} (hi : i.index < s.stores.length)
    (j : StoreId) (cutoff : Timestamp) :
    (s.purge j cutoff).2.view i = (s.view i).step ((Call.purge j cutoff).seenFrom i) := by
  by_cases hj : j = i
  · rw [Call.seenFrom, if_pos hj, View.step, hj]
    exact view_setStore_self hi _
  · rw [Call.seenFrom, if_neg hj, View.step]
    exact view_setStore_ne s hj _

/-- **A call, seen from one store.** -/
theorem view_step {s : System} {i : StoreId} (orderly : s.Orderly)
    (hi : i.index < s.stores.length) (c : Call) :
    (s.step c).view i = (s.view i).step (c.seenFrom i) := by
  cases c with
  | beginTx j => exact view_beginTx orderly i j
  | request now j h r => exact view_request hi now j h r
  | commit j h => exact view_commit hi j h
  | rollback j h => exact view_rollback hi j h
  | drop h => exact view_drop hi h
  | requeue j id => exact view_requeue hi j id
  | deleteDeadLetter j id => exact view_deleteDeadLetter hi j id
  | purge j cutoff => exact view_purge hi j cutoff

/-- The tables of a store after a call. -/
theorem store_step {s : System} {i : StoreId} (orderly : s.Orderly)
    (hi : i.index < s.stores.length) (c : Call) :
    (s.step c).store i = ((s.view i).step (c.seenFrom i)).store :=
  congrArg View.store (view_step orderly hi c)

/-- **A run, seen from one store.** -/
theorem view_run {s : System} {i : StoreId} (orderly : s.Orderly)
    (hi : i.index < s.stores.length) (calls : List Call) :
    (s.run calls).view i = (s.view i).run (calls.map (·.seenFrom i)) := by
  induction calls generalizing s with
  | nil => rfl
  | cons c rest ih =>
      rw [run_cons, ih (orderly_step orderly c) (by rwa [length_stores_step]), view_step orderly hi]
      rfl

/-! ### Systems of empty stores -/

theorem orderly_ofSize (n : Nat) : (ofSize n).Orderly := by
  intro t ht
  cases ht

theorem orderly_run {s : System} (orderly : s.Orderly) (calls : List Call) :
    (s.run calls).Orderly := by
  induction calls generalizing s with
  | nil => exact orderly
  | cons c rest ih => exact ih (orderly_step orderly c)

theorem distinct_run {s : System} (orderly : s.Orderly) (distinct : s.Distinct)
    (calls : List Call) : (s.run calls).Distinct := by
  induction calls generalizing s with
  | nil => exact distinct
  | cons c rest ih => exact ih (orderly_step orderly c) (distinct_step orderly distinct c)

theorem length_stores_run (s : System) (calls : List Call) :
    (s.run calls).stores.length = s.stores.length := by
  induction calls generalizing s with
  | nil => rfl
  | cons c rest ih => rw [run_cons, ih, length_stores_step]

@[simp] theorem length_stores_ofSize (n : Nat) : (ofSize n).stores.length = n :=
  List.length_replicate

/-- A store of a system is one after every run. -/
theorem index_lt_run {n : Nat} {i : StoreId} (hi : i.index < n) (calls : List Call) :
    i.index < ((ofSize n).run calls).stores.length := by
  rw [length_stores_run, length_stores_ofSize]
  exact hi

theorem view_ofSize {n : Nat} {i : StoreId} (hi : i.index < n) :
    (ofSize n).view i = View.empty := by
  have tables : (ofSize n).store i = {} := by simp [ofSize, store, List.getD, hi]
  rw [view, tables]
  rfl

end System

end MaintenanceOutbox
