import MaintenanceOutbox.Proofs.Store.Locks

set_option autoImplicit false

/-! # One transaction at work

Code that runs in a transaction makes one request after the other, and nobody else does anything
meanwhile. All that can change in the system is then the transaction `t` and the tables of its home,
so that the system is always `s.put t st tx`, for the system `s` in which the work began. The laws
of `System.put` compute what every call makes of such a system.

The tables change by locks only, and these are the transaction's own (`Tx.OnlyLocks`). So the end of
the transaction leaves no trace of them: an abandoned transaction leaves the tables exactly as they
were, and a commit makes of them what its changes make of the tables as they were.
-/

namespace MaintenanceOutbox

/-! ## The tables -/

/-- Writes do not look at locks. -/
theorem Store.foldl_locked {α : Type} {f : Store → α → Store}
    (each : ∀ st locked a, f { st with locked := locked } a = { f st a with locked := locked })
    (writes : List α) (st : Store) (locked : List MessageId) :
    writes.foldl f { st with locked := locked } = { writes.foldl f st with locked := locked } := by
  induction writes generalizing st with
  | nil => rfl
  | cons a rest ih => rw [List.foldl_cons, List.foldl_cons, each, ih]

theorem Changes.apply_locked (c : Changes) (st : Store) (locked : List MessageId) :
    c.apply { st with locked := locked } = { c.apply st with locked := locked } := by
  have updated := Store.foldl_locked (f := Store.updateRow) (fun _ _ _ => rfl) c.updated st locked
  have inserted := Store.foldl_locked (f := Store.pushRow) (fun _ _ _ => rfl) c.inserted
    (c.updated.foldl Store.updateRow st) locked
  have buried := Store.foldl_locked (f := Store.bury) (fun _ _ _ => rfl) c.deadLettered
    (c.inserted.foldl Store.pushRow (c.updated.foldl Store.updateRow st)) locked
  rw [apply, updated, inserted, buried, apply]

/-- **All that the transaction did to the tables so far** is to lock rows that were free. -/
structure Tx.OnlyLocks (tx : Tx) (st₀ st : Store) : Prop where
  tables : st = { st₀ with locked := st₀.locked ++ tx.locks }
  free : ∀ id ∈ tx.locks, id ∉ st₀.locked

namespace Tx.OnlyLocks

variable {tx tx' : Tx} {st₀ st st' : Store} {r : TxRequest}

/-- A new transaction did nothing. -/
theorem start (st : Store) : ({} : Tx).OnlyLocks st st :=
  ⟨by rw [List.append_nil], fun _ held => absurd held List.not_mem_nil⟩

theorem moves (only : tx.OnlyLocks st₀ st) (h : tx.Moves st r st' tx') :
    tx'.OnlyLocks st₀ st' := by
  rcases h.locks with ⟨same, rfl⟩ | ⟨id, m, new, unlocked, rfl, more, -⟩
  · exact ⟨by rw [same]; exact only.tables, by rw [same]; exact only.free⟩
  · -- one more row is locked, by the tables and by the transaction
    have locked : st.locked = st₀.locked ++ tx.locks := by rw [only.tables]
    refine ⟨?_, ?_⟩
    · rw [more, ← List.append_assoc, ← locked, Store.lock, only.tables]
    · intro x held
      rw [more, List.mem_append, List.mem_singleton] at held
      rcases held with before | rfl
      · exact only.free x before
      · intro taken
        exact unlocked (locked ▸ List.mem_append_left _ taken)

/-- With the transaction's locks gone, the locks are as they were. -/
theorem unlocked (only : tx.OnlyLocks st₀ st) :
    st.locked.filter (· ∉ tx.locks) = st₀.locked := by
  have locked : st.locked = st₀.locked ++ tx.locks := by rw [only.tables]
  have theirs : st₀.locked.filter (· ∉ tx.locks) = st₀.locked :=
    List.filter_eq_self.mpr fun id taken => decide_eq_true fun held => only.free id held taken
  have ours : tx.locks.filter (· ∉ tx.locks) = [] :=
    List.filter_eq_nil_iff.mpr fun id held => by simp [held]
  rw [locked, List.filter_append, theirs, ours, List.append_nil]

/-- **An abandoned transaction leaves no trace.** -/
theorem release (only : tx.OnlyLocks st₀ st) : tx.release st = st₀ := by
  rw [Tx.release, Store.unlock, only.unlocked, only.tables]

/-- **A commit writes the changes and frees the locks.** -/
theorem commit (only : tx.OnlyLocks st₀ st) : tx.commit st = tx.changes.apply st₀ := by
  have written : tx.changes.apply st =
      { tx.changes.apply st₀ with locked := st₀.locked ++ tx.locks } := by
    rw [only.tables, Changes.apply_locked]
  have locks : (tx.changes.apply st).locked = st.locked := Changes.locked_apply _ _
  have before : (tx.changes.apply st₀).locked = st₀.locked := Changes.locked_apply _ _
  rw [Tx.commit, Store.unlock, locks, only.unlocked, written, ← before]

end Tx.OnlyLocks

/-! ## The system -/

namespace System

variable {s : System} {t : OpenTx} {st st' : Store} {tx tx' : Tx}

theorem setStore_store (s : System) (i : StoreId) : s.setStore i (s.store i) = s := by
  have stores : s.stores.set i.index (s.store i) = s.stores := by
    by_cases inside : i.index < s.stores.length
    · simp [store, List.getD, inside]
    · exact List.set_eq_of_length_le (Nat.le_of_not_lt inside)
  rw [setStore, stores]

/-- Nothing changes when a transaction and its tables are put back as they are. -/
theorem put_self (sole : ∀ u ∈ s.transactions, u.handle = t.handle → u = t) :
    s.put t (s.store t.home) t.tx = s := by
  have transactions : (s.transactions.map fun u =>
      if u.handle = t.handle then { u with tx := t.tx } else u) = s.transactions := by
    refine (List.map_congr_left ?_).trans s.transactions.map_id
    intro u hu
    split
    · next same => rw [sole u hu same, id]
    · rfl
  rw [put, setStore_store, transactions]

theorem Distinct.sole (distinct : s.Distinct) (ht : t ∈ s.transactions) :
    ∀ u ∈ s.transactions, u.handle = t.handle → u = t :=
  fun _ hu same => List.inj_on_of_nodup_map distinct hu ht same

theorem put_put (s : System) (t : OpenTx) (st st' : Store) (tx tx' : Tx) :
    (s.put t st tx).put { t with tx := tx } st' tx' = s.put t st' tx' := by
  have stores : (s.stores.set t.home.index st).set t.home.index st' =
      s.stores.set t.home.index st' := List.set_set ..
  rw [put, put, put, setStore, setStore, setStore]
  simp only [stores, List.map_map]
  congr 1
  refine List.map_congr_left ?_
  intro u _
  by_cases same : u.handle = t.handle <;> simp [same]

theorem open?_put_self (opened : s.open? t.handle = some t) :
    (s.put t st tx).open? t.handle = some { t with tx := tx } := by
  rw [open?_put, if_pos rfl, opened]
  rfl

theorem store_put_self (hi : t.home.index < s.stores.length) :
    (s.put t st tx).store t.home = st :=
  store_setStore_self hi st

/-- The end of the transaction forgets its work. -/
theorem close_put (s : System) (t : OpenTx) (st st' : Store) (tx : Tx) :
    (s.put t st tx).close { t with tx := tx } st' = s.close t st' := by
  have stores : (s.stores.set t.home.index st).set t.home.index st' =
      s.stores.set t.home.index st' := List.set_set ..
  rw [close, close, put, setStore, setStore, setStore]
  simp only [stores]
  congr 1
  induction s.transactions with
  | nil => rfl
  | cons u rest ih =>
      by_cases same : u.handle = t.handle <;> simp [same] <;> simpa using ih

section AtWork

variable (opened : s.open? t.handle = some t) (hi : t.home.index < s.stores.length)
include opened hi

/-- **A request of the transaction.** -/
theorem request_put (st : Store) (tx : Tx) (now : Timestamp) (r : TxRequest) :
    (s.put t st tx).request now t.home t.handle r =
      match tx.request st now r with
      | .error e => (.error e, s.put t st tx)
      | .ok (answer, st', tx') => (.ok answer, s.put t st' tx') := by
  rw [request, open?_put_self opened, store_put_self hi]
  dsimp only
  rw [if_pos rfl]
  cases tx.request st now r with
  | error e => rfl
  | ok p => exact congrArg (Prod.mk _) (put_put s t st p.2.1 tx p.2.2)

omit hi in
/-- A request on another store is refused. -/
theorem request_put_foreign {i : StoreId} (other : t.home ≠ i) (st : Store) (tx : Tx)
    (now : Timestamp) (r : TxRequest) :
    (s.put t st tx).request now i t.handle r = (.error foreign, s.put t st tx) := by
  rw [request, open?_put_self opened]
  exact if_neg other

theorem commit_put (st : Store) (tx : Tx) :
    (s.put t st tx).commit t.home t.handle = (.ok (), s.close t (tx.commit st)) := by
  rw [commit, open?_put_self opened, store_put_self hi]
  dsimp only
  rw [if_pos rfl, close_put]

theorem drop_put (st : Store) (tx : Tx) :
    (s.put t st tx).drop t.handle = s.close t (tx.release st) := by
  rw [drop, open?_put_self opened]
  dsimp only
  rw [store_put_self hi, close_put]

theorem rollback_put (st : Store) (tx : Tx) :
    (s.put t st tx).rollback t.home t.handle = (.ok (), s.close t (tx.release st)) := by
  rw [rollback, drop_put opened hi, open?_put_self opened]
  exact congrArg (Prod.mk · _) (if_pos rfl)

end AtWork

/-! ### A transaction from its beginning -/

theorem Orderly.ne_begun (orderly : s.Orderly) : ∀ t ∈ s.transactions, t.handle ≠ ⟨s.begun⟩ := by
  intro t ht same
  have older := orderly t ht
  rw [same] at older
  exact Nat.lt_irrefl _ older

/-- A new transaction has done nothing yet. -/
theorem beginTx_eq_put (orderly : s.Orderly) (i : StoreId) :
    (s.beginTx i).2 = (s.beginTx i).2.put ⟨⟨s.begun⟩, i, {}⟩ (s.store i) {} := by
  refine (put_self (s := (s.beginTx i).2) (t := ⟨⟨s.begun⟩, i, {}⟩) ?_).symm
  intro u hu same
  rcases List.mem_append.mp hu with old | new
  · exact absurd same (orderly.ne_begun u old)
  · exact List.mem_singleton.mp new

/-- What is left of a transaction that began and ended. -/
theorem close_beginTx (orderly : s.Orderly) (i : StoreId) (st : Store) :
    (s.beginTx i).2.close ⟨⟨s.begun⟩, i, {}⟩ st =
      { s.setStore i st with begun := s.begun + 1 } := by
  have others : s.transactions.filter (·.handle ≠ ⟨s.begun⟩) = s.transactions :=
    List.filter_eq_self.mpr fun t ht => decide_eq_true (orderly.ne_begun t ht)
  have transactions : (s.transactions ++ [(⟨⟨s.begun⟩, i, {}⟩ : OpenTx)]).filter
      (fun t : OpenTx => t.handle ≠ ⟨s.begun⟩) = s.transactions := by
    rw [List.filter_append, others]
    simp
  rw [close, beginTx]
  exact congrArg (fun ts => { s.setStore i st with transactions := ts, begun := s.begun + 1 })
    transactions

end System

end MaintenanceOutbox
