import MaintenanceOutbox.Proofs.Store.Exclusion
import MaintenanceOutbox.Proofs.Store.Session

set_option autoImplicit false

/-! # Returning to a savepoint

A savepoint is a copy of the writes of a transaction. The copy lasts until the transaction sets
another savepoint, releases this one or ends (`Call.KeepsSavepoint`); meanwhile the transaction and
everybody else may work on. A return to the savepoint puts the copy back in place of the writes, and
that is all it does (`System.Undoes`): the locks stay, the copy stays, and the tables stay.

The copy is old when it is put back, and other transactions have committed since. It is valid all
the same (`Changes.Valid`), because the rows that it changes were locked before it was taken, and
locks outlast every return.
-/

namespace MaintenanceOutbox

/-- Does the call leave the savepoint of a transaction alone? Only the transaction itself can set
another one, release it, or end. -/
def Call.KeepsSavepoint (h : TxHandle) : Call → Prop
  | .request _ _ k .savepoint => k ≠ h
  | .request _ _ k .releaseSavepoint => k ≠ h
  | .commit _ k => k ≠ h
  | .rollback _ k => k ≠ h
  | .drop k => k ≠ h
  | _ => True

namespace Call

variable {h : TxHandle}

theorem KeepsSavepoint.not_ends {c : Call} (keeps : c.KeepsSavepoint h) : ¬ c.Ends h := by
  cases c with
  | commit j k | rollback j k | drop k => exact keeps
  | beginTx j | request now j k r | requeue j id | deleteDeadLetter j id | purge j cutoff =>
      exact not_false

theorem KeepsSavepoint.request_ne {now : Timestamp} {i : StoreId} {r : TxRequest}
    (keeps : (Call.request now i h r).KeepsSavepoint h) :
    r ≠ .savepoint ∧ r ≠ .releaseSavepoint := by
  constructor
  · rintro rfl
    exact keeps rfl
  · rintro rfl
    exact keeps rfl

/-- A return to the savepoint keeps it. -/
theorem keepsSavepoint_rollbackToSavepoint (now : Timestamp) (i : StoreId) :
    (Call.request now i h .rollbackToSavepoint).KeepsSavepoint h :=
  trivial

end Call

/-- **The changes can be committed** by a transaction with the given locks: what they change is a
committed message that waits for delivery and is locked, what they add is new, and what they bury is
the one or the other. -/
structure Changes.Valid (c : Changes) (st : Store) (locks : List MessageId) : Prop where
  updated : ∀ m ∈ c.updated, m.id ∈ locks ∧ m.id ∈ st.locked ∧
    ∃ row, st.row? m.id = some row ∧ row.message.isPending = true
  inserted : ∀ m ∈ c.inserted, st.Unused m.id
  deadLettered : ∀ d ∈ c.deadLettered, d.id ∈ locks ∧ d.id ∈ st.locked ∧
    (∃ row, st.row? d.id = some row ∧ row.message.isPending = true) ∨ st.Unused d.id

/-- **Whatever a transaction may commit is valid**, the changes at its savepoint included. -/
theorem View.Sound.valid_of_keeps {v : View} (inv : v.Sound) {h : TxHandle} {tx : Tx}
    (opened : v.tx h = some tx) {c : Changes} (kept : tx.Keeps c) :
    c.Valid v.store tx.locks := by
  have taken : ∀ id ∈ tx.locks, id ∈ tx.locks ∧ id ∈ v.store.locked ∧
      ∃ row, v.store.row? id = some row ∧ row.message.isPending = true :=
    fun id held =>
      ⟨held, (inv.locking.locked_iff id).mpr ⟨h, tx, opened, held⟩, inv.held h tx opened id held⟩
  -- what the changes bring is carried by the transaction, also if they are those at the savepoint
  have carried : ∀ id, c.Brings tx.locks id → tx.Carries id := by
    intro id brings
    rcases kept with rfl | saved
    · exact brings
    · exact inv.saved h tx opened c saved id brings
  refine ⟨?_, ?_, ?_⟩
  · intro m hm
    exact taken m.id (inv.locking.updated h tx opened c kept m hm)
  · intro m hm
    exact inv.unused h tx opened m.id (carried m.id (Or.inl (List.mem_map_of_mem hm)))
  · intro d hd
    by_cases held : d.id ∈ tx.locks
    · exact Or.inl (taken d.id held)
    · have brings : c.Brings tx.locks d.id := Or.inr ⟨List.mem_map_of_mem hd, held⟩
      exact Or.inr (inv.unused h tx opened d.id (carried d.id brings))

namespace System

/-- The system after a transaction returned to its savepoint. -/
def returned (s : System) (t : OpenTx) (now : Timestamp) : System :=
  (s.request now t.home t.handle .rollbackToSavepoint).2

/-- **A return to the savepoint undoes what came after it**: it is granted, the changes are `c`
again, and nothing else is different, neither the locks nor the savepoint nor anything outside the
transaction. A commit right after it writes `c` and frees all locks of the transaction. -/
structure Undoes (s : System) (t : OpenTx) (c : Changes) (now : Timestamp) : Prop where
  granted : (s.request now t.home t.handle .rollbackToSavepoint).1 = .ok (some ())
  restored : (s.returned t now).open? t.handle = some { t with tx := ⟨c, some c, t.tx.locks⟩ }
  others : ∀ k, k ≠ t.handle → (s.returned t now).open? k = s.open? k
  stores : (s.returned t now).stores = s.stores
  committed : (s.returned t now).commit t.home t.handle =
    (.ok (), s.close t ((c.apply (s.store t.home)).unlock t.tx.locks))
  freed : ∀ id ∈ t.tx.locks,
    id ∉ (((s.returned t now).commit t.home t.handle).2.store t.home).locked

variable {s : System} {t : OpenTx} {c : Changes}

/-- A return to a savepoint that is there. -/
theorem undoes_of_saved (distinct : s.Distinct) (ht : t ∈ s.transactions)
    (hi : t.home.index < s.stores.length) (saved : t.tx.savepoint = some c) (now : Timestamp) :
    s.Undoes t c now := by
  have opened := open?_of_mem distinct ht
  have asIs := put_self (distinct.sole ht)
  have request : s.request now t.home t.handle .rollbackToSavepoint =
      (.ok (some ()), s.put t (s.store t.home) ⟨c, some c, t.tx.locks⟩) := by
    have asked := request_put opened hi (s.store t.home) t.tx now .rollbackToSavepoint
    rw [asIs] at asked
    rw [asked, Tx.request, Tx.rollbackToSavepoint, saved]
    rfl
  have returned : s.returned t now = s.put t (s.store t.home) ⟨c, some c, t.tx.locks⟩ :=
    congrArg Prod.snd request
  have commit : (s.returned t now).commit t.home t.handle =
      (.ok (), s.close t ((c.apply (s.store t.home)).unlock t.tx.locks)) := by
    rw [returned, commit_put opened hi]
    rfl
  refine ⟨congrArg Prod.fst request, ?_, ?_, ?_, commit, ?_⟩
  · rw [returned]
    exact open?_put_self opened
  · intro k other
    rw [returned, open?_put, if_neg other]
  · have same := congrArg System.stores (setStore_store s t.home)
    rw [returned]
    exact same
  · intro id held locked
    have tables : (s.close t ((c.apply (s.store t.home)).unlock t.tx.locks)).store t.home =
        (c.apply (s.store t.home)).unlock t.tx.locks := store_setStore_self hi _
    rw [commit, tables] at locked
    exact of_decide_eq_true (List.mem_filter.mp locked).2 held

/-- **The savepoint outlasts everything that is called meanwhile**, and so do the locks. -/
theorem savepoint_run (orderly : s.Orderly) (hi : t.home.index < s.stores.length)
    (opened : s.open? t.handle = some t) (saved : t.tx.savepoint = some c) {later : List Call}
    (keeps : ∀ call ∈ later, call.KeepsSavepoint t.handle) :
    ∃ u, (s.run later).open? t.handle = some u ∧ u.home = t.home ∧
      u.tx.savepoint = some c ∧ t.tx.locks ⊆ u.tx.locks := by
  refine open_run orderly hi opened rfl
    (P := fun tx => tx.savepoint = some c ∧ t.tx.locks ⊆ tx.locks)
    ⟨saved, List.Subset.refl _⟩ (fun call hcall => (keeps call hcall).not_ends) ?_
  rintro now r asked tx st st' tx' moves ⟨savepoint, held⟩
  obtain ⟨notSet, notReleased⟩ := (keeps _ asked).request_ne
  exact ⟨(moves.savepoint_stays notSet notReleased).trans savepoint,
    List.Subset.trans held moves.locks_subset⟩

/-- The transaction right after it set a savepoint. -/
theorem open?_savepoint (distinct : s.Distinct) (ht : t ∈ s.transactions)
    (hi : t.home.index < s.stores.length) (set : Timestamp) :
    (s.step (.request set t.home t.handle .savepoint)).open? t.handle =
      some { t with tx := t.tx.setSavepoint } := by
  have opened := open?_of_mem distinct ht
  have asked := request_put opened hi (s.store t.home) t.tx set .savepoint
  rw [put_self (distinct.sole ht)] at asked
  rw [step, asked]
  exact open?_put_self opened

/-- **A transaction that has a savepoint returns to it** whenever it wants, whatever was called
since, as long as the savepoint stays. -/
theorem undoes_run {n : Nat} {before : List Call} (hi : t.home.index < n)
    (opened : ((ofSize n).run before).open? t.handle = some t) (saved : t.tx.savepoint = some c)
    {later : List Call} (keeps : ∀ call ∈ later, call.KeepsSavepoint t.handle) :
    ∃ u, ((ofSize n).run (before ++ later)).open? t.handle = some u ∧ u.home = t.home ∧
      u.tx.savepoint = some c ∧ t.tx.locks ⊆ u.tx.locks ∧
        ∀ now, ((ofSize n).run (before ++ later)).Undoes u c now := by
  obtain ⟨u, still, home, savepoint, held⟩ :=
    savepoint_run (orderly_run (orderly_ofSize n) before) (index_lt_run hi before) opened saved
      keeps
  rw [← run_append] at still
  refine ⟨u, still, home, savepoint, held, fun now => ?_⟩
  exact undoes_of_saved (distinct_run (orderly_ofSize n) List.nodup_nil _) (mem_of_open? still)
    (home ▸ index_lt_run hi _) savepoint now

/-- **Savepoints undo exactly the later writes.** A transaction sets a savepoint and works on, with
anything called meanwhile by anybody, as long as the savepoint stays. A return to it then undoes the
work since, and gives back the changes as they were when the savepoint was set, with all locks that
were taken by now. It does so again after more work. If no name is added twice, the changes are
valid when they come back, and the rows that were locked at the savepoint are the same as then. -/
theorem returns_undo_later {n : Nat} {i : StoreId} (hi : i.index < n) {before : List Call}
    {t : OpenTx} (ht : t ∈ ((ofSize n).run before).openOn i) (set : Timestamp) {later : List Call}
    (keeps : ∀ c ∈ later, c.KeepsSavepoint t.handle) :
    let calls := before ++ .request set i t.handle .savepoint :: later
    let s := (ofSize n).run calls
    ∃ u, s.open? t.handle = some u ∧ u.home = i ∧ t.tx.locks ⊆ u.tx.locks ∧
      (∀ now, s.Undoes u t.tx.changes now) ∧
      (∀ now again, (∀ c ∈ again, c.KeepsSavepoint t.handle) →
        ∃ w, ((s.returned u now).run again).open? t.handle = some w ∧ w.home = i ∧
          u.tx.locks ⊆ w.tx.locks ∧
            ∀ time, ((s.returned u now).run again).Undoes w t.tx.changes time) ∧
      (Call.AddsOnce i calls → t.tx.changes.Valid (s.store i) u.tx.locks ∧
        ∀ id ∈ t.tx.locks,
          (s.store i).row? id = (((ofSize n).run before).store i).row? id) := by
  intro calls s
  obtain ⟨mem, rfl⟩ := mem_openOn.mp ht
  have split : before ++ [.request set t.home t.handle .savepoint] ++ later = calls :=
    List.append_assoc ..
  have first := open?_savepoint (distinct_run (orderly_ofSize n) List.nodup_nil before) mem
    (index_lt_run hi before) set
  rw [← run_concat] at first
  obtain ⟨u, opened, home, saved, held, undoes⟩ :=
    undoes_run (t := { t with tx := t.tx.setSavepoint }) hi first rfl keeps
  rw [split] at opened undoes
  have handle : u.handle = t.handle := handle_of_open? opened
  refine ⟨u, opened, home, held, undoes, ?_, ?_⟩
  · -- the return itself keeps the savepoint, so that the same holds after it
    intro now again keeps'
    have all : ∀ c ∈ .request now u.home u.handle .rollbackToSavepoint :: again,
        c.KeepsSavepoint u.handle := by
      intro c hc
      rcases List.mem_cons.mp hc with rfl | later
      · exact Call.keepsSavepoint_rollbackToSavepoint now u.home
      · exact handle ▸ keeps' c later
    obtain ⟨w, opened', home', -, held', undoes'⟩ :=
      undoes_run (home ▸ hi) (handle ▸ opened) saved all
    rw [run_append] at opened' undoes'
    exact ⟨w, by rw [← handle]; exact opened', home'.trans home, held', undoes'⟩
  · intro once
    refine ⟨(sound_run hi once).valid_of_keeps (view_tx_self opened home) (Or.inr saved), ?_⟩
    intro id locked
    refine row_run hi once ht ?_ locked
    intro c hc
    rcases List.mem_cons.mp hc with rfl | after
    · exact not_false
    · exact (keeps c after).not_ends

/-- A run in which a transaction has delivered the first of two messages. -/
def underway : List Call :=
  [.beginTx ⟨0⟩, .request default ⟨0⟩ ⟨0⟩ (.add (.fresh ⟨.ofNat 1⟩ default "one" .null)),
    .request default ⟨0⟩ ⟨0⟩ (.add (.fresh ⟨.ofNat 2⟩ default "two" .null)), .commit ⟨0⟩ ⟨0⟩,
    .beginTx ⟨0⟩, .request default ⟨0⟩ ⟨1⟩ .claimNext,
    .request default ⟨0⟩ ⟨1⟩ (.markProcessed ⟨.ofNat 1⟩)]

/-- What follows on the savepoint: another transaction commits a message, and the transaction turns
to the second message, returns, and turns to it again. -/
def detour : List Call :=
  [.beginTx ⟨0⟩, .request default ⟨0⟩ ⟨2⟩ (.add (.fresh ⟨.ofNat 3⟩ default "three" .null)),
    .commit ⟨0⟩ ⟨2⟩, .request default ⟨0⟩ ⟨1⟩ (.incrementRetry ⟨.ofNat 2⟩ "down"),
    .request default ⟨0⟩ ⟨1⟩ .rollbackToSavepoint,
    .request default ⟨0⟩ ⟨1⟩ (.markProcessed ⟨.ofNat 2⟩)]

/-- After `detour`, the transaction returns to the one delivery that it had made. -/
theorem returns_undo_later_detour :
    ∃ t ∈ ((ofSize 1).run underway).openOn ⟨0⟩, t.tx.locks = [⟨.ofNat 1⟩] ∧
      t.tx.changes = { updated :=
        [(QueuedMessage.fresh ⟨.ofNat 1⟩ default "one" .null).markProcessed default] } ∧
      (∀ c ∈ detour, c.KeepsSavepoint t.handle) ∧
      let s := (ofSize 1).run (underway ++ .request default ⟨0⟩ t.handle .savepoint :: detour)
      ∃ u, s.open? t.handle = some u ∧ s.Undoes u t.tx.changes default ∧
        t.tx.changes.Valid (s.store ⟨0⟩) u.tx.locks := by
  have opened : ((ofSize 1).run underway).transactions[0] ∈ ((ofSize 1).run underway).openOn ⟨0⟩ :=
    List.mem_cons_self
  have keeps : ∀ c ∈ detour, c.KeepsSavepoint ⟨1⟩ := by
    simp [detour, Call.KeepsSavepoint]
  have once : Call.AddsOnce ⟨0⟩
      (underway ++ .request default ⟨0⟩ ⟨1⟩ .savepoint :: detour) := by
    unfold Call.AddsOnce
    decide
  obtain ⟨u, still, -, -, undoes, -, valid⟩ :=
    returns_undo_later (n := 1) (i := ⟨0⟩) (by decide) opened default keeps
  exact ⟨_, opened, rfl, rfl, keeps, u, still, undoes default, (valid once).1⟩

end System

end MaintenanceOutbox
