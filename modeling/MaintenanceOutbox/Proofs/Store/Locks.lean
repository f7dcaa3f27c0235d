import MaintenanceOutbox.Proofs.Store.Runs

set_option autoImplicit false

/-! # Locks are held by open transactions

A lock is written down twice: in the store's list and in the list of the transaction that took it.
`View.Locking` says that the two agree, whatever calls are made in whatever order: the locks of a
store are those of the transactions open on it, and no two of them share one.

It also says that whatever a transaction may still commit changes only rows that it has locked. The
changes at the savepoint count here, since a rollback to it brings them back.
-/

namespace MaintenanceOutbox

namespace Changes

@[simp] theorem locked_apply (c : Changes) (st : Store) : (c.apply st).locked = st.locked := by
  -- none of the three folds looks at the locks
  have updated : ∀ (ms : List QueuedMessage) (st : Store),
      (ms.foldl Store.updateRow st).locked = st.locked := by
    intro ms
    induction ms with
    | nil => intro st; rfl
    | cons m rest ih => intro st; exact ih _
  have inserted : ∀ (ms : List QueuedMessage) (st : Store),
      (ms.foldl Store.pushRow st).locked = st.locked := by
    intro ms
    induction ms with
    | nil => intro st; rfl
    | cons m rest ih => intro st; exact ih _
  have buried : ∀ (ds : List DeadLetter) (st : Store),
      (ds.foldl Store.bury st).locked = st.locked := by
    intro ds
    induction ds with
    | nil => intro st; rfl
    | cons d rest ih => intro st; exact ih _
  rw [apply, buried, inserted, updated]

end Changes

namespace Tx

/-- Changes that the transaction may commit: its changes as they are, and as they were at the
savepoint. -/
def Keeps (tx : Tx) (c : Changes) : Prop :=
  c = tx.changes ∨ tx.savepoint = some c

theorem keeps_changes (tx : Tx) : tx.Keeps tx.changes :=
  Or.inl rfl

/-- What a transaction may commit after a request is what its changes are then, or it could commit
it before. -/
theorem Moves.keeps_cases {tx tx' : Tx} {st st' : Store} {r : TxRequest} (h : tx.Moves st r st' tx')
    {c : Changes} (kept : tx'.Keeps c) : c = tx'.changes ∨ tx.Keeps c := by
  cases h with
  | stays => exact Or.inr kept
  | adds | rewritesOwn | buriesOwn | returns => exact kept.imp_right Or.inr
  | takesLock r id m st' tx' seen pending got =>
      -- a lock changes nothing about the savepoint
      exact kept.imp_right fun saved => Or.inr ((acquire_changes got).2 ▸ saved)
  | rewrites r id m m' st' tx₁ notOwn seen pending got progress =>
      exact kept.imp_right fun saved => Or.inr ((acquire_changes got).2 ▸ saved)
  | buries r id m d st' tx₁ notOwn seen pending got death =>
      exact kept.imp_right fun saved => Or.inr ((acquire_changes got).2 ▸ saved)
  | setsSavepoint =>
      rcases kept with now | saved
      · exact Or.inl now
      · cases saved
        exact Or.inr tx.keeps_changes
  | forgets =>
      rcases kept with now | saved
      · exact Or.inl now
      · cases saved

/-- **What a request does to the locks**: nothing, or it takes one that was free, on a pending row
that the transaction sees. -/
theorem Moves.locks {tx tx' : Tx} {st st' : Store} {r : TxRequest} (h : tx.Moves st r st' tx') :
    tx'.locks = tx.locks ∧ st' = st ∨
      ∃ id m, id ∉ tx.locks ∧ id ∉ st.locked ∧ st' = st.lock id ∧
        tx'.locks = tx.locks ++ [id] ∧ tx.committedView st id = some m ∧ m.isPending = true := by
  -- claims, marks and counts take a lock in the same way
  have taking : ∀ {id : MessageId} {m : QueuedMessage} {st₁ : Store} {tx₁ : Tx},
      tx.acquire st id = .ok (st₁, tx₁) → tx.committedView st id = some m → m.isPending = true →
      tx₁.locks = tx.locks ∧ st₁ = st ∨
        ∃ id m, id ∉ tx.locks ∧ id ∉ st.locked ∧ st₁ = st.lock id ∧
          tx₁.locks = tx.locks ++ [id] ∧ tx.committedView st id = some m ∧ m.isPending = true := by
    intro id m st₁ tx₁ got seen pending
    rcases acquire_eq_ok_iff.mp got with ⟨-, rfl, rfl⟩ | ⟨new, free, rfl, rfl⟩
    · exact Or.inl ⟨rfl, rfl⟩
    · exact Or.inr ⟨id, m, new, free, rfl, rfl, seen, pending⟩
  cases h with
  | stays | adds | rewritesOwn | buriesOwn | setsSavepoint | returns | forgets =>
      exact Or.inl ⟨rfl, rfl⟩
  | takesLock r id m st' tx' seen pending got => exact taking got seen pending
  | rewrites r id m m' st' tx' notOwn seen pending got progress =>
      exact (taking got seen pending :)
  | buries r id m d st' tx' notOwn seen pending got death =>
      exact (taking got seen pending :)

/-- A request gives no lock back. -/
theorem Moves.locks_subset {tx tx' : Tx} {st st' : Store} {r : TxRequest}
    (h : tx.Moves st r st' tx') : tx.locks ⊆ tx'.locks := by
  rcases h.locks with ⟨same, -⟩ | ⟨id, m, -, -, -, more, -⟩
  · rw [same]
    exact List.Subset.refl _
  · rw [more]
    exact List.subset_append_left _ _

/-- A request changes nothing in the tables but the locks. -/
theorem Moves.tables {tx tx' : Tx} {st st' : Store} {r : TxRequest} (h : tx.Moves st r st' tx') :
    st' = { st with locked := st'.locked } := by
  rcases h.locks with ⟨-, rfl⟩ | ⟨id, m, -, -, rfl, -⟩ <;> rfl

theorem Moves.row? {tx tx' : Tx} {st st' : Store} {r : TxRequest} (h : tx.Moves st r st' tx')
    (id : MessageId) : st'.row? id = st.row? id := by
  rw [h.tables]
  rfl

theorem Moves.deadLetter? {tx tx' : Tx} {st st' : Store} {r : TxRequest}
    (h : tx.Moves st r st' tx') (id : MessageId) : st'.deadLetter? id = st.deadLetter? id := by
  rw [h.tables]
  rfl

/-- A committed message that is changed is under a lock. -/
theorem mem_locks_of_acquire {tx tx' : Tx} {st st' : Store} {id : MessageId}
    (h : tx.acquire st id = .ok (st', tx')) : id ∈ tx'.locks := by
  rcases acquire_eq_ok_iff.mp h with ⟨held, -, rfl⟩ | ⟨-, -, -, rfl⟩
  · exact held
  · exact List.mem_append_right _ (List.mem_singleton.mpr rfl)

/-- Where the changes that a transaction may commit come from. -/
theorem Moves.keeps_updated {tx tx' : Tx} {st st' : Store} {r : TxRequest}
    (h : tx.Moves st r st' tx')
    (held : ∀ c, tx.Keeps c → ∀ m ∈ c.updated, m.id ∈ tx.locks) :
    ∀ c, tx'.Keeps c → ∀ m ∈ c.updated, m.id ∈ tx'.locks := by
  intro c hc m hm
  have old : ∀ c, tx.Keeps c → m ∈ c.updated → m.id ∈ tx'.locks :=
    fun c hc hm => h.locks_subset (held c hc m hm)
  rcases h.keeps_cases hc with rfl | before
  · cases h with
    | stays | adds | rewritesOwn | buriesOwn | setsSavepoint | forgets =>
        exact old tx.changes tx.keeps_changes hm
    | takesLock r id m₀ st' tx' seen pending got =>
        exact old tx.changes tx.keeps_changes ((acquire_changes got).1 ▸ hm)
    | rewrites r id m₀ m₁ st' tx₁ notOwn seen pending got progress =>
        have same := (acquire_changes got).1
        rcases List.mem_append.mp hm with before | new
        · exact old tx.changes tx.keeps_changes (same ▸ (List.mem_filter.mp before).1)
        · rw [List.mem_singleton.mp new, progress.id_eq, id_of_committedView seen]
          exact (mem_locks_of_acquire got :)
    | buries r id m₀ d st' tx₁ notOwn seen pending got death =>
        have same := (acquire_changes got).1
        exact old tx.changes tx.keeps_changes (same ▸ (List.mem_filter.mp hm).1)
    | returns c₀ saved => exact old c₀ (Or.inr saved) hm
  · exact old c before hm

end Tx

/-! ## The invariant -/

namespace View

/-- **The locks of a store are those of its open transactions**, each of one of them. -/
structure Locking (v : View) : Prop where
  begun : ∀ h tx, v.tx h = some tx → h.number < v.begun
  nodup : v.store.locked.Nodup
  locks_nodup : ∀ h tx, v.tx h = some tx → tx.locks.Nodup
  locked_iff : ∀ id, id ∈ v.store.locked ↔ ∃ h tx, v.tx h = some tx ∧ id ∈ tx.locks
  apart : ∀ h k tx ux id, v.tx h = some tx → v.tx k = some ux →
    id ∈ tx.locks → id ∈ ux.locks → h = k
  updated : ∀ h tx, v.tx h = some tx → ∀ c, tx.Keeps c → ∀ m ∈ c.updated, m.id ∈ tx.locks

/-- An open transaction after a change of one entry of the table. -/
theorem update_cases {f : TxHandle → Option Tx} {h k : TxHandle} {o : Option Tx} {ux : Tx}
    (hk : Function.update f h o k = some ux) : k = h ∧ o = some ux ∨ k ≠ h ∧ f k = some ux := by
  by_cases same : k = h
  · subst same
    rw [Function.update_self] at hk
    exact Or.inl ⟨rfl, hk⟩
  · rw [Function.update_of_ne same] at hk
    exact Or.inr ⟨same, hk⟩

/-- What is open after the end of a transaction was open before, and is another one. -/
theorem of_update_none {f : TxHandle → Option Tx} {h k : TxHandle} {ux : Tx}
    (hk : Function.update f h none k = some ux) : k ≠ h ∧ f k = some ux := by
  rcases update_cases hk with ⟨-, none'⟩ | old
  · cases none'
  · exact old

theorem locking_empty : empty.Locking where
  begun h tx opened := nomatch opened
  nodup := List.nodup_nil
  locks_nodup h tx opened := nomatch opened
  locked_iff id := by
    constructor
    · intro locked
      cases locked
    · rintro ⟨h, tx, opened, -⟩
      cases opened
  apart h k tx ux id opened := nomatch opened
  updated h tx opened := nomatch opened

namespace Locking

variable {v : View}

theorem of_begins (inv : v.Locking) : (v.step .begins).Locking := by
  -- the handle is new, so that no transaction gives way to the one that begins
  have unused : v.tx ⟨v.begun⟩ = none := by
    cases opened : v.tx ⟨v.begun⟩ with
    | none => rfl
    | some tx => exact absurd (inv.begun _ _ opened) (Nat.lt_irrefl _)
  refine ⟨?_, inv.nodup, ?_, ?_, ?_, ?_⟩
  · -- handles are numbered
    intro h tx opened
    rcases update_cases opened with ⟨rfl, -⟩ | ⟨-, old⟩
    · exact Nat.lt_succ_self v.begun
    · exact Nat.lt_succ_of_lt (inv.begun h tx old)
  · intro h tx opened
    rcases update_cases opened with ⟨-, new⟩ | ⟨-, old⟩
    · cases new
      exact List.nodup_nil
    · exact inv.locks_nodup h tx old
  · -- the new transaction has no locks
    intro id
    rw [show (v.step .begins).store.locked = v.store.locked from rfl, inv.locked_iff]
    constructor
    · rintro ⟨h, tx, opened, held⟩
      have old : h ≠ ⟨v.begun⟩ := by
        rintro rfl
        rw [unused] at opened
        cases opened
      exact ⟨h, tx, (Function.update_of_ne old _ _).trans opened, held⟩
    · rintro ⟨h, tx, opened, held⟩
      rcases update_cases opened with ⟨-, new⟩ | ⟨-, old⟩
      · cases new
        cases held
      · exact ⟨h, tx, old, held⟩
  · intro h k tx ux id hh hk held held'
    rcases update_cases hh with ⟨-, new⟩ | ⟨-, hh'⟩
    · cases new
      cases held
    · rcases update_cases hk with ⟨-, new⟩ | ⟨-, hk'⟩
      · cases new
        cases held'
      · exact inv.apart h k tx ux id hh' hk' held held'
  · intro h tx opened c hc m hm
    rcases update_cases opened with ⟨-, new⟩ | ⟨-, old⟩
    · cases new
      rcases hc with rfl | saved
      · cases hm
      · cases saved
    · exact inv.updated h tx old c hc m hm

/-- After a request the store has the locks that it had, and those of the transaction. -/
theorem mem_locked_iff (inv : v.Locking) {h : TxHandle} {tx tx' : Tx} {st : Store} {r : TxRequest}
    (opened : v.tx h = some tx) (moves : tx.Moves v.store r st tx') {id : MessageId} :
    id ∈ st.locked ↔ id ∈ v.store.locked ∨ id ∈ tx'.locks := by
  have ours : id ∈ tx.locks → id ∈ v.store.locked :=
    fun held => (inv.locked_iff id).mpr ⟨h, tx, opened, held⟩
  rcases moves.locks with ⟨same, rfl⟩ | ⟨id', m, -, -, rfl, more, -⟩
  · rw [same]
    exact ⟨Or.inl, fun either => either.elim (fun here => here) ours⟩
  · rw [more, Store.lock, List.mem_append, List.mem_append, or_left_comm]
    exact ⟨Or.inr, fun either => either.elim (fun held => Or.inl (ours held)) (fun here => here)⟩

/-- A request keeps the invariant: at most one lock that was free goes to its transaction. -/
theorem of_moves (inv : v.Locking) {h : TxHandle} {tx tx' : Tx} {st : Store} {r : TxRequest}
    (opened : v.tx h = some tx) (moves : tx.Moves v.store r st tx') :
    { v with store := st, tx := Function.update v.tx h (some tx') : View }.Locking := by
  have free : ∀ id ∈ tx'.locks, id ∉ tx.locks → id ∉ v.store.locked := by
    intro id held new
    rcases moves.locks with ⟨same, -⟩ | ⟨id', m, -, unlocked, -, more, -⟩
    · exact absurd (same ▸ held) new
    · rw [more, List.mem_append, List.mem_singleton] at held
      rcases held with old | rfl
      · exact absurd old new
      · exact unlocked
  -- a lock that another transaction holds was not taken by this request
  have others : ∀ k ux id, k ≠ h → v.tx k = some ux → id ∈ ux.locks → id ∉ tx'.locks := by
    intro k ux id other hk held held'
    by_cases old : id ∈ tx.locks
    · exact other (inv.apart k h ux tx id hk opened held old)
    · exact free id held' old ((inv.locked_iff id).mpr ⟨k, ux, hk, held⟩)
  refine ⟨?_, ?_, ?_, ?_, ?_, ?_⟩
  · intro k ux hk
    rcases update_cases hk with ⟨rfl, -⟩ | ⟨-, old⟩
    · exact inv.begun k tx opened
    · exact inv.begun k ux old
  · rcases moves.locks with ⟨-, rfl⟩ | ⟨id, m, -, unlocked, rfl, -, -⟩
    · exact inv.nodup
    · exact List.nodup_append.mpr ⟨inv.nodup, List.nodup_singleton id,
        fun a ha b hb same => unlocked (List.mem_singleton.mp hb ▸ same ▸ ha)⟩
  · intro k ux hk
    rcases update_cases hk with ⟨rfl, new⟩ | ⟨-, old⟩
    · cases new
      rcases moves.locks with ⟨same, -⟩ | ⟨id, m, fresh, -, -, more, -⟩
      · rw [same]
        exact inv.locks_nodup k tx opened
      · rw [more]
        exact List.nodup_append.mpr ⟨inv.locks_nodup k tx opened, List.nodup_singleton id,
          fun a ha b hb same => fresh (List.mem_singleton.mp hb ▸ same ▸ ha)⟩
    · exact inv.locks_nodup k ux old
  · -- the store's locks are those of the transactions, this one's among them
    intro id
    rw [inv.mem_locked_iff opened moves, inv.locked_iff]
    constructor
    · rintro (⟨k, ux, hk, held⟩ | held)
      · by_cases same : k = h
        · subst same
          cases opened.symm.trans hk
          exact ⟨k, tx', Function.update_self _ _ _, moves.locks_subset held⟩
        · exact ⟨k, ux, (Function.update_of_ne same _ _).trans hk, held⟩
      · exact ⟨h, tx', Function.update_self _ _ _, held⟩
    · rintro ⟨k, ux, hk, held⟩
      rcases update_cases hk with ⟨-, new⟩ | ⟨-, old⟩
      · cases new
        exact Or.inr held
      · exact Or.inl ⟨k, ux, old, held⟩
  · -- no two share a lock
    intro k l ux wx id hk hl held held'
    rcases update_cases hk with ⟨rfl, new⟩ | ⟨other, old⟩
    · cases new
      rcases update_cases hl with ⟨rfl, -⟩ | ⟨other', old'⟩
      · rfl
      · exact absurd held (others l wx id other' old' held')
    · rcases update_cases hl with ⟨rfl, new⟩ | ⟨other', old'⟩
      · cases new
        exact absurd held' (others k ux id other old held)
      · exact inv.apart k l ux wx id old old' held held'
  · intro k ux hk
    rcases update_cases hk with ⟨rfl, new⟩ | ⟨-, old⟩
    · cases new
      exact moves.keeps_updated (inv.updated k tx opened)
    · exact inv.updated k ux old

/-- The end of a transaction keeps the invariant: its locks are freed, and no others. -/
theorem of_ends (inv : v.Locking) {h : TxHandle} {tx : Tx} {st : Store}
    (opened : v.tx h = some tx) (freed : st.locked = v.store.locked.filter (· ∉ tx.locks)) :
    { v with store := st, tx := Function.update v.tx h none : View }.Locking := by
  refine ⟨fun k ux hk => inv.begun k ux (of_update_none hk).2, ?_,
    fun k ux hk => inv.locks_nodup k ux (of_update_none hk).2, ?_,
    fun k l ux wx id hk hl =>
      inv.apart k l ux wx id (of_update_none hk).2 (of_update_none hl).2,
    fun k ux hk => inv.updated k ux (of_update_none hk).2⟩
  · rw [freed]
    exact inv.nodup.filter _
  · -- what is locked still belongs to one of the others
    intro id
    rw [freed, List.mem_filter, inv.locked_iff]
    constructor
    · rintro ⟨⟨k, ux, hk, held⟩, notOurs⟩
      have other : k ≠ h := by
        rintro rfl
        cases opened.symm.trans hk
        exact absurd held (of_decide_eq_true notOurs)
      exact ⟨k, ux, (Function.update_of_ne other _ _).trans hk, held⟩
    · rintro ⟨k, ux, hk, held⟩
      obtain ⟨other, old⟩ := of_update_none hk
      refine ⟨⟨k, ux, old, held⟩, decide_eq_true ?_⟩
      intro ours
      exact other (inv.apart k h ux tx id old opened held ours)

/-- A change of the tables keeps the invariant. -/
theorem of_tables (inv : v.Locking) {st : Store} (same : st.locked = v.store.locked) :
    { v with store := st : View }.Locking :=
  ⟨inv.begun, same ▸ inv.nodup, inv.locks_nodup, fun id => same ▸ inv.locked_iff id, inv.apart,
    inv.updated⟩

/-- **The invariant holds on**, whatever happens. -/
theorem step (inv : v.Locking) (e : Happening) : (v.step e).Locking := by
  cases e with
  | nothing => exact inv
  | elsewhere =>
      exact ⟨fun h tx opened => Nat.lt_succ_of_lt (inv.begun h tx opened), inv.nodup,
        inv.locks_nodup, inv.locked_iff, inv.apart, inv.updated⟩
  | begins => exact inv.of_begins
  | requests now h r =>
      rw [View.step]
      split
      · exact inv
      · next tx opened =>
          split
          · exact inv
          · next done => exact inv.of_moves opened (Tx.request_moves done)
  | commits h =>
      rw [View.step]
      split
      · exact inv
      · next tx opened =>
          refine inv.of_ends opened ?_
          rw [Tx.commit, Store.unlock, Changes.locked_apply]
  | releases h =>
      rw [View.step]
      split
      · exact inv
      · next tx opened => exact inv.of_ends opened rfl
  | requeues id =>
      rw [View.step]
      split
      · exact inv
      · next done =>
          refine inv.of_tables ?_
          rw [Store.requeue] at done
          split at done <;> cases done
          rfl
  | deletes id =>
      rw [View.step]
      split
      · exact inv
      · next done =>
          refine inv.of_tables ?_
          rw [Store.deleteDeadLetter] at done
          split at done <;> cases done
          rfl
  | purges cutoff => exact inv.of_tables rfl

theorem run (inv : v.Locking) (happenings : List Happening) : (v.run happenings).Locking := by
  induction happenings generalizing v with
  | nil => exact inv
  | cons e rest ih => exact ih (inv.step e)

end Locking

end View

/-- The locks of every store of a system agree with its transactions, after every run. -/
theorem System.locking_run {n : Nat} {i : StoreId} (hi : i.index < n) (calls : List Call) :
    (((ofSize n).run calls).view i).Locking := by
  rw [view_run (orderly_ofSize n) (index_lt_run hi []) calls, view_ofSize hi]
  exact View.locking_empty.run _

end MaintenanceOutbox
