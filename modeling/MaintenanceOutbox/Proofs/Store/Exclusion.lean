import MaintenanceOutbox.Proofs.Store.Origins

set_option autoImplicit false

/-! # A locked row is its holder's alone

`System.locks_exclusive` says three things about a store, after any run. Its list of locks is that
of the transactions that are open on it, each lock standing there once. A transaction holds on to
its locks until it ends, however it ends, and then all of them are free. And as long as no name is
added twice, a locked row is beyond the reach of the others: no claim of theirs answers it, they can
neither mark it nor count a failure on it, and what is committed under its name does not change.
-/

namespace MaintenanceOutbox

/-- Does the call end the transaction? On the wrong store it does so too. -/
def Call.Ends (h : TxHandle) : Call → Prop
  | .commit _ k => k = h
  | .rollback _ k => k = h
  | .drop k => k = h
  | _ => False

/-- Does it end the transaction? -/
def Happening.Ends (h : TxHandle) : Happening → Prop
  | .commits k => k = h
  | .releases k => k = h
  | _ => False

/-- The message that a request is about which was not refused: the one that it handed out, marked or
counted a failure on. -/
inductive TxRequest.Takes : (r : TxRequest) → Option r.Answer → MessageId → Prop where
  | claim (m : QueuedMessage) : Takes .claimNext (some (some m)) m.id
  | mark (id : MessageId) : Takes (.markProcessed id) (some ()) id
  | count (id : MessageId) (error : String) (outcome? : Option RetryOutcome) :
      Takes (.incrementRetry id error) outcome? id

namespace Call

theorem ends_of_seenFrom {i : StoreId} {h : TxHandle} {c : Call} (ends : (c.seenFrom i).Ends h) :
    c.Ends h := by
  cases c with
  | commit j k =>
      rw [seenFrom] at ends
      split at ends <;> exact ends
  | rollback j k => exact ends
  | drop k => exact ends
  | beginTx j | request now j k r | requeue j id | deleteDeadLetter j id | purge j cutoff =>
      rw [seenFrom] at ends
      split at ends <;> exact ends.elim

/-- The end of a transaction is seen from every store. -/
theorem seenFrom_of_ends (i : StoreId) {h : TxHandle} {c : Call} (ends : c.Ends h) :
    c.seenFrom i = .commits h ∨ c.seenFrom i = .releases h := by
  cases c with
  | commit j k =>
      cases ends
      rw [seenFrom]
      split
      · exact Or.inl rfl
      · exact Or.inr rfl
  | rollback j k =>
      cases ends
      exact Or.inr rfl
  | drop k =>
      cases ends
      exact Or.inr rfl
  | beginTx j | request now j k r | requeue j id | deleteDeadLetter j id | purge j cutoff =>
      exact ends.elim

/-- A request that is seen from a store is made there. -/
theorem eq_request_of_seenFrom {i : StoreId} {c : Call} {now : Timestamp} {h : TxHandle}
    {r : TxRequest} (asked : c.seenFrom i = .requests now h r) : c = .request now i h r := by
  cases c with
  | request time j k q =>
      rw [seenFrom] at asked
      split at asked
      · next here =>
          cases asked
          rw [here]
      · cases asked
  | rollback j k | drop k => cases asked
  | beginTx j | commit j k | requeue j id | deleteDeadLetter j id | purge j cutoff =>
      rw [seenFrom] at asked
      split at asked <;> cases asked

end Call

/-! ## One store -/

namespace View

variable {v : View} {h : TxHandle} {tx : Tx}

/-- **What becomes of an open transaction** that is not ended: nothing, or what a request of it
does. -/
theorem open_step (opened : v.tx h = some tx) {e : Happening} (going : ¬ e.Ends h)
    (begun : h.number < v.begun) :
    ∃ tx', (v.step e).tx h = some tx' ∧
      (tx' = tx ∨ ∃ now r st, e = .requests now h r ∧ tx.Moves v.store r st tx') := by
  -- what happens to another transaction, or to none, leaves this one as it is
  have stays : ∀ k o, k ≠ h → Function.update v.tx k o h = some tx := by
    intro k o other
    rw [Function.update_of_ne other.symm]
    exact opened
  cases e with
  | nothing | elsewhere | purges => exact ⟨tx, opened, Or.inl rfl⟩
  | begins =>
      refine ⟨tx, stays _ _ ?_, Or.inl rfl⟩
      rintro rfl
      exact Nat.lt_irrefl _ begun
  | requests now k r =>
      rw [View.step]
      split
      · exact ⟨tx, opened, Or.inl rfl⟩
      · next ux hk =>
          split
          · exact ⟨tx, opened, Or.inl rfl⟩
          · next done =>
              by_cases ours : k = h
              · subst ours
                cases opened.symm.trans hk
                exact ⟨_, Function.update_self _ _ _,
                  Or.inr ⟨now, r, _, rfl, Tx.request_moves done⟩⟩
              · exact ⟨tx, stays k _ ours, Or.inl rfl⟩
  | commits k | releases k =>
      rw [View.step]
      split
      · exact ⟨tx, opened, Or.inl rfl⟩
      · exact ⟨tx, stays k none going, Or.inl rfl⟩
  | requeues id | deletes id =>
      rw [View.step]
      split <;> exact ⟨tx, opened, Or.inl rfl⟩

/-- A transaction that is not ended stays open and keeps its locks. -/
theorem locks_step (opened : v.tx h = some tx) {e : Happening} (going : ¬ e.Ends h)
    (begun : h.number < v.begun) :
    ∃ tx', (v.step e).tx h = some tx' ∧ tx.locks ⊆ tx'.locks := by
  obtain ⟨tx', still, rfl | ⟨now, r, st, -, moves⟩⟩ := open_step opened going begun
  · exact ⟨tx', still, List.Subset.refl _⟩
  · exact ⟨tx', still, moves.locks_subset⟩

/-- The end of a transaction frees its locks. -/
theorem freed_step (opened : v.tx h = some tx) {e : Happening}
    (ends : e = .commits h ∨ e = .releases h) :
    (v.step e).tx h = none ∧ ∀ id ∈ tx.locks, id ∉ (v.step e).store.locked := by
  have gone : ∀ locked : List MessageId, ∀ id ∈ tx.locks, id ∉ locked.filter (· ∉ tx.locks) := by
    intro locked id held here
    exact absurd held (of_decide_eq_true (List.mem_filter.mp here).2)
  rcases ends with rfl | rfl
  · rw [View.step, opened]
    exact ⟨Function.update_self _ _ _, gone _⟩
  · rw [View.step, opened]
    exact ⟨Function.update_self _ _ _, gone _⟩

/-- **What a transaction that is open went through**: nothing, its beginning, or a request. -/
theorem tx_step_cases {e : Happening} (opened : (v.step e).tx h = some tx) :
    (v.tx h = some tx ∧ ¬ e.Ends h) ∨ tx = {} ∨
      ∃ ux now r st, v.tx h = some ux ∧ e = .requests now h r ∧ ux.Moves v.store r st tx := by
  cases e with
  | nothing | elsewhere | purges => exact Or.inl ⟨opened, id⟩
  | begins =>
      rcases update_cases opened with ⟨-, new⟩ | ⟨-, old⟩
      · exact Or.inr (Or.inl (Option.some.inj new).symm)
      · exact Or.inl ⟨old, id⟩
  | requests now k r =>
      rw [View.step] at opened
      split at opened
      · exact Or.inl ⟨opened, id⟩
      · next ux hk =>
          split at opened
          · exact Or.inl ⟨opened, id⟩
          · next done =>
              rcases update_cases opened with ⟨rfl, new⟩ | ⟨-, old⟩
              · cases new
                exact Or.inr (Or.inr ⟨ux, now, r, _, hk, rfl, Tx.request_moves done⟩)
              · exact Or.inl ⟨old, id⟩
  | commits k | releases k =>
      rw [View.step] at opened
      split at opened
      · next closed =>
          refine Or.inl ⟨opened, ?_⟩
          rintro rfl
          cases closed.symm.trans opened
      · obtain ⟨other, old⟩ := of_update_none opened
        exact Or.inl ⟨old, other.symm⟩
  | requeues id | deletes id =>
      rw [View.step] at opened
      split at opened <;> exact Or.inl ⟨opened, not_false⟩

namespace Sound

/-- What comes to be carried was carried before, or it is added now. -/
theorem carries_step (inv : v.Sound) {e : Happening} (opened : (v.step e).tx h = some tx)
    {x : MessageId} (carried : tx.Carries x) :
    (∃ ux, v.tx h = some ux ∧ ux.Carries x) ∨ ∃ m, e.added? = some m ∧ m.id = x := by
  rcases tx_step_cases opened with ⟨old, -⟩ | rfl | ⟨ux, now, r, st, hk, rfl, moves⟩
  · exact Or.inl ⟨tx, old, carried⟩
  · rcases carried with inserted | ⟨dead, -⟩
    · cases inserted
    · cases dead
  · rcases moves.carries (inv.saved h ux hk) carried with old | ⟨m, rfl, name, -⟩
    · exact Or.inl ⟨ux, hk, old⟩
    · exact Or.inr ⟨m, rfl, name⟩

/-- **A locked row does not change** while its transaction goes on. -/
theorem row_step (inv : v.Sound) (opened : v.tx h = some tx) {id : MessageId} (held : id ∈ tx.locks)
    {e : Happening} (going : ¬ e.Ends h) : (v.step e).store.row? id = v.store.row? id := by
  obtain ⟨row, found, pending⟩ := inv.held h tx opened id held
  have alive : v.store.deadLetter? id = none :=
    (inv.tables id).resolve_left (by simp [found])
  cases e with
  | nothing | elsewhere | begins => rfl
  | requests now k r =>
      rw [View.step]
      split
      · rfl
      · split
        · rfl
        · next done => exact (Tx.request_moves done).row? id
  | commits k =>
      rw [View.step]
      split
      · rfl
      · next ux hk =>
          -- another transaction commits, which has neither the lock nor the name
          have free : id ∉ ux.locks := fun theirs =>
            going (inv.locking.apart k h ux tx id hk opened theirs held)
          exact (inv.commit_frame hk free fun carried => inv.not_locked hk carried opened held).1
  | releases k =>
      rw [View.step]
      split <;> rfl
  | requeues moved =>
      rw [View.step]
      split
      · rfl
      · next done =>
          obtain ⟨d, dead, -, -, rows, -⟩ := Store.requeue_cases done
          -- a row that is locked is no dead letter
          have other : moved ≠ id := by
            rintro rfl
            rw [alive] at dead
            cases dead
          exact (rows id).trans (if_neg other)
  | deletes gone =>
      rw [View.step]
      split
      · rfl
      · next done => exact (Store.deleteDeadLetter_cases done).2.2.1 id
  | purges cutoff =>
      exact (Store.row?_purge_of_isPending inv.tidy cutoff found pending).trans found.symm

variable {k : TxHandle} {ux : Tx} {id : MessageId}

/-- What another transaction sees of a locked row: the row as it is committed, and the lock. -/
theorem seen_by_others (inv : v.Sound) (opened : v.tx h = some tx) (held : id ∈ tx.locks)
    (hk : v.tx k = some ux) (other : k ≠ h) :
    ux.changes.inserted? id = none ∧ ux.committedView v.store id = v.store.message? id ∧
      ux.holds id = false ∧ v.store.isLocked id = true := by
  have free : id ∉ ux.locks := fun theirs =>
    other (inv.locking.apart k h ux tx id hk opened theirs held)
  have unnamed : id ∉ ux.changes.names := fun named =>
    (inv.locked_or_carried hk named).elim free fun carried =>
      inv.not_locked hk carried opened held
  obtain ⟨notOwn, seen⟩ := Tx.committedView_of_unnamed v.store unnamed
  have locked : id ∈ v.store.locked := (inv.locking.locked_iff id).mpr ⟨h, tx, opened, held⟩
  exact ⟨notOwn, seen, decide_eq_false free, decide_eq_true locked⟩

/-- **Nobody else claims a locked row.** -/
theorem claimNext_others (inv : v.Sound) (opened : v.tx h = some tx) (held : id ∈ tx.locks)
    (hk : v.tx k = some ux) (other : k ≠ h) {m : QueuedMessage} {st' : Store} {ux' : Tx}
    (answer : ux.claimNext v.store = .ok (some m, st', ux')) : m.id ≠ id := by
  rintro rfl
  obtain ⟨notOwn, -, notHeld, locked⟩ := inv.seen_by_others opened held hk other
  rcases Tx.claimNext_cases ux v.store with
    ⟨empty, -⟩ | ⟨own, hown, got⟩ | ⟨row, hrow, st₁, tx₁, -, got⟩
  · rw [empty] at answer
    cases answer
  · rw [got] at answer
    cases answer
    exact Changes.inserted?_eq_none_iff.mp notOwn (List.mem_map_of_mem hown)
  · rw [got] at answer
    cases answer
    have free := (Tx.mem_claimableRows.mp hrow).2.2.2
    rw [Tx.lockedElsewhere, Row.id, locked, notHeld] at free
    cases free

/-- The refusal of a lock that another transaction has. -/
theorem acquire_others (inv : v.Sound) (opened : v.tx h = some tx) (held : id ∈ tx.locks)
    (hk : v.tx k = some ux) (other : k ≠ h) :
    ux.acquire v.store id =
      .error (.conflict ("message " ++ id.toText ++ " is locked by another transaction")) := by
  obtain ⟨-, -, notHeld, locked⟩ := inv.seen_by_others opened held hk other
  rw [Tx.acquire, notHeld, locked]
  rfl

/-- **Nobody else marks a locked row.** -/
theorem markProcessed_others (inv : v.Sound) (opened : v.tx h = some tx) (held : id ∈ tx.locks)
    (hk : v.tx k = some ux) (other : k ≠ h) (now : Timestamp) :
    ux.markProcessed v.store now id =
      .error (.conflict ("message " ++ id.toText ++ " is locked by another transaction")) := by
  obtain ⟨notOwn, seen, -, -⟩ := inv.seen_by_others opened held hk other
  obtain ⟨row, found, pending⟩ := inv.held h tx opened id held
  rw [Tx.markProcessed, notOwn, seen, Store.message?, found]
  dsimp only [Option.map_some]
  rw [if_pos pending, inv.acquire_others opened held hk other]
  rfl

/-- **Nobody else counts a failure on a locked row.** -/
theorem incrementRetry_others (inv : v.Sound) (opened : v.tx h = some tx) (held : id ∈ tx.locks)
    (hk : v.tx k = some ux) (other : k ≠ h) (now : Timestamp) (error : String) :
    ux.incrementRetry v.store now id error =
      .error (.conflict ("message " ++ id.toText ++ " is locked by another transaction")) := by
  obtain ⟨notOwn, seen, -, -⟩ := inv.seen_by_others opened held hk other
  obtain ⟨row, found, pending⟩ := inv.held h tx opened id held
  rw [Tx.incrementRetry, notOwn, seen, Store.message?, found, Option.map_some, Option.filter_some,
    if_pos pending]
  dsimp only
  rw [inv.acquire_others opened held hk other]
  rfl

/-- **A request that takes a pending row locks it.** -/
theorem locked_of_takes (inv : v.Sound) (opened : v.tx h = some tx) {now : Timestamp}
    {r : TxRequest} {answer? : Option r.Answer} {st' : Store} {tx' : Tx}
    (done : tx.request v.store now r = .ok (answer?, st', tx')) (takes : r.Takes answer? id)
    {row : Row} (found : v.store.row? id = some row) (pending : row.message.isPending = true) :
    id ∈ tx'.locks := by
  have notCarried : ¬ tx.Carries id := by
    intro carried
    rw [(inv.unused h tx opened id carried).1] at found
    cases found
  by_cases already : id ∈ tx.locks
  · exact (Tx.request_moves done).locks_subset already
  · -- without the lock, the transaction sees the row as it is committed
    have unnamed : id ∉ tx.changes.names := fun named =>
      (inv.locked_or_carried opened named).elim already notCarried
    obtain ⟨notOwn, committed⟩ := Tx.committedView_of_unnamed v.store unnamed
    have seen : tx.committedView v.store id = some row.message := by
      rw [committed, Store.message?, found]
      rfl
    cases takes with
    | claim m =>
        rw [Tx.request] at done
        rcases Tx.claimNext_cases tx v.store with
          ⟨empty, -⟩ | ⟨own, hown, got⟩ | ⟨row', hrow, st₁, tx₁, lock, got⟩
        · rw [empty] at done
          cases done
        · rw [got] at done
          cases done
          exact absurd (Or.inl (List.mem_map_of_mem hown)) notCarried
        · rw [got] at done
          cases done
          exact Tx.mem_locks_of_acquire lock
    | mark id =>
        rw [Tx.request, Tx.markProcessed, notOwn, seen] at done
        dsimp only at done
        rw [if_pos pending] at done
        cases got : tx.acquire v.store id with
        | error e =>
            rw [got] at done
            cases done
        | ok p =>
            rw [got] at done
            cases done
            exact (Tx.mem_locks_of_acquire got :)
    | count id error outcome? =>
        rw [Tx.request, Tx.incrementRetry, notOwn, seen, Option.filter_some, if_pos pending] at done
        dsimp only at done
        cases got : tx.acquire v.store id with
        | error e =>
            rw [got] at done
            cases done
        | ok p =>
            have lock := Tx.mem_locks_of_acquire got
            rw [got] at done
            simp only [bind, Except.bind] at done
            repeat' split at done
            all_goals cases done; exact lock

end Sound

end View

/-! ## Systems -/

namespace System

/-- The transactions that are open on store `i`. -/
def openOn (s : System) (i : StoreId) : List OpenTx :=
  s.transactions.filter (·.home = i)

theorem mem_openOn {s : System} {i : StoreId} {t : OpenTx} :
    t ∈ s.openOn i ↔ t ∈ s.transactions ∧ t.home = i := by
  rw [openOn, List.mem_filter, decide_eq_true_eq]

theorem view_tx_of_mem {s : System} {i : StoreId} {t : OpenTx} (distinct : s.Distinct)
    (ht : t ∈ s.openOn i) : (s.view i).tx t.handle = some t.tx :=
  view_tx_self (open?_of_mem distinct (mem_openOn.mp ht).1) (mem_openOn.mp ht).2

/-- A store on which no transaction is open has no locks. -/
theorem locked_eq_nil {n : Nat} {i : StoreId} (hi : i.index < n) {calls : List Call}
    (quiet : ((ofSize n).run calls).openOn i = []) :
    (((ofSize n).run calls).store i).locked = [] := by
  have locking := locking_run hi calls
  refine List.eq_nil_iff_forall_not_mem.mpr fun id locked => ?_
  obtain ⟨h, tx, opened, -⟩ := (locking.locked_iff id).mp locked
  obtain ⟨t, found, home, -⟩ := view_tx_eq_some_iff.mp opened
  have here : t ∈ ((ofSize n).run calls).openOn i := mem_openOn.mpr ⟨mem_of_open? found, home⟩
  rw [quiet] at here
  cases here

/-- **The locks of a store are the disjoint union of those of its open transactions.** -/
structure LocksAgree (s : System) (i : StoreId) : Prop where
  nodup : (s.store i).locked.Nodup
  perm : (s.store i).locked.Perm ((s.openOn i).flatMap (·.tx.locks))

/-- A transaction holds on to its locks until it ends, and then they are free. -/
structure HoldsOn (s : System) (t : OpenTx) : Prop where
  kept : ∀ later : List Call, (∀ c ∈ later, ¬ c.Ends t.handle) →
    ∃ u, (s.run later).open? t.handle = some u ∧ u.home = t.home ∧ t.tx.locks ⊆ u.tx.locks
  freed : ∀ c : Call, c.Ends t.handle → (s.step c).open? t.handle = none ∧
    ∀ id ∈ t.tx.locks, id ∉ ((s.step c).store t.home).locked

/-- No transaction but `t` gets hold of the message. -/
structure Excludes (s : System) (t : OpenTx) (id : MessageId) : Prop where
  claim : ∀ now k m, k ≠ t.handle →
    (s.request now t.home k .claimNext).1 = .ok (some (some m)) → m.id ≠ id
  mark : ∀ now k, k ≠ t.handle →
    ∃ reason, (s.request now t.home k (.markProcessed id)).1 = .error (.conflict reason)
  count : ∀ now k error, k ≠ t.handle →
    ∃ reason, (s.request now t.home k (.incrementRetry id error)).1 = .error (.conflict reason)

theorem locksAgree_of_locking {s : System} {i : StoreId} (distinct : s.Distinct)
    (locking : (s.view i).Locking) : s.LocksAgree i := by
  refine ⟨locking.nodup, (List.perm_ext_iff_of_nodup locking.nodup ?_).mpr ?_⟩
  · -- the transactions' locks are distinct, within each of them and across
    rw [List.nodup_flatMap]
    constructor
    · intro t ht
      exact locking.locks_nodup t.handle t.tx (view_tx_of_mem distinct ht)
    · have handles : (s.openOn i).Pairwise fun t u => t.handle ≠ u.handle :=
        List.pairwise_map.mp (distinct.sublist (List.filter_sublist.map _))
      refine handles.imp_of_mem ?_
      intro t u ht hu other id held held'
      exact other (locking.apart _ _ _ _ id (view_tx_of_mem distinct ht)
        (view_tx_of_mem distinct hu) held held')
  · intro id
    rw [List.mem_flatMap, locking.locked_iff]
    constructor
    · rintro ⟨h, tx, opened, held⟩
      obtain ⟨t, ht, home, rfl⟩ := view_tx_eq_some_iff.mp opened
      exact ⟨t, mem_openOn.mpr ⟨mem_of_open? ht, home⟩, held⟩
    · rintro ⟨t, ht, held⟩
      exact ⟨t.handle, t.tx, view_tx_of_mem distinct ht, held⟩

/-- The end of a transaction closes it. -/
theorem open?_step_of_ends {s : System} {h : TxHandle} {c : Call} (ends : c.Ends h) :
    (s.step c).open? h = none := by
  have dropped : (s.drop h).open? h = none := by
    rw [drop]
    split
    · next closed => exact closed
    · next t opened =>
        rw [open?_close, handle_of_open? opened]
        exact if_pos rfl
  cases c with
  | commit j k =>
      cases ends
      rw [step, commit]
      split
      · next closed => exact closed
      · next t opened =>
          split
          · rw [open?_close, handle_of_open? opened]
            exact if_pos rfl
          · -- on the wrong store it is abandoned
            exact dropped
  | rollback j k =>
      cases ends
      rw [step, rollback]
      split
      · next closed => exact closed
      · exact dropped
  | drop k =>
      cases ends
      exact dropped
  | beginTx j | request now j k r | requeue j id | deleteDeadLetter j id | purge j cutoff =>
      exact ends.elim

/-- **What a new transaction has and every move keeps** holds of all open transactions, after every
run. -/
theorem tx_run {n : Nat} {i : StoreId} (hi : i.index < n) {P : Tx → Prop} (fresh : P {})
    {calls : List Call}
    (keeps : ∀ before, before <+: calls → ∀ h tx r st' tx',
      (((ofSize n).run before).view i).tx h = some tx →
        Tx.Moves tx (((ofSize n).run before).store i) r st' tx' → P tx → P tx')
    {h : TxHandle} {tx : Tx} (opened : (((ofSize n).run calls).view i).tx h = some tx) : P tx := by
  induction calls using List.reverseRecOn generalizing h tx with
  | nil =>
      rw [run_nil, view_ofSize hi] at opened
      cases opened
  | append_singleton before c ih =>
      have start : before <+: before ++ [c] := List.prefix_append before [c]
      have kept {k : TxHandle} {ux : Tx}
          (hk : (((ofSize n).run before).view i).tx k = some ux) : P ux :=
        ih (fun b hb => keeps b (hb.trans start)) hk
      have orderly := orderly_run (orderly_ofSize n) before
      rw [run_concat, view_step orderly (index_lt_run hi before)] at opened
      rcases View.tx_step_cases opened with ⟨old, -⟩ | rfl | ⟨ux, now, r, st', old, -, moves⟩
      · exact kept old
      · exact fresh
      · exact keeps before start h ux r st' tx old moves (kept old)

/-- **What every request of an open transaction keeps** holds of it for as long as it is not ended,
whatever else is called meanwhile. -/
theorem open_run {s : System} {i : StoreId} (orderly : s.Orderly) (hi : i.index < s.stores.length)
    {t : OpenTx} (opened : s.open? t.handle = some t) (home : t.home = i) {P : Tx → Prop}
    (start : P t.tx) {later : List Call} (going : ∀ c ∈ later, ¬ c.Ends t.handle)
    (keeps : ∀ now r, .request now i t.handle r ∈ later →
      ∀ tx st st' tx', Tx.Moves tx st r st' tx' → P tx → P tx') :
    ∃ u, (s.run later).open? t.handle = some u ∧ u.home = t.home ∧ P u.tx := by
  -- by induction on the calls from the first to the last
  induction later using List.reverseRecOn with
  | nil => exact ⟨t, opened, rfl, start⟩
  | append_singleton calls c ih =>
      obtain ⟨u, hu, sameHome, kept⟩ := ih (fun d hd => going d (List.mem_append_left _ hd))
        fun now r asked => keeps now r (List.mem_append_left _ asked)
      have orderly' := orderly_run orderly calls
      have begun : t.handle.number < (s.run calls).begun := by
        rw [← handle_of_open? hu]
        exact orderly' u (mem_of_open? hu)
      have last : c ∈ calls ++ [c] := List.mem_append_right _ (List.mem_singleton.mpr rfl)
      have going' : ¬ (c.seenFrom i).Ends t.handle :=
        fun ends => going c last (Call.ends_of_seenFrom ends)
      obtain ⟨tx', still, outcome⟩ :=
        View.open_step (view_tx_self hu (sameHome.trans home)) going' begun
      rw [← view_step orderly' (by rwa [length_stores_run])] at still
      obtain ⟨w, hw, wHome, rfl⟩ := view_tx_eq_some_iff.mp still
      rw [run_concat]
      refine ⟨w, hw, wHome.trans home.symm, ?_⟩
      rcases outcome with same | ⟨now, r, st, asked, moves⟩
      · exact same ▸ kept
      · exact keeps now r (Call.eq_request_of_seenFrom asked ▸ last) _ _ _ _ moves kept

theorem holdsOn_of_mem {s : System} {i : StoreId} (orderly : s.Orderly) (distinct : s.Distinct)
    (hi : i.index < s.stores.length) {t : OpenTx} (ht : t ∈ s.openOn i) : s.HoldsOn t := by
  have opened := view_tx_of_mem distinct ht
  have home : t.home = i := (mem_openOn.mp ht).2
  constructor
  · intro later going
    refine open_run orderly hi (open?_of_mem distinct (mem_openOn.mp ht).1) home
      (P := fun tx => t.tx.locks ⊆ tx.locks) (List.Subset.refl _) going ?_
    intro now r asked tx st st' tx' moves held
    exact List.Subset.trans held moves.locks_subset
  · intro c ends
    refine ⟨open?_step_of_ends ends, ?_⟩
    have freed := (View.freed_step opened (Call.seenFrom_of_ends i ends)).2
    rw [← view_step orderly hi] at freed
    rw [home]
    exact freed

/-- What a request on an open transaction answers. -/
theorem request_answer {s : System} {now : Timestamp} {i : StoreId} {k : TxHandle} {u : OpenTx}
    (opened : s.open? k = some u) (home : u.home = i) (r : TxRequest) :
    (s.request now i k r).1 = (u.tx.request (s.store i) now r).map (·.1) := by
  rw [request, opened]
  dsimp only
  rw [if_pos home]
  split
  · next failed => rw [failed]; rfl
  · next done => rw [done]; rfl

/-- A request on a transaction that is not open on the store conflicts. -/
theorem request_elsewhere {s : System} {i : StoreId} {k : TxHandle}
    (closed : (s.view i).tx k = none) (now : Timestamp) (r : TxRequest) :
    ∃ reason, (s.request now i k r).1 = .error (.conflict reason) := by
  rw [request]
  split
  · exact ⟨_, rfl⟩
  · next u opened =>
      split
      · next home =>
          rw [view_tx_self opened home] at closed
          cases closed
      · exact ⟨_, rfl⟩

theorem excludes_of_sound {s : System} {i : StoreId} (distinct : s.Distinct)
    (inv : (s.view i).Sound) {t : OpenTx} (ht : t ∈ s.openOn i) {id : MessageId}
    (held : id ∈ t.tx.locks) :
    s.Excludes t id := by
  have opened := view_tx_of_mem distinct ht
  have home : t.home = i := (mem_openOn.mp ht).2
  refine ⟨?_, ?_, ?_⟩
  · -- no claim of theirs answers it
    intro now k m other answer
    rw [home] at answer
    cases hk : (s.view i).tx k with
    | none =>
        obtain ⟨reason, refused⟩ := request_elsewhere hk now .claimNext
        rw [refused] at answer
        cases answer
    | some ux =>
        obtain ⟨u, hu, uHome, rfl⟩ := view_tx_eq_some_iff.mp hk
        rw [request_answer hu uHome, Tx.request] at answer
        cases got : u.tx.claimNext (s.store i) with
        | error e =>
            rw [got] at answer
            cases answer
        | ok p =>
            rw [got] at answer
            obtain ⟨o, st', ux'⟩ := p
            cases answer
            exact inv.claimNext_others opened held hk other got
  · -- a mark of theirs is refused
    intro now k other
    rw [home]
    cases hk : (s.view i).tx k with
    | none => exact request_elsewhere hk now (.markProcessed id)
    | some ux =>
        obtain ⟨u, hu, uHome, rfl⟩ := view_tx_eq_some_iff.mp hk
        rw [request_answer hu uHome, Tx.request]
        have refused := inv.markProcessed_others opened held hk other now
        exact ⟨_, by rw [show s.store i = (s.view i).store from rfl, refused]; rfl⟩
  · -- and so is a count
    intro now k error other
    rw [home]
    cases hk : (s.view i).tx k with
    | none => exact request_elsewhere hk now (.incrementRetry id error)
    | some ux =>
        obtain ⟨u, hu, uHome, rfl⟩ := view_tx_eq_some_iff.mp hk
        rw [request_answer hu uHome, Tx.request]
        have refused := inv.incrementRetry_others opened held hk other now error
        exact ⟨_, by rw [show s.store i = (s.view i).store from rfl, refused]; rfl⟩

/-- A request that takes a pending row leaves its lock with the transaction. -/
theorem locked_of_takes {s : System} {i : StoreId} (distinct : s.Distinct) (inv : (s.view i).Sound)
    {t : OpenTx} (ht : t ∈ s.openOn i) {now : Timestamp} {r : TxRequest} {answer? : Option r.Answer}
    (done : (s.request now i t.handle r).1 = .ok answer?) {id : MessageId}
    (takes : r.Takes answer? id) {row : Row} (found : (s.store i).row? id = some row)
    (pending : row.message.isPending = true) :
    ∃ u, (s.request now i t.handle r).2.open? t.handle = some u ∧ id ∈ u.tx.locks := by
  have opened := open?_of_mem distinct (mem_openOn.mp ht).1
  have home : t.home = i := (mem_openOn.mp ht).2
  rw [request_answer opened home] at done
  rw [request, opened]
  dsimp only
  rw [if_pos home]
  cases got : t.tx.request (s.store i) now r with
  | error e =>
      rw [got] at done
      cases done
  | ok p =>
      obtain ⟨answer', st', tx'⟩ := p
      rw [got] at done
      cases done
      -- the transaction after the request
      refine ⟨⟨t.handle, t.home, tx'⟩, ?_, ?_⟩
      · dsimp only
        rw [open?_put, if_pos rfl, opened]
        rfl
      · exact inv.locked_of_takes (view_tx_of_mem distinct ht) got takes found pending

/-- A locked row does not change while its transaction goes on. -/
theorem row_run {n : Nat} {i : StoreId} (hi : i.index < n) {before later : List Call}
    (once : Call.AddsOnce i (before ++ later)) {t : OpenTx}
    (ht : t ∈ ((ofSize n).run before).openOn i) (going : ∀ c ∈ later, ¬ c.Ends t.handle)
    {id : MessageId} (held : id ∈ t.tx.locks) :
    (((ofSize n).run (before ++ later)).store i).row? id =
      (((ofSize n).run before).store i).row? id := by
  have distinct := distinct_run (orderly_ofSize n) List.nodup_nil before
  have orderly := orderly_run (orderly_ofSize n)
  induction later using List.reverseRecOn with
  | nil => rw [List.append_nil]
  | append_singleton calls c ih =>
      rw [← List.append_assoc] at once ⊢
      have going' : ∀ d ∈ calls, ¬ d.Ends t.handle := fun d hd =>
        going d (List.mem_append_left _ hd)
      -- before the last call the transaction is still open, with all its locks
      obtain ⟨u, hu, uHome, kept⟩ :=
        (holdsOn_of_mem (orderly before) distinct (index_lt_run hi before) ht).kept calls going'
      rw [← run_append] at hu
      have opened := view_tx_self hu (uHome.trans (mem_openOn.mp ht).2)
      have goes : ¬ (c.seenFrom i).Ends t.handle := fun ends =>
        going c (List.mem_append_right _ (List.mem_singleton.mpr rfl)) (Call.ends_of_seenFrom ends)
      have same := (sound_run hi once.of_append).row_step opened (kept held) goes
      rw [← view_step (orderly _) (index_lt_run hi _), ← run_concat] at same
      exact same.trans (ih once.of_append going')

/-- **Claims are exclusive and locks never leak.** After every run: the locks of a store are the
disjoint union of those of its open transactions, and each of them holds on to its locks until it
ends. If moreover no name is added twice, a request that takes a pending row locks it, and while a
row is locked the other transactions are excluded from it and it stays as it is, pending. -/
theorem locks_exclusive {n : Nat} {i : StoreId} (hi : i.index < n) (before : List Call) :
    let s := (ofSize n).run before
    s.LocksAgree i ∧ (∀ t ∈ s.openOn i, s.HoldsOn t) ∧
      (Call.AddsOnce i before → ∀ t ∈ s.openOn i,
        (∀ now r (answer? : Option r.Answer) id row, (s.request now i t.handle r).1 = .ok answer? →
          r.Takes answer? id → (s.store i).row? id = some row → row.message.isPending = true →
          ∃ u, (s.request now i t.handle r).2.open? t.handle = some u ∧ id ∈ u.tx.locks) ∧
        ∀ id ∈ t.tx.locks, s.Excludes t id ∧
          ∃ row, (s.store i).row? id = some row ∧ row.message.isPending = true ∧
            ∀ later, Call.AddsOnce i (before ++ later) → (∀ c ∈ later, ¬ c.Ends t.handle) →
              ((s.run later).store i).row? id = some row) := by
  intro s
  have orderly : s.Orderly := orderly_run (orderly_ofSize n) before
  have distinct : s.Distinct := distinct_run (orderly_ofSize n) List.nodup_nil before
  have hi' : i.index < s.stores.length := index_lt_run hi before
  refine ⟨locksAgree_of_locking distinct (locking_run hi before),
    fun t ht => holdsOn_of_mem orderly distinct hi' ht, ?_⟩
  intro once t ht
  have inv : (s.view i).Sound := sound_run hi once
  refine ⟨fun now r answer id row done takes found pending =>
    locked_of_takes distinct inv ht done takes found pending, ?_⟩
  intro id held
  obtain ⟨row, found, pending⟩ := inv.held t.handle t.tx (view_tx_of_mem distinct ht) id held
  refine ⟨excludes_of_sound distinct inv ht held, row, found, pending, ?_⟩
  intro later once' going
  have same := row_run hi once' ht going held
  rw [run_append] at same
  exact same.trans found

/-- A run in which two transactions are open and the first has claimed the only message. -/
def contended : List Call :=
  [.beginTx ⟨0⟩, .request default ⟨0⟩ ⟨0⟩ (.add (.fresh default default "ping" .null)),
    .commit ⟨0⟩ ⟨0⟩, .beginTx ⟨0⟩, .beginTx ⟨0⟩, .request default ⟨0⟩ ⟨1⟩ .claimNext]

/-- In `contended`, the second transaction is excluded from the message. -/
theorem locks_exclusive_contended :
    ∃ t ∈ ((ofSize 1).run contended).openOn ⟨0⟩, t.handle = ⟨1⟩ ∧ default ∈ t.tx.locks ∧
      ((ofSize 1).run contended).HoldsOn t ∧ ((ofSize 1).run contended).Excludes t default := by
  have opened : (⟨⟨1⟩, ⟨0⟩, ⟨{}, none, [default]⟩⟩ : OpenTx) ∈
      ((ofSize 1).run contended).openOn ⟨0⟩ := List.mem_cons_self
  have main := locks_exclusive (n := 1) (i := ⟨0⟩) (by decide) contended
  refine ⟨_, opened, rfl, List.mem_cons_self, main.2.1 _ opened, ?_⟩
  have once : Call.AddsOnce ⟨0⟩ contended := List.nodup_singleton _
  exact ((main.2.2 once _ opened).2 default List.mem_cons_self).1

end System

end MaintenanceOutbox
