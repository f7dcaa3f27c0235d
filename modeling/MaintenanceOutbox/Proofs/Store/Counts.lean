import MaintenanceOutbox.Proofs.Store.Exclusion

set_option autoImplicit false

/-! # Counts go on

A transaction reads a committed row when it first touches it, and writes its changed copy back when
it commits, which may be much later. An old copy could set the count of failures back.

It does not, because there is only one copy of a row, and the row stays as it is for as long as the
copy lives: copies are made under a lock. So what a transaction would write over a row comes from
that very row by attempts at delivery (`View.Ahead`). An attempt never lowers the count
(`QueuedMessage.Progress.retryCount_le`): where it could not go up, the call breaks off and nothing
is written.

A row that nobody has locked does not change at all, but operators may move it or take it away
(`View.Sound.tables_step`).
-/

namespace MaintenanceOutbox

/-! ## The order of attempts -/

namespace QueuedMessage

variable {m m' : QueuedMessage}

/-- A count that is not full goes up by one. -/
theorem toNat_retryCount_afterFailure (room : m.countIsFull = false) (error : String) :
    (m.afterFailure error).retryCount.toNat = m.retryCount.toNat + 1 := by
  have notFull : m.retryCount ≠ maxRetryCount := of_decide_eq_false room
  have bounded : m.retryCount.toNat < 2 ^ 32 := m.retryCount.toNat_lt
  have below : m.retryCount.toNat ≠ 4294967295 := fun full =>
    notFull (UInt32.toNat_inj.mp full)
  show (m.retryCount + 1).toNat = m.retryCount.toNat + 1
  rw [UInt32.toNat_add, UInt32.toNat_one]
  omega

/-- **An attempt at delivery does not lower the count.** -/
theorem Progress.retryCount_le (progress : m.Progress m') : m.retryCount ≤ m'.retryCount := by
  cases progress with
  | delivered now => exact UInt32.le_refl _
  | failed error room more =>
      rw [UInt32.le_iff_toNat_le, toNat_retryCount_afterFailure room]
      exact Nat.le_succ _

end QueuedMessage

/-! ## One store -/

/-- A changed copy that a transaction keeps after a request is an old one, or comes from a pending
message by an attempt at delivery. -/
theorem Tx.Moves.updated_cases {tx tx' : Tx} {st st' : Store} {r : TxRequest}
    (h : tx.Moves st r st' tx') {c : Changes} (hc : tx'.Keeps c) {m : QueuedMessage}
    (hm : m ∈ c.updated) :
    (∃ c₀, tx.Keeps c₀ ∧ m ∈ c₀.updated) ∨
      ∃ m₀, tx.committedView st m.id = some m₀ ∧ m₀.isPending = true ∧ m₀.Progress m := by
  rcases h.keeps_cases hc with rfl | before
  · cases h with
    | stays | adds | rewritesOwn | buriesOwn | setsSavepoint | forgets =>
        exact Or.inl ⟨tx.changes, tx.keeps_changes, hm⟩
    | takesLock r id₀ m₀ st' tx' seen pending got =>
        exact Or.inl ⟨tx.changes, tx.keeps_changes, (acquire_changes got).1 ▸ hm⟩
    | rewrites r id m₀ m₁ st' tx₁ notOwn seen pending got progress =>
        have same := (acquire_changes got).1
        rcases List.mem_append.mp hm with old | new
        · exact Or.inl ⟨tx.changes, tx.keeps_changes, same ▸ (List.mem_filter.mp old).1⟩
        · cases List.mem_singleton.mp new
          have name : m.id = id := progress.id_eq.trans (id_of_committedView seen)
          exact Or.inr ⟨m₀, name ▸ seen, pending, progress⟩
    | buries r id m₀ d st' tx₁ notOwn seen pending got death =>
        have same := (acquire_changes got).1
        exact Or.inl ⟨tx.changes, tx.keeps_changes, same ▸ (List.mem_filter.mp hm).1⟩
    | returns c₀ saved => exact Or.inl ⟨c₀, Or.inr saved, hm⟩
  · exact Or.inl ⟨c, before, hm⟩

namespace View

variable {v : View} {e : Happening} {id : MessageId}

/-- **What a transaction would write over a row comes from that row** by attempts at delivery. -/
def Ahead (v : View) : Prop :=
  ∀ h tx, v.tx h = some tx → ∀ c, tx.Keeps c → ∀ m ∈ c.updated,
    ∀ r, v.store.row? m.id = some r → r.message.retryCount ≤ m.retryCount

/-- A request changes no row. -/
theorem row?_step_requests (v : View) (now : Timestamp) (h : TxHandle) (r : TxRequest)
    (id : MessageId) : (v.step (.requests now h r)).store.row? id = v.store.row? id := by
  rw [View.step]
  split
  · rfl
  · split
    · rfl
    · next done => exact (Tx.request_moves done).row? id

theorem Ahead.step (inv : v.Sound) (ahead : v.Ahead) (e : Happening) : (v.step e).Ahead := by
  intro h tx opened c hc m hm r found
  rcases tx_step_cases opened with ⟨old, going⟩ | rfl | ⟨ux, now, q, st, hk, rfl, moves⟩
  · -- the row is locked, so that it is still the one that was copied
    have held := inv.locking.updated h tx old c hc m hm
    rw [inv.row_step old held going] at found
    exact ahead h tx old c hc m hm r found
  · rcases hc with rfl | saved
    · cases hm
    · cases saved
  · rw [row?_step_requests] at found
    rcases moves.updated_cases hc hm with ⟨c₀, kept, old⟩ | ⟨m₀, seen, pending, progress⟩
    · exact ahead h ux hk c₀ kept m old r found
    · -- the attempt was made on an older copy, or on the row itself
      have on := progress.retryCount_le
      have name : m.id = m₀.id := progress.id_eq
      rcases (Tx.committedView_cases seen).2 with copy | ⟨-, r', found', rfl⟩
      · have ahead₀ := ahead h ux hk ux.changes ux.keeps_changes m₀ copy r (name ▸ found)
        exact UInt32.le_trans ahead₀ on
      · cases found.symm.trans found'
        exact on

namespace Sound

/-- **What can happen to a message that nobody has locked or carries**: an operator puts it back
into the queue, deletes it or purges it, and nothing else. -/
theorem tables_step (inv : v.Sound)
    (free : ∀ h tx, v.tx h = some tx → id ∉ tx.locks ∧ ¬ tx.Carries id) (e : Happening) :
    ((v.step e).store.row? id = v.store.row? id ∧
        (v.step e).store.deadLetter? id = v.store.deadLetter? id) ∨
      (e = .requeues id ∧ (∃ d, v.store.deadLetter? id = some d)) ∨
      (e = .deletes id ∧ (v.step e).store.row? id = v.store.row? id ∧
        (v.step e).store.deadLetter? id = none) ∨
      ∃ cutoff r, e = .purges cutoff ∧ v.store.row? id = some r ∧
        Store.processedBefore cutoff r.message = true ∧ (v.step e).store.Unused id := by
  cases e with
  | nothing | elsewhere | begins => exact Or.inl ⟨rfl, rfl⟩
  | requests now h r =>
      refine Or.inl ⟨row?_step_requests v now h r id, ?_⟩
      rw [View.step]
      split
      · rfl
      · split
        · rfl
        · next done => exact (Tx.request_moves done).deadLetter? id
  | commits h =>
      rw [View.step]
      split
      · exact Or.inl ⟨rfl, rfl⟩
      · next tx opened =>
          obtain ⟨unlocked, uncarried⟩ := free h tx opened
          exact Or.inl (inv.commit_frame opened unlocked uncarried)
  | releases h =>
      rw [View.step]
      split <;> exact Or.inl ⟨rfl, rfl⟩
  | requeues moved =>
      rw [View.step]
      split
      · exact Or.inl ⟨rfl, rfl⟩
      · next done =>
          obtain ⟨d, dead, -, -, rows, deads⟩ := Store.requeue_cases done
          by_cases same : moved = id
          · subst same
            exact Or.inr (Or.inl ⟨rfl, d, dead⟩)
          · exact Or.inl ⟨(rows id).trans (if_neg same), (deads id).trans (if_neg same)⟩
  | deletes gone =>
      rw [View.step]
      split
      · exact Or.inl ⟨rfl, rfl⟩
      · next done =>
          obtain ⟨-, -, rows, deads⟩ := Store.deleteDeadLetter_cases done
          by_cases same : gone = id
          · subst same
            exact Or.inr (Or.inr (Or.inl ⟨rfl, rows gone, (deads gone).trans (if_pos rfl)⟩))
          · exact Or.inl ⟨rows id, (deads id).trans (if_neg same)⟩
  | purges cutoff =>
      have rows := Store.row?_purge inv.tidy cutoff id
      cases found : v.store.row? id with
      | none =>
          rw [found] at rows
          exact Or.inl ⟨rows, rfl⟩
      | some r =>
          rw [found, Option.filter_some] at rows
          cases old : Store.processedBefore cutoff r.message with
          | false =>
              rw [old] at rows
              exact Or.inl ⟨rows, rfl⟩
          | true =>
              rw [old] at rows
              have alive : v.store.deadLetter? id = none :=
                (inv.tables id).resolve_left (by simp [found])
              exact Or.inr (Or.inr (Or.inr ⟨cutoff, r, rfl, rfl, old, rows, alive⟩))

/-- A stored message is carried by nobody. -/
theorem uncarried_of_row (inv : v.Sound) {r : Row} (found : v.store.row? id = some r) :
    ∀ h tx, v.tx h = some tx → ¬ tx.Carries id := by
  intro h tx opened carried
  rw [(inv.unused h tx opened id carried).1] at found
  cases found

/-- **The count of a row does not decrease**, whatever happens, for as long as it is a row. -/
theorem retryCount_step (inv : v.Sound) (ahead : v.Ahead) {r r' : Row}
    (found : v.store.row? id = some r) (found' : (v.step e).store.row? id = some r') :
    r.message.retryCount ≤ r'.message.retryCount := by
  have alive : v.store.deadLetter? id = none := (inv.tables id).resolve_left (by simp [found])
  have same : (v.step e).store.row? id = v.store.row? id →
      r.message.retryCount ≤ r'.message.retryCount := by
    intro unchanged
    cases (found.symm.trans unchanged.symm).trans found'
    exact UInt32.le_refl _
  by_cases locked : ∃ h tx, v.tx h = some tx ∧ id ∈ tx.locks
  · obtain ⟨h, tx, opened, held⟩ := locked
    by_cases going : e = .commits h
    · -- the copy comes from the row
      subst going
      rw [View.step, opened] at found'
      rcases (Changes.row?_apply_cases (found' :)).2 with
        ⟨old, -⟩ | ⟨old, hold, m, hm, name, rfl⟩ | ⟨m, hm, name, -⟩
      · cases found.symm.trans old
        exact UInt32.le_refl _
      · cases found.symm.trans hold
        exact ahead h tx opened tx.changes tx.keeps_changes m hm r (name ▸ found)
      · have carried : tx.Carries id := Or.inl (name ▸ List.mem_map_of_mem hm)
        exact absurd carried (inv.uncarried_of_row found h tx opened)
    · by_cases released : e = .releases h
      · subst released
        refine same ?_
        rw [View.step, opened]
        rfl
      · refine same (inv.row_step opened held ?_)
        intro ends
        cases e with
        | commits k => exact going (ends ▸ rfl)
        | releases k => exact released (ends ▸ rfl)
        | nothing | elsewhere | begins | requests | requeues | deletes | purges => exact ends
  · have free : ∀ h tx, v.tx h = some tx → id ∉ tx.locks ∧ ¬ tx.Carries id := fun h tx opened =>
      ⟨fun held => locked ⟨h, tx, opened, held⟩, inv.uncarried_of_row found h tx opened⟩
    rcases inv.tables_step free e with
      ⟨row, -⟩ | ⟨-, d, dead⟩ | ⟨-, row, -⟩ | ⟨cutoff, r₀, -, -, -, gone⟩
    · exact same row
    · cases alive.symm.trans dead
    · exact same row
    · cases gone.1.symm.trans found'

end Sound

end View

end MaintenanceOutbox
