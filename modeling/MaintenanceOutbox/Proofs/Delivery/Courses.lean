import MaintenanceOutbox.Proofs.Delivery.Fleet
import MaintenanceOutbox.Proofs.Delivery.Handlers
import MaintenanceOutbox.Proofs.Store.Budget
import MaintenanceOutbox.Proofs.Store.Exclusion

set_option autoImplicit false

/-! # What a worker's transaction holds

`Point.Fits` ties every point of a delivery to the transaction behind it. From the claim to the end,
the transaction holds the lock of its message and the message is committed as it was claimed; what
the transaction has written besides is what the handlers added, and what the worker itself wrote
about the message at the end.

The lemmas before the invariant follow one call of a delivery each.
-/

namespace MaintenanceOutbox

/-- The message is new to the outbox: not delivered, without failures. -/
def QueuedMessage.IsNew (m : QueuedMessage) : Prop :=
  m.isPending = true ∧ m.retryCount = 0

instance (m : QueuedMessage) : Decidable m.IsNew :=
  inferInstanceAs (Decidable (_ ∧ _))

/-- The message is committed as it is, and claimable. -/
def Store.Holds (st : Store) (m : QueuedMessage) : Prop :=
  (∃ row, st.row? m.id = some row ∧ row.message = m) ∧ m.isClaimable = true

/-- The transaction has the lock of the message and no other, and has written what the handlers
added and besides what is given. -/
structure Tx.Delivers (tx : Tx) (m : QueuedMessage) (savepoint : Option Changes)
    (updated : List QueuedMessage) (deadLettered : List DeadLetter) : Prop where
  new : ∀ x ∈ tx.changes.inserted, x.IsNew
  updated : tx.changes.updated = updated
  deadLettered : tx.changes.deadLettered = deadLettered
  savepoint : tx.savepoint = savepoint
  locks : tx.locks = [m.id]

/-- What a failed attempt writes about its message. -/
inductive QueuedMessage.Fails (m : QueuedMessage) :
    RetryOutcome → List QueuedMessage → List DeadLetter → Prop where
  | retried (error : String) :
      Fails m (.retrying (m.afterFailure error).retryCount) [m.afterFailure error] []
  | deadLettered (error : String) (now : Timestamp) :
      Fails m (.deadLettered (m.afterFailure error).retryCount) [] [⟨m.afterFailure error, now⟩]

/-- **What a point says about the transaction of the delivery** and about the committed tables. -/
def Point.Fits {ω : Type} (st : Store) (tx : Tx) : Point ω → Prop
  | .claiming _ => tx = {}
  | .taking _ m | .guarding _ m => tx = ⟨{}, none, [m.id]⟩ ∧ st.Holds m
  | .handling _ m op next => tx.Delivers m (some {}) [] [] ∧ st.Holds m ∧
      (Program.call (I := TxInterface ω) op next).Uses TxOp.AddsOnly
  | .keeping _ m _ | .failing _ m _ | .undoing _ m _ => tx.Delivers m (some {}) [] [] ∧ st.Holds m
  | .marking _ m _ => tx.Delivers m none [] [] ∧ st.Holds m
  | .storing _ m _ => (∃ now, tx.Delivers m none [m.markProcessed now] []) ∧ st.Holds m
  | .counting _ m _ => tx = ⟨{}, some {}, [m.id]⟩ ∧ st.Holds m
  | .recording _ m outcome =>
      (∃ updated dead, m.Fails outcome updated dead ∧ tx = ⟨⟨[], updated, dead⟩, some {}, [m.id]⟩) ∧
        st.Holds m
  | .yielding _ m? _ | .yielded _ m? _ => ∀ m, m? = some m → m.id ∈ tx.locks
  | .starting | .beginning | .resting _ | .leaving _ | .succeeded _ _ | .ended _ => True

namespace Point

variable {ω : Type} {st st' : Store} {tx : Tx} {point : Point ω}

/-- **The message of a delivery is locked.** -/
theorem Fits.locked (fits : point.Fits st tx) {m : QueuedMessage} (hm : point.message? = some m) :
    m.id ∈ tx.locks := by
  cases point with
  | starting | beginning | claiming | resting | leaving | succeeded | ended => cases hm
  | taking tx₀ m₀ | guarding tx₀ m₀ =>
      cases hm
      rw [fits.1]
      exact List.mem_singleton.mpr rfl
  | handling tx₀ m₀ op next =>
      cases hm
      rw [fits.1.locks]
      exact List.mem_singleton.mpr rfl
  | keeping tx₀ m₀ handlers | failing tx₀ m₀ e | undoing tx₀ m₀ e | marking tx₀ m₀ handlers =>
      cases hm
      rw [fits.1.locks]
      exact List.mem_singleton.mpr rfl
  | storing tx₀ m₀ handlers =>
      cases hm
      obtain ⟨⟨now, delivers⟩, -⟩ := fits
      rw [delivers.locks]
      exact List.mem_singleton.mpr rfl
  | counting tx₀ m₀ reason =>
      cases hm
      rw [fits.1]
      exact List.mem_singleton.mpr rfl
  | recording tx₀ m₀ outcome =>
      cases hm
      obtain ⟨⟨updated, dead, -, rfl⟩, -⟩ := fits
      exact List.mem_singleton.mpr rfl
  | yielding tx₀ m? e | yielded tx₀ m? e => exact fits m hm

/-- What a point says stays true while the row of its message does not change. -/
theorem Fits.of_row (fits : point.Fits st tx)
    (same : ∀ m, point.message? = some m → st'.row? m.id = st.row? m.id) : point.Fits st' tx := by
  -- only the row of the message matters
  have holds : ∀ m, point.message? = some m → st.Holds m → st'.Holds m := by
    rintro m hm ⟨⟨row, found, here⟩, claimable⟩
    exact ⟨⟨row, (same m hm).trans found, here⟩, claimable⟩
  cases point with
  | starting | beginning | resting | leaving | succeeded | ended => trivial
  | claiming | yielding | yielded => exact fits
  | taking tx₀ m | guarding tx₀ m | keeping tx₀ m _ | failing tx₀ m _ | undoing tx₀ m _
  | marking tx₀ m _ | storing tx₀ m _ | counting tx₀ m _ | recording tx₀ m _ =>
      exact ⟨fits.1, holds m rfl fits.2⟩
  | handling tx₀ m op next => exact ⟨fits.1, holds m rfl fits.2.1, fits.2.2⟩

end Point

/-! ## The calls of a delivery -/

namespace Tx

variable {tx tx' : Tx} {st st' : Store} {m : QueuedMessage}

/-- **The claim** of a fresh transaction: it gets the lock of the message, which is committed as it
is handed out. -/
theorem claimNext_fresh (done : ({} : Tx).claimNext st = .ok (some m, st', tx')) :
    tx' = ⟨{}, none, [m.id]⟩ ∧ st.Holds m := by
  rcases claimNext_cases {} st with ⟨empty, -⟩ | ⟨own, hown, -⟩ | ⟨row, hrow, st₁, tx₁, got, answer⟩
  · rw [empty] at done
    cases done
  · cases hown
  · rw [answer] at done
    cases done
    obtain ⟨-, seen, claimable, -⟩ := mem_claimableRows.mp hrow
    -- a fresh transaction has no lock yet, and sees the row as it is committed
    refine ⟨?_, ?_, claimable⟩
    · rcases acquire_eq_ok_iff.mp got with ⟨held, -, -⟩ | ⟨-, -, -, rfl⟩
      · cases held
      · rfl
    · rcases (committedView_cases seen).2 with changed | ⟨-, stored, found, same⟩
      · cases changed
      · exact ⟨stored, found, same⟩

theorem Delivers.mem_locks {savepoint : Option Changes} {updated : List QueuedMessage}
    {dead : List DeadLetter} (delivers : tx.Delivers m savepoint updated dead) :
    m.id ∈ tx.locks := by
  rw [delivers.locks]
  exact List.mem_singleton.mpr rfl

/-- **The savepoint** in front of the handlers. -/
theorem delivers_guarded (m : QueuedMessage) :
    (⟨{}, some {}, [m.id]⟩ : Tx).Delivers m (some {}) [] [] := by
  refine ⟨?_, rfl, rfl, rfl, rfl⟩
  intro x hx
  cases hx

/-- **An add** by a handler. -/
theorem Delivers.add {savepoint : Option Changes} {updated : List QueuedMessage}
    {dead : List DeadLetter} (delivers : tx.Delivers m savepoint updated dead) {x : QueuedMessage}
    (isNew : x.IsNew) {now : Timestamp} {answer? : Option Unit}
    (done : tx.request st now (.add x) = .ok (answer?, st', tx')) :
    tx'.Delivers m savepoint updated dead := by
  rw [request, Tx.add] at done
  split at done <;> cases done
  refine ⟨?_, delivers.updated, delivers.deadLettered, delivers.savepoint, delivers.locks⟩
  intro y hy
  rcases List.mem_append.mp hy with old | here
  · exact delivers.new y old
  · exact List.mem_singleton.mp here ▸ isNew

/-- **The release** of the savepoint keeps what the handlers added. -/
theorem Delivers.release {updated : List QueuedMessage} {dead : List DeadLetter} {c : Changes}
    (delivers : tx.Delivers m (some c) updated dead) {now : Timestamp} {answer? : Option Unit}
    (done : tx.request st now .releaseSavepoint = .ok (answer?, st', tx')) :
    tx'.Delivers m none updated dead := by
  rw [request, releaseSavepoint, delivers.savepoint] at done
  cases done
  exact ⟨delivers.new, delivers.updated, delivers.deadLettered, rfl, delivers.locks⟩

/-- **The rollback** to the savepoint undoes what the handlers added. -/
theorem Delivers.undo {updated : List QueuedMessage} {dead : List DeadLetter}
    (delivers : tx.Delivers m (some {}) updated dead) {now : Timestamp} {answer? : Option Unit}
    (done : tx.request st now .rollbackToSavepoint = .ok (answer?, st', tx')) :
    tx' = ⟨{}, some {}, [m.id]⟩ := by
  rw [request, rollbackToSavepoint, delivers.savepoint] at done
  cases done
  rw [← delivers.locks]

/-- What the transaction of a delivery sees of its message. -/
theorem Delivers.seen {savepoint : Option Changes} (delivers : tx.Delivers m savepoint [] [])
    (holds : st.Holds m) (notOwn : ¬ tx.Carries m.id) :
    tx.changes.inserted? m.id = none ∧ tx.committedView st m.id = some m ∧
      m.isPending = true ∧ tx.acquire st m.id = .ok (st, tx) := by
  obtain ⟨⟨row, found, here⟩, claimable⟩ := holds
  refine ⟨Changes.inserted?_eq_none_iff.mpr fun new => notOwn (Or.inl new), ?_,
    QueuedMessage.isPending_of_isClaimable claimable, ?_⟩
  · rw [committedView, Changes.isDeadLettered, delivers.deadLettered, Changes.updated?,
      delivers.updated, Store.message?, found, ← here]
    rfl
  · exact acquire_eq_ok_iff.mpr (Or.inl ⟨delivers.mem_locks, rfl, rfl⟩)

/-- **The mark** at the end of a delivery. -/
theorem Delivers.mark {savepoint : Option Changes} (delivers : tx.Delivers m savepoint [] [])
    (holds : st.Holds m) (notOwn : ¬ tx.Carries m.id) {now : Timestamp} {answer? : Option Unit}
    (done : tx.request st now (.markProcessed m.id) = .ok (answer?, st', tx')) :
    tx'.Delivers m savepoint [m.markProcessed now] [] := by
  obtain ⟨own, seen, pending, got⟩ := delivers.seen holds notOwn
  rw [request, markProcessed, own, seen] at done
  dsimp only at done
  rw [if_pos pending, got] at done
  cases done
  refine ⟨delivers.new, ?_, delivers.deadLettered, delivers.savepoint, delivers.locks⟩
  show tx.changes.updated.filter _ ++ [m.markProcessed now] = _
  rw [delivers.updated]
  rfl

/-- **The count** at the end of a failed delivery. It does not break off, as the message has an
attempt left. -/
theorem incrementRetry_held (holds : st.Holds m) {now : Timestamp} {reason : String}
    {outcome? : Option RetryOutcome}
    (done : (⟨{}, some {}, [m.id]⟩ : Tx).incrementRetry st now m.id reason =
      .ok (outcome?, st', tx')) :
    ∃ outcome updated dead, outcome? = some outcome ∧ m.Fails outcome updated dead ∧
      tx' = ⟨⟨[], updated, dead⟩, some {}, [m.id]⟩ := by
  have notOwn : ¬ (⟨{}, some {}, [m.id]⟩ : Tx).Carries m.id := by
    rintro (new | ⟨dead, -⟩)
    · cases new
    · cases dead
  obtain ⟨own, seen, pending, got⟩ := (delivers_guarded m).seen holds notOwn
  have room := (QueuedMessage.isClaimable_iff.mp holds.2).2.countIsFull
  rw [incrementRetry, own, seen, Option.filter_some, if_pos pending] at done
  dsimp only at done
  rw [got] at done
  simp only [bind, Except.bind, room, Bool.false_eq_true, if_false] at done
  -- the budget decides
  split at done
  · cases done
    exact ⟨_, _, _, rfl, .deadLettered reason now, rfl⟩
  · cases done
    exact ⟨_, _, _, rfl, .retried reason, rfl⟩

end Tx

end MaintenanceOutbox
