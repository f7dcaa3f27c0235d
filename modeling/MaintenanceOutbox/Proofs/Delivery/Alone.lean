import MaintenanceOutbox.Proofs.Delivery.Clocked

set_option autoImplicit false

/-! # A delivery with nobody else at work

If no other calls come in between, every stage of a delivery leads to the next one in a known state:
the system is `s.put t st tx` for the system `s` in which the delivery's transaction `t` began, and
what was told to the outside world is what the handlers told. A delivery that ends leaves the system
one transaction later (`System.later`), with other tables in its store. A delivery whose handlers
break off ends with them.
-/

namespace MaintenanceOutbox

namespace System

variable {s : System} {i : StoreId}

/-- The system after a transaction on store `i` that began and ended, with its tables then. -/
def later (s : System) (i : StoreId) (st : Store) : System :=
  { s.setStore i st with begun := s.begun + 1 }

theorem store_later (hi : i.index < s.stores.length) (st : Store) : (s.later i st).store i = st :=
  store_setStore_self hi st

@[simp] theorem length_stores_later (s : System) (i : StoreId) (st : Store) :
    (s.later i st).stores.length = s.stores.length :=
  length_stores_setStore s i st

theorem orderly_later (orderly : s.Orderly) (st : Store) : (s.later i st).Orderly :=
  fun t ht => Nat.lt_succ_of_lt (orderly t ht)

/-- The transaction that begins next on store `i`. -/
def next (s : System) (i : StoreId) : OpenTx :=
  ⟨⟨s.begun⟩, i, {}⟩

theorem open?_next (orderly : s.Orderly) (i : StoreId) :
    (s.beginTx i).2.open? (s.next i).handle = some (s.next i) := by
  rw [open?_beginTx orderly]
  exact if_pos rfl

end System

namespace Worker

open Clocked

variable {κ ω : Type} [EventFamily κ] (times : Nat → Timestamp) (w : Worker κ ω) {c : Clocked ω}

/-- The host after the begin of a delivery. -/
def begun (c : Clocked ω) : Clocked ω :=
  (answer times (.beginTx w.store) (answer times (.enter .claiming) c).2).2

/-- A delivery begins a transaction and goes on with the claim. -/
theorem run_processNext_begun (c : Clocked ω) :
    run times w.processNext c =
      run times (w.claim (c.system.next w.store).handle) (w.begun times c) :=
  rfl

theorem system_begun (orderly : c.system.Orderly) :
    (w.begun times c).system =
      (c.system.beginTx w.store).2.put (c.system.next w.store) (c.system.store w.store) {} :=
  System.beginTx_eq_put orderly w.store

/-- The calls between the begin of a delivery and its handlers, where nothing is refused. -/
def handOver (tx : TxHandle) : OutboxProgram ω Unit := do
  let _ ← OutboxProgram.request w.store tx .claimNext
  OutboxProgram.enter .dispatching
  let _ ← OutboxProgram.request w.store tx .savepoint
  pure ()

/-- The handlers run between the savepoint and what their result leads to. -/
theorem run_dispatch {tx : TxHandle} {m : QueuedMessage} {result : Except HandlerError Nat}
    (handled : (inside times tx (w.deliver m).run c).1 = some result) :
    run times (w.dispatch tx m) c =
      run times (w.settle tx m result) (inside times tx (w.deliver m).run c).2 := by
  rw [← run_within] at handled ⊢
  exact run_bind handled (w.settle tx m)

theorem run_dispatch_none {tx : TxHandle} {m : QueuedMessage}
    (broken : (inside times tx (w.deliver m).run c).1 = none) :
    run times (w.dispatch tx m) c = (none, (inside times tx (w.deliver m).run c).2) := by
  rw [← run_within] at broken ⊢
  exact run_bind_none broken (w.settle tx m)

section AtWork

variable {w} {s : System} {t : OpenTx} {st : Store} {tx : Tx} {m : QueuedMessage}
  (opened : s.open? t.handle = some t) (hi : t.home.index < s.stores.length)
  (home : t.home = w.store) (system : c.system = s.put t st tx)
include opened hi home system

/-- Where nothing is claimable, the delivery ends without a message. -/
theorem run_claim_none {st' : Store} {tx' : Tx} (done : tx.claimNext st = .ok (none, st', tx')) :
    (run times (w.claim t.handle) c).1 = some (.ok none) ∧
      (run times (w.claim t.handle) c).2.system = s.close t (tx'.release st') ∧
        (run times (w.claim t.handle) c).2.told = c.told := by
  have claim : tx.request st (times c.calls) .claimNext = .ok (some none, st', tx') :=
    congrArg (Except.map _) done
  obtain ⟨answer₁, system₁⟩ := answer_request times opened hi system claim
  rw [home] at answer₁ system₁
  rw [Worker.claim, run_request answer₁]
  -- the state is entered, and the transaction rolled back
  rw [nothingToDo, run_enter, run_rollback]
  obtain ⟨answer₂, system₂⟩ := answer_rollback times (c := (answer times (.enter .idle)
    (answer times (.inside t.handle (.request w.store .claimNext)) c).2).2) opened hi system₁
  rw [home] at answer₂ system₂
  rw [answer₂]
  dsimp only
  rw [run_pure]
  exact ⟨rfl, system₂, by simp⟩

/-- A message that is claimed goes to the handlers, after a savepoint was set. -/
theorem run_claim_some {st' : Store} {tx' : Tx}
    (claimed : tx.claimNext st = .ok (some m, st', tx')) :
    run times (w.claim t.handle) c =
        run times (w.dispatch t.handle m) (run times (w.handOver t.handle) c).2 ∧
      (run times (w.handOver t.handle) c).2.system = s.put t st' tx'.setSavepoint := by
  have claim : tx.request st (times c.calls) .claimNext = .ok (some (some m), st', tx') :=
    congrArg (Except.map _) claimed
  obtain ⟨answer₁, system₁⟩ := answer_request times opened hi system claim
  obtain ⟨answer₂, system₂⟩ := answer_request times (r := .savepoint) (c := (answer times
    (.enter .dispatching) (answer times (.inside t.handle (.request t.home .claimNext)) c).2).2)
    opened hi system₁ rfl
  rw [home] at answer₁ answer₂ system₂
  have hosts : (run times (w.handOver t.handle) c).2 =
      (answer times (.inside t.handle (.request w.store .savepoint)) (answer times
        (.enter .dispatching) (answer times (.inside t.handle (.request w.store .claimNext))
          c).2).2).2 := by
    rw [handOver, run_request answer₁, run_enter, run_request answer₂]
    rfl
  rw [hosts]
  refine ⟨?_, system₂⟩
  rw [Worker.claim, run_request answer₁]
  dsimp only
  rw [Worker.guard, run_enter, run_request answer₂]

/-- **The way of success**: the changes since the savepoint are kept, the message is marked, and the
transaction is committed. -/
theorem run_succeed {sp : Changes} (saved : tx.savepoint = some sp) {st' : Store} {tx' : Tx}
    (marked : ({ tx with savepoint := none } : Tx).markProcessed st (times (c.calls + 1)) m.id =
      .ok (st', tx')) (handlers : Nat) :
    (run times (w.succeed t.handle m handlers) c).1 = some (.ok (some (.processed m.id handlers))) ∧
      (run times (w.succeed t.handle m handlers) c).2.system = s.close t (tx'.commit st') ∧
        (run times (w.succeed t.handle m handlers) c).2.told = c.told := by
  have release : tx.request st (times c.calls) .releaseSavepoint =
      .ok (some (), st, { tx with savepoint := none }) := by
    rw [Tx.request, Tx.releaseSavepoint, saved]
    rfl
  obtain ⟨answer₁, system₁⟩ := answer_request times opened hi system release
  have mark' : ({ tx with savepoint := none } : Tx).request st
      (times (answer times (.inside t.handle (.request t.home .releaseSavepoint)) c).2.calls)
      (.markProcessed m.id) = .ok (some (), st', tx') := congrArg (Except.map _) marked
  obtain ⟨answer₂, system₂⟩ := answer_request times opened hi system₁ mark'
  obtain ⟨answer₃, system₃⟩ := answer_commit times opened hi system₂
  rw [home] at answer₁ answer₂ answer₃ system₃
  rw [succeed, run_request answer₁]
  dsimp only
  rw [mark, run_request answer₂]
  dsimp only
  rw [commitSuccess, run_commit, answer₃]
  dsimp only
  rw [run_enter, run_pure]
  exact ⟨rfl, system₃, by simp⟩

/-- **The way of failure**: the changes since the savepoint are undone, the failure is counted, and
the transaction is committed. -/
theorem run_fail {sp : Changes} (saved : tx.savepoint = some sp) (e : HandlerError)
    {outcome : RetryOutcome} {st' : Store} {tx' : Tx}
    (counted : ({ tx with changes := sp } : Tx).incrementRetry st (times (c.calls + 2)) m.id
      e.message = .ok (some outcome, st', tx')) :
    (run times (w.fail t.handle m e) c).1 = some (.ok (some (.ofRetry m.id outcome))) ∧
      (run times (w.fail t.handle m e) c).2.system = s.close t (tx'.commit st') ∧
        (run times (w.fail t.handle m e) c).2.told = c.told := by
  let failed := (answer times (.enter .failed) c).2
  have undo : tx.request st (times failed.calls) .rollbackToSavepoint =
      .ok (some (), st, { tx with changes := sp }) := by
    rw [Tx.request, Tx.rollbackToSavepoint, saved]
    rfl
  obtain ⟨answer₁, system₁⟩ := answer_request times (c := failed) opened hi system undo
  obtain ⟨answer₂, system₂⟩ := answer_request times (r := .incrementRetry m.id e.message) opened hi
    system₁ counted
  obtain ⟨answer₃, system₃⟩ := answer_commit times opened hi system₂
  rw [home] at answer₁ answer₂ answer₃ system₃
  rw [fail, run_enter, run_request answer₁]
  dsimp only
  rw [countFailure, run_request answer₂]
  dsimp only
  rw [commitFailure, run_commit, answer₃]
  dsimp only
  rw [run_pure]
  exact ⟨rfl, system₃, by simp [failed]⟩

end AtWork

end Worker

end MaintenanceOutbox
