import MaintenanceOutbox.Proofs.Delivery.Alone

set_option autoImplicit false

/-! # Where the handlers of a delivery run

With nobody else at work, the host on which the handlers of a delivery begin is known: it is the one
after the five calls in front of them (`Worker.handOver`, `Worker.handedOver`), and a delivery that
claimed a message goes on from there with whatever the handlers report
(`Worker.run_processNext_claimed`). If they break off, so does the delivery
(`Worker.run_processNext_broken`).
-/

namespace MaintenanceOutbox

namespace Worker

open Clocked

variable {κ ω : Type} [EventFamily κ] (times : Nat → Timestamp) (w : Worker κ ω) {c : Clocked ω}

/-- **The host on which the handlers begin.** -/
def handedOver (c : Clocked ω) : Clocked ω :=
  (run times (w.handOver (c.system.next w.store).handle) (w.begun times c)).2

/-- Its calls are all answered. -/
theorem handedOver_eq (c : Clocked ω) : w.handedOver times c =
    (answer times (.inside (c.system.next w.store).handle (.request w.store .savepoint))
      (answer times (.enter .dispatching)
        (answer times (.inside (c.system.next w.store).handle (.request w.store .claimNext))
          (w.begun times c)).2).2).2 := by
  obtain ⟨_, claimed⟩ := exists_answer (r := .claimNext) times (w.begun times c) w.store
    (c.system.next w.store).handle (by simp)
  obtain ⟨_, saved⟩ := exists_answer (r := .savepoint) times (answer times (.enter .dispatching)
    (answer times (.inside (c.system.next w.store).handle (.request w.store .claimNext))
      (w.begun times c)).2).2 w.store (c.system.next w.store).handle (by simp)
  rw [handedOver, handOver, run_request claimed, run_enter, run_request saved]
  rfl

theorem calls_handedOver (c : Clocked ω) : (w.handedOver times c).calls = c.calls + 5 := by
  rw [handedOver_eq]
  rfl

theorem told_handedOver (c : Clocked ω) : (w.handedOver times c).told = c.told := by
  rw [handedOver_eq, told_request, told_enter, told_request]
  rfl

/-- The handlers' part of a delivery of `m`: what they report, unless they break off, and the host
afterwards. -/
def handled (m : QueuedMessage) (c : Clocked ω) : Option (Except HandlerError Nat) × Clocked ω :=
  inside times (c.system.next w.store).handle (w.deliver m).run (w.handedOver times c)

/-- The host of a delivery when its message is decoded: the worker has looked at the clock. -/
def decoding (c : Clocked ω) : Clocked ω :=
  (answer times (.inside (c.system.next w.store).handle .now) (w.handedOver times c)).2

/-- A delivery from the look at the clock on. -/
def deliverAt (m : QueuedMessage) (now : Timestamp) : DeferredM ω Nat :=
  match w.registry.decode now m.eventType m.payload with
  | .error e => throw (.failed e.message)
  | .ok event => w.registry.dispatchDeferred event

theorem inside_deliver (m : QueuedMessage) (tx : TxHandle) (c : Clocked ω) :
    inside times tx (w.deliver m).run c =
      inside times tx (w.deliverAt m (times c.calls)).run (answer times (.inside tx .now) c).2 :=
  rfl

theorem asked_deliver (m : QueuedMessage) (tx : TxHandle) (c : Clocked ω) :
    asked times tx (w.deliver m).run c =
      .now :: asked times tx (w.deliverAt m (times c.calls)).run
        (answer times (.inside tx .now) c).2 :=
  rfl

section Alone

variable {w} (orderly : c.system.Orderly) (hi : w.store.index < c.system.stores.length)
include orderly hi

/-- **A delivery that claims nothing** changes nothing, and tells nothing. -/
theorem run_processNext_unclaimed {st : Store} {tx : Tx}
    (done : ({} : Tx).claimNext (c.system.store w.store) = .ok (none, st, tx)) :
    (run times w.processNext c).1 = some (.ok none) ∧
      (run times w.processNext c).2.system = c.system.later w.store (c.system.store w.store) ∧
        (run times w.processNext c).2.told = c.told := by
  rw [run_processNext_begun]
  obtain ⟨answer, system, told⟩ := run_claim_none times (w := w)
    (System.open?_next orderly w.store) hi rfl (w.system_begun times orderly) done
  have only := (Tx.OnlyLocks.start _).moves (Tx.claimNext_moves done)
  rw [only.release] at system
  exact ⟨answer, system.trans (System.close_beginTx orderly w.store _), told⟩

variable {m : QueuedMessage} {st : Store} {tx : Tx}
  (claimed : ({} : Tx).claimNext (c.system.store w.store) = .ok (some m, st, tx))
include claimed

/-- A delivery that claims a message sets the savepoint and hands the message over. -/
theorem system_handedOver : (w.handedOver times c).system =
    (c.system.beginTx w.store).2.put (c.system.next w.store) st tx.setSavepoint :=
  (run_claim_some times (w := w) (System.open?_next orderly w.store) hi rfl
    (w.system_begun times orderly) claimed).2

theorem run_processNext_handedOver :
    run times w.processNext c =
      run times (w.dispatch (c.system.next w.store).handle m) (w.handedOver times c) :=
  (run_processNext_begun times w c).trans (run_claim_some times (System.open?_next orderly w.store)
    hi rfl (w.system_begun times orderly) claimed).1

/-- **A delivery that claims a message** goes on as the handlers report. -/
theorem run_processNext_claimed {result : Except HandlerError Nat}
    (handled : (w.handled times m c).1 = some result) :
    run times w.processNext c =
      run times (w.settle (c.system.next w.store).handle m result) (w.handled times m c).2 :=
  (run_processNext_handedOver times orderly hi claimed).trans (w.run_dispatch times handled)

/-- **A delivery whose handlers break off** ends with them. -/
theorem run_processNext_broken (broken : (w.handled times m c).1 = none) :
    run times w.processNext c = (none, (w.handled times m c).2) :=
  (run_processNext_handedOver times orderly hi claimed).trans (w.run_dispatch_none times broken)

end Alone

/-! ## What a delivery that claimed a message comes to -/

/-- **The results that a report of the handlers leads to**: the message is settled as they say, or
the delivery is given up. -/
inductive SettledAs (m : QueuedMessage) (reported : Except HandlerError Nat) : Result → Prop where
  | processed (handlers : Nat) (ok : reported = .ok handlers) :
      SettledAs m reported (.ok (some (.processed m.id handlers)))
  | counted (e : HandlerError) (outcome : RetryOutcome) (failed : reported = .error e) :
      SettledAs m reported (.ok (some (.ofRetry m.id outcome)))
  | givenUp (e : WorkerError) : SettledAs m reported (.error e)

section Results

variable {times w} {tx : TxHandle} {result : Result}

theorem result_commitSuccess {outcome : MessageOutcome}
    (ran : (run times (w.commitSuccess tx outcome) c).1 = some result) :
    result = .ok (some outcome) ∨ ∃ e, result = .error e := by
  rw [commitSuccess, run_commit] at ran
  split at ran
  · cases ran
    exact Or.inr ⟨_, rfl⟩
  · cases ran
    exact Or.inl rfl

theorem result_commitFailure {outcome : MessageOutcome}
    (ran : (run times (w.commitFailure tx outcome) c).1 = some result) :
    result = .ok (some outcome) ∨ ∃ e, result = .error e := by
  rw [commitFailure, run_commit] at ran
  split at ran
  · cases ran
    exact Or.inr ⟨_, rfl⟩
  · cases ran
    exact Or.inl rfl

/-- What follows a request leads to a result after some answer. -/
theorem exists_reply_of_request {r : TxRequest}
    {f : Except StoreError r.Answer → OutboxProgram ω Result}
    (ran : (run times (OutboxProgram.request w.store tx r >>= f) c).1 = some result) :
    ∃ reply c₁, (run times (f reply) c₁).1 = some result := by
  cases answered : (answer times (.inside tx (.request w.store r)) c).1 with
  | none =>
      rw [run_request_none answered] at ran
      cases ran
  | some reply =>
      rw [run_request answered] at ran
      exact ⟨reply, _, ran⟩

theorem settledAs_succeed {m : QueuedMessage} {handlers : Nat}
    (ran : (run times (w.succeed tx m handlers) c).1 = some result) :
    SettledAs m (.ok handlers) result := by
  obtain ⟨_ | _, c₁, ran⟩ := exists_reply_of_request ran
  · cases ran
    exact .givenUp _
  obtain ⟨_ | _, c₂, ran⟩ := exists_reply_of_request ran
  · cases ran
    exact .givenUp _
  obtain rfl | ⟨e, rfl⟩ := result_commitSuccess ran
  · exact .processed handlers rfl
  · exact .givenUp e

theorem settledAs_fail {m : QueuedMessage} {e : HandlerError}
    (ran : (run times (w.fail tx m e) c).1 = some result) : SettledAs m (.error e) result := by
  rw [fail, run_enter] at ran
  obtain ⟨_ | _, c₁, ran⟩ := exists_reply_of_request ran
  · cases ran
    exact .givenUp _
  obtain ⟨_ | outcome, c₂, ran⟩ := exists_reply_of_request ran
  · cases ran
    exact .givenUp _
  obtain rfl | ⟨e', rfl⟩ := result_commitFailure ran
  · exact .counted e outcome rfl
  · exact .givenUp e'

/-- **A message that was claimed is settled as its handlers report.** -/
theorem settledAs {m : QueuedMessage} {reported : Except HandlerError Nat}
    (ran : (run times (w.settle tx m reported) c).1 = some result) :
    SettledAs m reported result := by
  cases reported with
  | ok handlers => exact settledAs_succeed ran
  | error e =>
      rw [settle] at ran
      split at ran
      · cases ran
        exact .givenUp _
      · exact settledAs_fail ran

end Results

end Worker

end MaintenanceOutbox
