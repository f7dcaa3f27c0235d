import MaintenanceOutbox.Proofs.Delivery.Invocations
import MaintenanceOutbox.Proofs.Store.Attempt
import MaintenanceOutbox.Proofs.Store.Fidelity

set_option autoImplicit false

/-! # What one delivery does to the store

A delivery with nobody else at work has one of four effects on the tables (`Worker.Effect`). Nothing
is claimable, and nothing changes. The handlers succeed, and what they wrote is committed together
with the mark on the message. Or they fail, nothing that they wrote is left, and the failure is
counted on the message, which stays in its row or becomes a dead letter. No call of the worker is
refused on the way, whatever the handlers did with the transaction, as long as they leave the
savepoint alone: the lock of the claim is kept, and the savepoint is where nothing was written yet
(`Worker.InHand`). Nor does the worker's own count break off, as the message had an attempt left.

If a handler breaks off, the delivery is over, and nothing of it is left.
-/

namespace MaintenanceOutbox

open Clocked

variable {κ ω : Type} [EventFamily κ]

/-! ## Handlers at work on a message -/

/-- An operation that has nothing to do with the savepoint. -/
def TxOp.LeavesSavepoint : TxOp ω → Prop
  | .request _ r => r.LeavesSavepoint
  | _ => True

/-- An operation that counts no failure on a message. -/
def TxOp.Spares (id : MessageId) : TxOp ω → Prop
  | .request _ (.incrementRetry other _) => other ≠ id
  | _ => True

/-- The writes of an open transaction. -/
def System.changesOf (s : System) (h : TxHandle) : Changes :=
  ((s.open? h).map (·.tx.changes)).getD {}

theorem System.changesOf_put {s : System} {t : OpenTx} (opened : s.open? t.handle = some t)
    (st : Store) (tx : Tx) : (s.put t st tx).changesOf t.handle = tx.changes := by
  rw [changesOf, open?_put_self opened]
  rfl

theorem System.sight_put {s : System} {t : OpenTx} (opened : s.open? t.handle = some t)
    (hi : t.home.index < s.stores.length) (st : Store) (tx : Tx) :
    (s.put t st tx).sight t.handle = tx.sight st := by
  rw [sight, open?_put_self opened]
  exact congrArg tx.sight (store_put_self hi)

/-- At most a mark is new, of the time of one of the calls from number `first` on, up to number
`last`. -/
def QueuedMessage.MarkedBetween (times : Nat → Timestamp) (first last : Nat)
    (m m' : QueuedMessage) : Prop :=
  m' = m ∨ ∃ k, first ≤ k ∧ k < last ∧ m' = m.markProcessed (times k)

namespace QueuedMessage.MarkedBetween

variable {times : Nat → Timestamp} {first last : Nat} {m m' : QueuedMessage}

theorem later (marked : m.MarkedBetween times first last m') :
    m.MarkedBetween times first (last + 1) m' := by
  rcases marked with same | ⟨k, after, before, same⟩
  · exact Or.inl same
  · exact Or.inr ⟨k, after, Nat.lt_succ_of_lt before, same⟩

/-- What is pending was not marked. -/
theorem eq_of_isPending (marked : m.MarkedBetween times first last m')
    (pending : m'.isPending = true) : m' = m := by
  rcases marked with same | ⟨k, -, -, rfl⟩
  · exact same
  · cases pending

end QueuedMessage.MarkedBetween

namespace Worker

/-- **What the transaction of a delivery keeps** while the handlers work on it: the tables are as
they were but for its locks, the message's among them, and the savepoint is still at the
beginning. -/
structure InHand (st₀ : Store) (row : Row) (st : Store) (tx : Tx) : Prop where
  only : tx.OnlyLocks st₀ st
  coherent : tx.changes.Coherent st₀
  savepoint : tx.savepoint = some {}
  held : row.id ∈ tx.locks

variable {st₀ st st' : Store} {row : Row} {tx tx' : Tx} {now : Timestamp} {r : TxRequest}
  {reply? : Option r.Answer}

namespace InHand

theorem rows_eq (hand : InHand st₀ row st tx) : st.rows = st₀.rows := by
  rw [hand.only.tables]

theorem tidy (hand : InHand st₀ row st tx) (tidy : st₀.Tidy) : st.Tidy := by
  rw [hand.only.tables]
  exact ⟨tidy.rows, tidy.deadLetters, tidy.seq_lt⟩

/-- A claimed row, after the savepoint was set. -/
theorem start (tidy : st₀.Tidy) (next : st₀.next? = some row) :
    InHand st₀ row (st₀.lock row.id) ({ locks := [row.id] } : Tx).setSavepoint := by
  have only := (Tx.OnlyLocks.start st₀).moves (Tx.claimNext_moves (Tx.claimNext_new_some tidy next))
  exact ⟨⟨only.tables, only.free⟩, Changes.Coherent.empty st₀, rfl, List.mem_singleton.mpr rfl⟩

/-- **Requests of handlers.** -/
theorem request (hand : InHand st₀ row st tx) (leaves : r.LeavesSavepoint)
    (done : tx.request st now r = .ok (reply?, st', tx')) : InHand st₀ row st' tx' := by
  have moves := Tx.request_moves done
  have only := hand.only.moves moves
  have kept : ∀ c, tx.Keeps c → c.Coherent st := by
    rintro c (rfl | saved)
    · exact hand.coherent.of_rows hand.rows_eq.symm
    · rw [hand.savepoint, Option.some.injEq] at saved
      exact saved ▸ Changes.Coherent.empty st
  have rows : st'.rows = st₀.rows := by rw [only.tables]
  exact ⟨only, (moves.coherent kept _ tx'.keeps_changes).of_rows rows,
    (moves.savepoint_eq leaves).trans hand.savepoint, moves.locks_subset hand.held⟩

end InHand

/-! ## The effect -/

variable (times : Nat → Timestamp) (w : Worker κ ω) (c : Clocked ω)

/-- What the handlers ask for in a delivery of `m`. -/
def requested (m : QueuedMessage) : List (TxOp ω) :=
  asked times (c.system.next w.store).handle (w.deliver m).run (w.handedOver times c)

/-- What the handlers wrote in a delivery of `m`, all in all. -/
def written (m : QueuedMessage) : Changes :=
  (w.handled times m c).2.system.changesOf (c.system.next w.store).handle

/-! ## What the handlers report -/

/-- Handlers that succeed are those of the message's tag. -/
theorem handlerCounts_of_handled {m : QueuedMessage} {handlers : Nat}
    (ok : (w.handled times m c).1 = some (.ok handlers)) :
    handlers = (w.registry.handlerCounts m.eventType).2 := by
  obtain ⟨-, -, -, count⟩ := (w.dispatches times m c).all_called ok
  rw [count, Registry.deferredOf, Registry.handlerCounts]
  cases w.registry.route? m.eventType <;> rfl

/-- What cannot be decoded reaches no handler. -/
theorem handled_undecodable {m : QueuedMessage} {e : DecodeError}
    (bad : w.registry.decode (times (c.calls + 5)) m.eventType m.payload = .error e) :
    (w.handled times m c).1 = some (.error (.failed e.message)) ∧
      w.requested times c m = [.now] := by
  refine ⟨((w.dispatches times m c).undecodable e bad).2, ?_⟩
  rw [requested, asked_deliver, calls_handedOver, deliverAt, bad]
  rfl

/-! ## How a delivery ends -/

variable {w c}

/-- Where nothing is claimable, nothing changes. -/
theorem processNext_idle (orderly : c.system.Orderly) (hi : w.store.index < c.system.stores.length)
    (tidy : (c.system.store w.store).Tidy) (next : (c.system.store w.store).next? = none) :
    (run times w.processNext c).1 = some (.ok none) ∧
      (run times w.processNext c).2.system =
        c.system.later w.store (c.system.store w.store) := by
  obtain ⟨answer, system, -⟩ := run_processNext_unclaimed times orderly hi
    (Tx.claimNext_new_none tidy next)
  exact ⟨answer, system⟩

variable {times} in
/-- **A delivery that claimed a message** comes to what its handlers report, or breaks off with
them. -/
theorem result_of_claimed {st : Store} {tx : Tx} {m : QueuedMessage} {result : Result}
    (orderly : c.system.Orderly) (hi : w.store.index < c.system.stores.length)
    (claimed : ({} : Tx).claimNext (c.system.store w.store) = .ok (some m, st, tx))
    (ran : (run times w.processNext c).1 = some result) :
    ∃ reported, (w.handled times m c).1 = some reported ∧ SettledAs m reported result := by
  cases reports : (w.handled times m c).1 with
  | none =>
      rw [run_processNext_broken times orderly hi claimed reports] at ran
      cases ran
  | some reported =>
      rw [run_processNext_claimed times orderly hi claimed reports] at ran
      exact ⟨reported, rfl, settledAs ran⟩

variable {times} in
/-- **A delivery finds nothing** exactly where nothing is claimable. -/
theorem processNext_eq_none_iff (orderly : c.system.Orderly)
    (hi : w.store.index < c.system.stores.length) (tidy : (c.system.store w.store).Tidy) :
    (run times w.processNext c).1 = some (.ok none) ↔ (c.system.store w.store).next? = none := by
  refine ⟨fun idle => ?_, fun next => (processNext_idle times orderly hi tidy next).1⟩
  cases next : (c.system.store w.store).next? with
  | none => rfl
  | some row =>
      obtain ⟨_, -, settled⟩ := result_of_claimed orderly hi (Tx.claimNext_new_some tidy next) idle
      cases settled

section Claimed

variable (orderly : c.system.Orderly) (hi : w.store.index < c.system.stores.length)
  (tidy : (c.system.store w.store).Tidy) (next : (c.system.store w.store).next? = some row)
include orderly hi tidy next

theorem system_handedOver_of_next : (w.handedOver times c).system =
    (c.system.beginTx w.store).2.put (c.system.next w.store)
      ((c.system.store w.store).lock row.id) ({ locks := [row.id] } : Tx).setSavepoint :=
  system_handedOver times orderly hi (Tx.claimNext_new_some tidy next)

/-- After the handlers. -/
theorem inHand_of_handled {result : Except HandlerError Nat}
    (leaves : ∀ op ∈ w.requested times c row.message, op.LeavesSavepoint)
    (reports : (w.handled times row.message c).1 = some result) :
    ∃ st tx, (w.handled times row.message c).2.system =
        (c.system.beginTx w.store).2.put (c.system.next w.store) st tx ∧
      w.written times c row.message = tx.changes ∧
      InHand (c.system.store w.store) row st tx := by
  have opened := System.open?_next orderly w.store
  obtain ⟨st, tx, system, hand⟩ := inside_keeps_of_some times opened hi
    (system_handedOver_of_next times orderly hi tidy next) TxOp.LeavesSavepoint
    (fun _ => InHand (c.system.store w.store) row) (fun hand => hand)
    (fun leaves hand done => hand.request leaves done) leaves (InHand.start tidy next) reports
  refine ⟨st, tx, system, ?_, hand⟩
  rw [written, handled, system, System.changesOf_put opened]

/-- **Handlers that break off.** -/
theorem processNext_broken (broken : (w.handled times row.message c).1 = none) :
    (run times w.processNext c).1 = none ∧
      (run times w.processNext c).2.system =
        c.system.later w.store (c.system.store w.store) := by
  rw [run_processNext_broken times orderly hi (Tx.claimNext_new_some tidy next) broken]
  refine ⟨rfl, ?_⟩
  -- whatever they did, it did no more to the tables than to lock rows
  rcases inside_keeps times (System.open?_next orderly w.store) hi
      (system_handedOver_of_next times orderly hi tidy next) (fun _ => True)
      (fun _ st tx => tx.OnlyLocks (c.system.store w.store) st)
      (fun st tx => tx.OnlyLocks (c.system.store w.store) st) (fun only => only)
      (fun _ only done => only.moves (Tx.request_moves done))
      (fun _ only done => only.moves (Tx.request_moves done)) (p := (w.deliver row.message).run)
      (fun _ _ => trivial) (InHand.start tidy next).only with
    ⟨result, _, _, reports, -⟩ | ⟨st, tx, -, closed, only⟩
  · cases broken.symm.trans reports
  · rw [only.release] at closed
    exact closed.trans (System.close_beginTx orderly w.store _)

/-- **What the handlers wrote is what their transaction sees**, if no message that they added has
the name of one that they buried. -/
theorem messages_of_handled {result : Except HandlerError Nat}
    (leaves : ∀ op ∈ w.requested times c row.message, op.LeavesSavepoint)
    (reports : (w.handled times row.message c).1 = some result)
    (apart : (w.written times c row.message).NamesApart) :
    ((w.written times c row.message).apply (c.system.store w.store)).messages =
      (w.handled times row.message c).2.system.sight (c.system.next w.store).handle := by
  obtain ⟨st, tx, system, written, hand⟩ :=
    inHand_of_handled times orderly hi tidy next leaves reports
  rw [written] at apart
  rw [written, ← hand.only.commit, system,
    System.sight_put (System.open?_next orderly w.store) hi]
  exact (Tx.messages_commit_eq_sight_iff (hand.tidy tidy)
    (hand.coherent.of_rows hand.rows_eq.symm)).mpr apart

/-- **Handlers that succeed.** -/
theorem processNext_delivered {handlers : Nat}
    (leaves : ∀ op ∈ w.requested times c row.message, op.LeavesSavepoint)
    (ok : (w.handled times row.message c).1 = some (.ok handlers)) :
    (run times w.processNext c).1 = some (.ok (some (.processed row.id handlers))) ∧
      (run times w.processNext c).2.system = c.system.later w.store
        (((w.written times c row.message).apply (c.system.store w.store)).mark row.id
          (times ((w.handled times row.message c).2.calls + 1))) := by
  obtain ⟨st, tx, system, written, hand⟩ :=
    inHand_of_handled times orderly hi tidy next leaves ok
  have hrow := (Store.of_next? next).1
  -- the mark comes after the release of the savepoint
  let released : Tx := { tx with savepoint := none }
  have coherent : released.changes.Coherent (c.system.store w.store) := hand.coherent
  have only : released.OnlyLocks (c.system.store w.store) st :=
    ⟨hand.only.tables, hand.only.free⟩
  obtain ⟨tx', marked, applied⟩ := Tx.markProcessed_of_locked tidy coherent hrow hand.rows_eq
    hand.held (times ((w.handled times row.message c).2.calls + 1))
  have only' := only.moves (Tx.markProcessed_moves marked)
  obtain ⟨answer, system', -⟩ := run_succeed times (w := w) (m := row.message)
    (System.open?_next orderly w.store) hi rfl system hand.savepoint marked handlers
  rw [run_processNext_claimed times orderly hi (Tx.claimNext_new_some tidy next) ok, written]
  rw [only'.commit, applied] at system'
  exact ⟨answer, system'.trans (System.close_beginTx orderly w.store _)⟩

/-- **Handlers that fail**, connectivity apart. -/
theorem processNext_failed {e : HandlerError}
    (leaves : ∀ op ∈ w.requested times c row.message, op.LeavesSavepoint)
    (failed : (w.handled times row.message c).1 = some (.error e))
    (counted : e.isConnectivity = false) :
    (run times w.processNext c).1 =
        some (.ok (some (.ofRetry row.id (row.message.afterFailure e.message).retryOutcome))) ∧
      (run times w.processNext c).2.system = c.system.later w.store
        ((c.system.store w.store).afterFailure (row.message.afterFailure e.message)
          (times ((w.handled times row.message c).2.calls + 2))) := by
  obtain ⟨st, tx, system, -, hand⟩ :=
    inHand_of_handled times orderly hi tidy next leaves failed
  obtain ⟨hrow, claimable, -⟩ := Store.of_next? next
  -- the count comes after the return to the savepoint
  let undone : Tx := { tx with changes := {} }
  have held : row.id ∈ undone.locks := hand.held
  have only : undone.OnlyLocks (c.system.store w.store) st := ⟨hand.only.tables, hand.only.free⟩
  obtain ⟨tx', counted', applied⟩ := Tx.incrementRetry_of_locked tidy hrow hand.rows_eq held rfl
    (QueuedMessage.isPending_of_isClaimable claimable)
    (QueuedMessage.isClaimable_iff.mp claimable).2.countIsFull
    (times ((w.handled times row.message c).2.calls + 2)) e.message
  have only' := only.moves (Tx.incrementRetry_moves counted')
  obtain ⟨answer, system', -⟩ := run_fail times (w := w) (m := row.message)
    (System.open?_next orderly w.store) hi rfl system hand.savepoint e counted'
  rw [run_processNext_claimed times orderly hi (Tx.claimNext_new_some tidy next) failed, settle,
    counted]
  rw [only'.commit, applied] at system'
  exact ⟨answer, system'.trans (System.close_beginTx orderly w.store _)⟩

/-- After handlers that counted no failure on the message. -/
theorem marked_of_handled {result : Except HandlerError Nat}
    (reports : (w.handled times row.message c).1 = some result)
    (spares : ∀ op ∈ w.requested times c row.message, op.LeavesSavepoint ∧ op.Spares row.id) :
    ∃ m, ((w.written times c row.message).apply (c.system.store w.store)).row? row.id =
        some ⟨row.seq, m⟩ ∧
      row.message.MarkedBetween times c.calls (w.handled times row.message c).2.calls m := by
  have opened := System.open?_next orderly w.store
  have found := Store.row?_of_mem tidy.rows (Store.of_next? next).1
  -- what the transaction sees of the message
  let keeps : Nat → Store → Tx → Prop := fun n st tx =>
    InHand (c.system.store w.store) row st tx ∧ c.calls ≤ n ∧
      ∃ m, tx.committedView (c.system.store w.store) row.id = some m ∧
        row.message.MarkedBetween times c.calls n m
  have each : ∀ {n : Nat} {i : StoreId} {r : TxRequest} {st st' : Store} {tx tx' : Tx}
      {reply : r.Answer}, (TxOp.request i r : TxOp ω).LeavesSavepoint ∧
        (TxOp.request i r : TxOp ω).Spares row.id → keeps n st tx →
        tx.request st (times n) r = .ok (some reply, st', tx') → keeps (n + 1) st' tx' := by
    rintro n i r st st' tx tx' reply ⟨leaves, spares⟩ ⟨hand, after, m, seen, between⟩ done
    have hand' := hand.request leaves done
    refine ⟨hand', Nat.le_succ_of_le after, ?_⟩
    have uncounted : ∀ error, r ≠ .incrementRetry row.id error := by
      rintro error rfl
      exact spares rfl
    have stays : r ≠ .rollbackToSavepoint := by
      rintro rfl
      exact leaves
    have view := Tx.committedView_request done uncounted stays
    rw [Tx.committedView_of_rows tx hand.rows_eq, Tx.committedView_of_rows tx' hand'.rows_eq,
      seen] at view
    rcases view with same | ⟨m', same, pending, marked⟩
    · exact ⟨m, same, between.later⟩
    · cases same
      rw [between.eq_of_isPending pending] at marked
      exact ⟨_, marked, Or.inr ⟨n, after, Nat.lt_succ_self n, rfl⟩⟩
  have started : keeps (c.calls + 5) ((c.system.store w.store).lock row.id)
      ({ locks := [row.id] } : Tx).setSavepoint := by
    refine ⟨InHand.start tidy next, Nat.le_add_right _ _, row.message, ?_, Or.inl rfl⟩
    exact congrArg (Option.map (·.message)) found
  obtain ⟨st, tx, system, hand, -, m, seen, between⟩ :=
    inside_keeps_of_some times opened hi (system_handedOver_of_next times orderly hi tidy next) _
      keeps (fun ⟨hand, after, m, seen, between⟩ =>
        ⟨hand, Nat.le_succ_of_le after, m, seen, between.later⟩) each spares
      ((calls_handedOver times w c).symm ▸ started) reports
  refine ⟨m, ?_, between⟩
  rw [written, handled, system, System.changesOf_put opened,
    Tx.row?_apply tidy hand.coherent found, seen]
  rfl

end Claimed

/-- **The effect of one delivery** that begins on the host `c`. The row that is claimed is the first
one that is claimable and not locked, if there is any. -/
structure Effect (w : Worker κ ω) (c : Clocked ω) : Prop where
  /-- there is no message exactly if all claimable rows are locked -/
  none_iff : (run times w.processNext c).1 = some (.ok none) ↔
    ∀ r ∈ (c.system.store w.store).rows, r.message.isClaimable = true →
      (c.system.store w.store).isLocked r.id = true
  /-- and then nothing changes -/
  unchanged : (run times w.processNext c).1 = some (.ok none) →
    (run times w.processNext c).2.system = c.system.later w.store (c.system.store w.store)
  /-- otherwise the handlers of its tag are called in turn, if the message can be decoded -/
  dispatches : ∀ m, w.Dispatches times m c
  /-- and when they report, a message is settled -/
  settles : ∀ row result, (c.system.store w.store).next? = some row →
    (∀ op ∈ w.requested times c row.message, op.LeavesSavepoint) →
    (w.handled times row.message c).1 = some result →
    (∀ reason, result ≠ .error (.connectivity reason)) →
      ∃ outcome, (run times w.processNext c).1 = some (.ok (some outcome))
  /-- handlers that break off leave nothing behind -/
  broken : ∀ row, (c.system.store w.store).next? = some row →
    (w.handled times row.message c).1 = none →
      (run times w.processNext c).1 = none ∧
      (run times w.processNext c).2.system = c.system.later w.store (c.system.store w.store)
  /-- what cannot be decoded fails without a call of a handler -/
  undecodable : ∀ m e, w.registry.decode (times (c.calls + 5)) m.eventType m.payload = .error e →
    (w.handled times m c).1 = some (.error (.failed e.message)) ∧ w.requested times c m = [.now]
  /-- handlers that succeed: what they wrote, and the mark -/
  delivered : ∀ row handlers, (c.system.store w.store).next? = some row →
    (∀ op ∈ w.requested times c row.message, op.LeavesSavepoint) →
    (w.handled times row.message c).1 = some (.ok handlers) →
      (run times w.processNext c).1 = some (.ok (some (.processed row.id handlers))) ∧
      handlers = (w.registry.handlerCounts row.message.eventType).2 ∧
      (run times w.processNext c).2.system = c.system.later w.store
        (((w.written times c row.message).apply (c.system.store w.store)).mark row.id
          (times ((w.handled times row.message c).2.calls + 1)))
  /-- so that the messages are those which the transaction of the handlers saw, but for the mark, if
  no message that the handlers added has the name of one that they buried -/
  seen : ∀ row handlers, (c.system.store w.store).next? = some row →
    (∀ op ∈ w.requested times c row.message, op.LeavesSavepoint) →
    (w.handled times row.message c).1 = some (.ok handlers) →
    (w.written times c row.message).NamesApart →
      ((run times w.processNext c).2.system.store w.store).messages =
        ((w.handled times row.message c).2.system.sight (c.system.next w.store).handle).map
          fun m => if m.id = row.id ∧ m.isPending = true then
            m.markProcessed (times ((w.handled times row.message c).2.calls + 1)) else m
  /-- and if they count no failure on it, the message is in its row as it was, but for the mark -/
  marked : ∀ row handlers, (c.system.store w.store).next? = some row →
    (∀ op ∈ w.requested times c row.message, op.LeavesSavepoint ∧ op.Spares row.id) →
    (w.handled times row.message c).1 = some (.ok handlers) →
      ∃ k, c.calls ≤ k ∧ k ≤ (w.handled times row.message c).2.calls + 1 ∧
        ((run times w.processNext c).2.system.store w.store).row? row.id =
          some ⟨row.seq, row.message.markProcessed (times k)⟩
  /-- handlers that fail: one more failure of the message, and nothing else -/
  retried : ∀ row e, (c.system.store w.store).next? = some row →
    (∀ op ∈ w.requested times c row.message, op.LeavesSavepoint) →
    (w.handled times row.message c).1 = some (.error e) → e.isConnectivity = false →
    row.message.retryCount.toNat + 1 < row.message.maxRetries.toNat →
      (run times w.processNext c).1 =
        some (.ok (some (.retried row.id (row.message.retryCount + 1)))) ∧
      (row.message.retryCount + 1).toNat = row.message.retryCount.toNat + 1 ∧
      (run times w.processNext c).2.system = c.system.later w.store
        ((c.system.store w.store).updateRow (row.message.afterFailure e.message))
  /-- or the last one -/
  deadLettered : ∀ row e, (c.system.store w.store).next? = some row →
    (∀ op ∈ w.requested times c row.message, op.LeavesSavepoint) →
    (w.handled times row.message c).1 = some (.error e) → e.isConnectivity = false →
    row.message.maxRetries.toNat ≤ row.message.retryCount.toNat + 1 →
      (run times w.processNext c).1 =
        some (.ok (some (.deadLettered row.id (row.message.retryCount + 1)))) ∧
      (row.message.retryCount + 1).toNat = row.message.retryCount.toNat + 1 ∧
      (run times w.processNext c).2.system = c.system.later w.store
        { c.system.store w.store with
          rows := (c.system.store w.store).rows.filter (·.id ≠ row.id)
          deadLetters := (c.system.store w.store).deadLetters ++
            [⟨row.message.afterFailure e.message,
              times ((w.handled times row.message c).2.calls + 2)⟩] }

variable {times}

/-- The mark of a delivery, unless the handlers marked the message before. -/
theorem marked_of_delivered (orderly : c.system.Orderly)
    (hi : w.store.index < c.system.stores.length) (tidy : (c.system.store w.store).Tidy)
    (next : (c.system.store w.store).next? = some row) {handlers : Nat}
    (spares : ∀ op ∈ w.requested times c row.message, op.LeavesSavepoint ∧ op.Spares row.id)
    (ok : (w.handled times row.message c).1 = some (.ok handlers)) :
    ∃ k, c.calls ≤ k ∧ k ≤ (w.handled times row.message c).2.calls + 1 ∧
      ((run times w.processNext c).2.system.store w.store).row? row.id =
        some ⟨row.seq, row.message.markProcessed (times k)⟩ := by
  have pending := QueuedMessage.isPending_of_isClaimable (Store.of_next? next).2.1
  obtain ⟨m, found, between⟩ := marked_of_handled times orderly hi tidy next ok spares
  have system := (processNext_delivered times orderly hi tidy next
    (fun op asked => (spares op asked).1) ok).2
  have first : c.calls ≤ (w.handled times row.message c).2.calls :=
    Nat.le_trans ((calls_handedOver times w c).symm ▸ Nat.le_add_right _ 5)
      (le_calls_inside times _ _ (w.handedOver times c))
  rw [system, System.store_later hi, Store.row?_mark, found]
  rcases between with rfl | ⟨k, after, before, rfl⟩
  · refine ⟨_, Nat.le_succ_of_le first, Nat.le_refl _, ?_⟩
    exact congrArg some (if_pos ⟨rfl, pending⟩)
  · refine ⟨k, after, Nat.le_succ_of_le (Nat.le_of_lt before), ?_⟩
    exact congrArg some (if_neg fun again => nomatch again.2)

/-- **What a failed attempt does** to the message that was next: it is written into its row, or
moves behind the other dead letters. -/
theorem afterFailure_cases {st : Store} (next : st.next? = some row)
    (apart : st.row? row.id = none ∨ st.deadLetter? row.id = none) (tidy : st.Tidy)
    (error : String) (now : Timestamp) :
    (row.message.retryCount.toNat + 1 < row.message.maxRetries.toNat →
      (row.message.afterFailure error).retryOutcome = .retrying (row.message.retryCount + 1) ∧
        st.afterFailure (row.message.afterFailure error) now =
          st.updateRow (row.message.afterFailure error)) ∧
      (row.message.maxRetries.toNat ≤ row.message.retryCount.toNat + 1 →
        (row.message.afterFailure error).retryOutcome =
            .deadLettered (row.message.retryCount + 1) ∧
          st.afterFailure (row.message.afterFailure error) now =
            { st with
              rows := st.rows.filter (·.id ≠ row.id)
              deadLetters := st.deadLetters ++ [⟨row.message.afterFailure error, now⟩] }) := by
  obtain ⟨hrow, claimable, -⟩ := Store.of_next? next
  have count := toNat_add_one_of_lt (QueuedMessage.isClaimable_iff.mp claimable).2
  have budget : isExhausted (row.message.afterFailure error).retryCount
      (row.message.afterFailure error).maxRetries =
        decide (row.message.maxRetries.toNat ≤ row.message.retryCount.toNat + 1) := by
    rw [← count]
    exact decide_eq_decide.mpr UInt32.le_iff_toNat_le
  rw [QueuedMessage.retryOutcome, Store.afterFailure, budget]
  constructor
  · intro left
    have more : ¬ row.message.maxRetries.toNat ≤ row.message.retryCount.toNat + 1 := by omega
    rw [decide_eq_false more]
    exact ⟨rfl, rfl⟩
  · intro spent
    rw [decide_eq_true spent]
    -- the message was no dead letter before
    have missing : st.deadLetter? row.id = none := by
      rcases apart with none' | none'
      · rw [Store.row?_of_mem tidy.rows hrow] at none'
        cases none'
      · exact none'
    let d : DeadLetter := ⟨row.message.afterFailure error, now⟩
    have kept : st.deadLetters.filter (·.id ≠ d.id) = st.deadLetters :=
      List.filter_eq_self.mpr fun other hd => decide_eq_true fun (same : other.id = row.id) =>
        Store.deadLetter?_eq_none_iff.mp missing (same ▸ List.mem_map_of_mem hd)
    refine ⟨rfl, ?_⟩
    show st.bury d = _
    rw [Store.bury, kept]
    rfl

/-- **The effect of a delivery** on a store that was reached by any calls, if no message is both in
the queue and a dead letter. -/
theorem processNext_effect {n : Nat} (hi : w.store.index < n) {calls : List Call}
    (reached : c.system = (System.ofSize n).run calls)
    (apart : ∀ id, (c.system.store w.store).row? id = none ∨
      (c.system.store w.store).deadLetter? id = none) : w.Effect times c := by
  have orderly : c.system.Orderly := by
    rw [reached]
    exact System.orderly_run (System.orderly_ofSize n) calls
  have tidy : (c.system.store w.store).Tidy := by
    rw [reached]
    exact System.tidy_run hi calls
  have hi : w.store.index < c.system.stores.length := by
    rw [reached]
    exact System.index_lt_run hi calls
  have nothing : (run times w.processNext c).1 = some (.ok none) ↔
      (c.system.store w.store).next? = none := processNext_eq_none_iff orderly hi tidy
  refine ⟨?_, ?_, w.dispatches times (c := c), ?_, fun row next broken =>
    processNext_broken times orderly hi tidy next broken,
    fun m e => handled_undecodable times w c, ?_, ?_, ?_, ?_, ?_⟩
  · rw [← Store.next?_eq_none_iff]
    exact nothing
  · exact fun idle => (processNext_idle times orderly hi tidy (nothing.mp idle)).2
  · intro row result next leaves reports connected
    cases result with
    | ok handlers => exact ⟨_, (processNext_delivered times orderly hi tidy next leaves reports).1⟩
    | error e =>
        have counted : e.isConnectivity = false := by
          cases e with
          | connectivity reason => exact absurd rfl (connected reason)
          | domain | failed => rfl
        exact ⟨_, (processNext_failed times orderly hi tidy next leaves reports counted).1⟩
  · intro row handlers next leaves result
    obtain ⟨answer, system⟩ := processNext_delivered times orderly hi tidy next leaves result
    exact ⟨answer, handlerCounts_of_handled times w _ result, system⟩
  · intro row handlers next leaves result apart'
    rw [(processNext_delivered times orderly hi tidy next leaves result).2,
      System.store_later hi, Store.messages_mark,
      messages_of_handled times orderly hi tidy next leaves result apart']
  · intro row handlers next spares result
    exact marked_of_delivered orderly hi tidy next spares result
  · intro row e next leaves result counted left
    obtain ⟨answer, system⟩ := processNext_failed times orderly hi tidy next leaves result counted
    obtain ⟨outcome, tables⟩ := (afterFailure_cases next (apart row.id) tidy e.message
      (times ((w.handled times row.message c).2.calls + 2))).1 left
    rw [outcome] at answer
    rw [tables] at system
    exact ⟨answer, toNat_add_one_of_lt
      (QueuedMessage.isClaimable_iff.mp (Store.of_next? next).2.1).2, system⟩
  · intro row e next leaves result counted spent
    obtain ⟨answer, system⟩ := processNext_failed times orderly hi tidy next leaves result counted
    obtain ⟨outcome, tables⟩ := (afterFailure_cases next (apart row.id) tidy e.message
      (times ((w.handled times row.message c).2.calls + 2))).2 spent
    rw [outcome] at answer
    rw [tables] at system
    exact ⟨answer, toNat_add_one_of_lt
      (QueuedMessage.isClaimable_iff.mp (Store.of_next? next).2.1).2, system⟩

end Worker

/-! ## Relays

A message is passed on as a new one, and the next message is claimed as well; then the relay may
report a fault. The store has two messages that are passed on, the first of which meets a fault.
-/

/-- What is passed on. -/
inductive Relay where
  | relay
deriving DecidableEq

instance : EventFamily Relay where
  decEq := inferInstance
  Body _ := Bool
  typeName _ := "Relay"
  tags _ := ["relay"]
  tag _ _ := "relay"
  occurredAt _ now _ := now
  write _ fault := .ok (.bool fault)
  read _
    | .bool fault => .ok fault
    | _ => .error (.wrongLength 1 "no relay")

namespace Relay

/-- A message that is passed on. -/
def message (name : Nat) (fault : Bool) : QueuedMessage :=
  .fresh ⟨.ofNat name⟩ default "relay" (.bool fault)

/-- The handler that passes messages on. -/
def passing : Handler Relay (DeferredM Unit) where
  kind := .relay
  handle fault := do
    let _ ← ExceptT.lift (TxProgram.request ⟨0⟩ (.add (message 3 false)))
    let _ ← ExceptT.lift (TxProgram.request ⟨0⟩ .claimNext)
    if fault then throw (.failed "no contact") else pure ()

/-- The worker with this handler. -/
def operator : Worker Relay Unit where
  name := "operator"
  store := ⟨0⟩
  registry := ⟨[{ tag := "relay", owner := .relay, deferred := [passing] }]⟩
  batchSize := 2
  pollMs := 0

/-- Two messages. -/
def given : List Call :=
  [.beginTx ⟨0⟩, .request default ⟨0⟩ ⟨0⟩ (.add (message 1 true)),
    .request default ⟨0⟩ ⟨0⟩ (.add (message 2 false)), .commit ⟨0⟩ ⟨0⟩]

/-- The host on which the operator begins. -/
def start : Clocked Unit where
  host := { system := (System.ofSize 1).run given, clock := default, names := fun _ => default }

end Relay

/-- The first message is passed on, which is undone for the fault. -/
theorem Worker.processNext_effect_relay :
    Relay.operator.Effect (fun _ => default) Relay.start ∧
      (run (fun _ => default) Relay.operator.processNext Relay.start).1 =
        some (.ok (some (.retried ⟨.ofNat 1⟩ 1))) ∧
      ((run (fun _ => default) Relay.operator.processNext Relay.start).2.system.store ⟨0⟩) =
        (Relay.start.system.store ⟨0⟩).updateRow
          ((Relay.message 1 true).afterFailure "no contact") := by
  have effect : Relay.operator.Effect (fun _ => default) Relay.start :=
    Worker.processNext_effect (w := Relay.operator) Nat.one_pos rfl fun _ => Or.inr rfl
  have leaves : ∀ op ∈ Relay.operator.requested (fun _ => default) Relay.start
      (Relay.message 1 true), op.LeavesSavepoint := by
    have asked : Relay.operator.requested (fun _ => default) Relay.start (Relay.message 1 true) =
        [.now, .request ⟨0⟩ (.add (Relay.message 3 false)), .request ⟨0⟩ .claimNext] := rfl
    rw [asked]
    simp [TxOp.LeavesSavepoint, TxRequest.LeavesSavepoint]
  obtain ⟨answer, -, system⟩ := effect.retried ⟨0, Relay.message 1 true⟩ (.failed "no contact") rfl
    leaves rfl rfl (by decide)
  refine ⟨effect, answer, ?_⟩
  rw [system]
  rfl

end MaintenanceOutbox
