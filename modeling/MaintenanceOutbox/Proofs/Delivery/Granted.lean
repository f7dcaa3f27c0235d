import MaintenanceOutbox.Proofs.Delivery.Effect
import MaintenanceOutbox.Proofs.Delivery.Running
import MaintenanceOutbox.Proofs.Store.Refusals

set_option autoImplicit false

/-! # A delivery is refused nothing

A worker is prepared for a refusal of every call that it makes. While it delivers, none of them is
refused: it claims in a transaction of its own, the savepoint that it releases or returns to is the
one that it set, and the message that it marks or counts a failure on is locked by its transaction
and waits for delivery (`Point.Stands`). Handlers cannot spoil that as long as they leave the
savepoint alone.

So a delivery is one of four (`Worker.Block`): nothing is claimable; or a message is claimed and the
handlers are called, and then they have succeeded and the mark of the message is committed, or one
of them has failed and the failure is counted and committed, or connectivity was lost and the
transaction is rolled back. What was said by the time a worker is at one of its points is the
beginning of one of these (`Point.Told`), and a call leads from point to point (`Point.At.call`).
A count by a handler may break off, on a message whose count is full; no call of the worker itself
does (`Point.At.attempted_of_broken`).
-/

namespace MaintenanceOutbox

variable {κ ω : Type} [EventFamily κ]

/-! ## What is said in a delivery -/

/-- A request that was granted. -/
abbrev Exchange.granted (i : StoreId) (tx : TxHandle) (r : TxRequest) (answer : r.Answer) :
    Exchange (OutboxInterface ω) :=
  ⟨.inside tx (.request i r), (.ok answer : Except StoreError r.Answer)⟩

/-- Was it said inside the transaction? -/
def Exchange.Inside (tx : TxHandle) (e : Exchange (OutboxInterface ω)) : Prop :=
  ∃ op reply, e = ⟨.inside tx op, reply⟩

namespace Worker

/-- What is said before the handlers are called. -/
def preamble (i : StoreId) (tx : TxHandle) (m : QueuedMessage) : Dialogue ω :=
  [.entered .claiming, .began i tx, .claimed i tx (.ok (some m)), .entered .dispatching,
    .granted i tx .savepoint ()]

/-- **What was said up to the end of the handlers**, which said something inside the transaction. -/
def Attempted (i : StoreId) (tx : TxHandle) (m : QueuedMessage) (said : Dialogue ω) : Prop :=
  ∃ calls, (∀ e ∈ calls, Exchange.Inside tx e) ∧ said = preamble i tx m ++ calls

/-- **One delivery**, what is said in it and what it results in. -/
inductive Block (i : StoreId) : Dialogue ω → Result → Prop where
  | idle (tx : TxHandle) :
      Block i [.entered .claiming, .began i tx, .claimed i tx (.ok none), .entered .idle,
        .rolledBack i tx] (.ok none)
  | succeeded {tx : TxHandle} {m : QueuedMessage} {said : Dialogue ω}
      (attempted : Attempted i tx m said) (handlers : Nat) :
      Block i (said ++ [.granted i tx .releaseSavepoint (), .marked i tx m.id, .committed i tx,
        .entered .succeeded]) (.ok (some (.processed m.id handlers)))
  | failed {tx : TxHandle} {m : QueuedMessage} {said : Dialogue ω}
      (attempted : Attempted i tx m said) (reason : String) (outcome : RetryOutcome) :
      Block i (said ++ [.entered .failed, .granted i tx .rollbackToSavepoint (),
        .counted i tx m.id reason outcome, .committed i tx]) (.ok (some (.ofRetry m.id outcome)))
  | givenBack {tx : TxHandle} {m : QueuedMessage} {said : Dialogue ω}
      (attempted : Attempted i tx m said) (reason : String) :
      Block i (said ++ [.entered .failed, .rolledBack i tx]) (.error (.infrastructure reason))

variable {i : StoreId} {tx : TxHandle} {m : QueuedMessage} {said : Dialogue ω}

theorem Attempted.concat (attempted : Attempted i tx m said)
    {e : Exchange (OutboxInterface ω)} (inside : e.Inside tx) : Attempted i tx m (said ++ [e]) := by
  obtain ⟨calls, all, rfl⟩ := attempted
  refine ⟨calls ++ [e], ?_, List.append_assoc _ _ _⟩
  intro e' he'
  rcases List.mem_append.mp he' with old | new
  · exact all e' old
  · exact List.mem_singleton.mp new ▸ inside

theorem Attempted.began (attempted : Attempted i tx m said) : .began i tx ∈ said := by
  obtain ⟨calls, -, rfl⟩ := attempted
  exact List.mem_append_left _ (by simp [preamble])

end Worker

/-! ## The transaction of a delivery -/

/-- The message has a row, and may be claimed there. -/
def Store.Awaits (st : Store) (id : MessageId) : Prop :=
  ∃ row, st.row? id = some row ∧ row.message.isClaimable = true

/-- The transaction has the lock of the message, which waits, and can return to where it had not
written anything. -/
structure Tx.Secures (tx : Tx) (st : Store) (id : MessageId) : Prop where
  savepoint : tx.savepoint = some {}
  held : id ∈ tx.locks
  awaits : st.Awaits id

namespace Tx

variable {tx tx' : Tx} {st st' : Store} {id : MessageId}

/-- **Handlers that leave the savepoint alone** leave the message secured. -/
theorem Secures.request (secures : tx.Secures st id) {now : Timestamp} {r : TxRequest}
    (leaves : r.LeavesSavepoint) {answer? : Option r.Answer}
    (done : tx.request st now r = .ok (answer?, st', tx')) : tx'.Secures st' id := by
  have moves := request_moves done
  obtain ⟨row, found, claimable⟩ := secures.awaits
  exact ⟨(moves.savepoint_eq leaves).trans secures.savepoint, moves.locks_subset secures.held, row,
    (moves.row? id).trans found, claimable⟩

/-- A mark under the lock is granted. -/
theorem exists_markProcessed (held : id ∈ tx.locks) (st : Store) (now : Timestamp) :
    ∃ st' tx', tx.markProcessed st now id = .ok (st', tx') := by
  have got : tx.acquire st id = .ok (st, tx) := acquire_eq_ok_iff.mpr (Or.inl ⟨held, rfl, rfl⟩)
  unfold markProcessed
  repeat' split
  · exact ⟨_, _, rfl⟩
  · exact ⟨_, _, rfl⟩
  · exact ⟨_, _, rfl⟩
  · rw [got]
    exact ⟨_, _, rfl⟩
  · exact ⟨_, _, rfl⟩

/-- A count under the lock is granted, in a transaction that has written nothing. -/
theorem exists_incrementRetry (tidy : st.Tidy) (nothing : tx.changes = {}) (held : id ∈ tx.locks)
    (awaits : st.Awaits id) (now : Timestamp) (error : String) :
    ∃ outcome st' tx', tx.incrementRetry st now id error = .ok (some outcome, st', tx') := by
  obtain ⟨row, found, claimable⟩ := awaits
  obtain ⟨pending, left⟩ := QueuedMessage.isClaimable_iff.mp claimable
  have name : row.id = id := Store.id_of_row? found
  subst name
  obtain ⟨tx', counted, -⟩ := incrementRetry_of_locked tidy (Store.mem_of_row? found) rfl held
    nothing pending left.countIsFull now error
  exact ⟨_, st, tx', counted⟩

end Tx

/-- A request that the transaction grants is answered so, and does what it does there. -/
theorem Host.answer_granted {host : Host ω} {i : StoreId} {h : TxHandle} {tx : Tx}
    (orderly : host.system.Orderly) (hi : i.index < host.system.stores.length)
    (opened : (host.system.view i).tx h = some tx) {r : TxRequest} {reply : r.Answer} {st' : Store}
    {tx' : Tx}
    (done : tx.request (host.system.store i) host.clock r = .ok (some reply, st', tx')) :
    (answer (.inside h (.request i r)) host).1 = some (.ok reply) ∧
      (answer (.inside h (.request i r)) host).2.system.store i = st' ∧
      ((answer (.inside h (.request i r)) host).2.system.view i).tx h = some tx' := by
  rcases answer_request_cases orderly hi opened r with
    ⟨e, refused, -⟩ | ⟨_, _, _, done', ok, view⟩ | ⟨_, broken, -⟩
  · cases done.symm.trans refused
  · cases done.symm.trans done'
    refine ⟨ok, congrArg View.store view, ?_⟩
    rw [view]
    exact Function.update_self _ _ _
  · cases done.symm.trans broken

namespace Point

/-- **Where the transaction of a delivery stands**, so that the calls to come are granted. -/
def Stands (st : Store) (tx : Tx) : Point ω → Prop
  | .claiming _ => tx = {}
  | .taking _ m | .guarding _ m | .counting _ m _ =>
      tx.changes = {} ∧ m.id ∈ tx.locks ∧ st.Awaits m.id
  | .handling _ m op next => tx.Secures st m.id ∧
      (Program.call (I := TxInterface ω) op next).Uses TxOp.LeavesSavepoint
  | .keeping _ m _ | .failing _ m _ | .undoing _ m _ => tx.Secures st m.id
  | .marking _ m _ => m.id ∈ tx.locks
  | .starting | .beginning | .resting _ | .leaving _ | .storing _ _ _ | .succeeded _ _
  | .recording _ _ _ | .yielding _ _ _ | .yielded _ _ _ | .ended _ => True

/-- **What was said in a delivery** by the time the worker is at the point. -/
def Told (i : StoreId) (said : Dialogue ω) : Point ω → Prop
  | .starting => said = []
  | .beginning => said = [.entered .claiming]
  | .claiming tx => said = [.entered .claiming, .began i tx]
  | .resting tx => said = [.entered .claiming, .began i tx, .claimed i tx (.ok none)]
  | .leaving tx =>
      said = [.entered .claiming, .began i tx, .claimed i tx (.ok none), .entered .idle]
  | .taking tx m => said = [.entered .claiming, .began i tx, .claimed i tx (.ok (some m))]
  | .guarding tx m =>
      said = [.entered .claiming, .began i tx, .claimed i tx (.ok (some m)), .entered .dispatching]
  | .handling tx m _ _ | .keeping tx m _ | .failing tx m _ => Worker.Attempted i tx m said
  | .marking tx m _ => ∃ before, Worker.Attempted i tx m before ∧
      said = before ++ [.granted i tx .releaseSavepoint ()]
  | .storing tx m _ => ∃ before, Worker.Attempted i tx m before ∧
      said = before ++ [.granted i tx .releaseSavepoint (), .marked i tx m.id]
  | .succeeded id _ => ∃ tx m before, Worker.Attempted i tx m before ∧ m.id = id ∧
      said = before ++ [.granted i tx .releaseSavepoint (), .marked i tx m.id, .committed i tx]
  | .undoing tx m _ => ∃ before, Worker.Attempted i tx m before ∧
      said = before ++ [.entered .failed]
  | .counting tx m _ => ∃ before, Worker.Attempted i tx m before ∧
      said = before ++ [.entered .failed, .granted i tx .rollbackToSavepoint ()]
  | .recording tx m outcome => ∃ before reason, Worker.Attempted i tx m before ∧
      said = before ++ [.entered .failed, .granted i tx .rollbackToSavepoint (),
        .counted i tx m.id reason outcome]
  | .yielding tx _ e => ∃ m reason, Worker.Attempted i tx m said ∧ e = .infrastructure reason
  | .yielded tx _ e => ∃ m reason before, Worker.Attempted i tx m before ∧
      e = .infrastructure reason ∧ said = before ++ [.entered .failed]
  | .ended result => Worker.Block i said result

/-- **A worker is at the point**: it said what it said by then, and its transaction is open and
stands as it should. -/
structure At (i : StoreId) (s : System) (said : Dialogue ω) (point : Point ω) : Prop where
  told : point.Told i said
  stands : ∀ h, point.tx? = some h →
    ∃ tx, (s.view i).tx h = some tx ∧ point.Stands (s.store i) tx

variable {i : StoreId} {s : System} {said : Dialogue ω} {point : Point ω} {h : TxHandle} {tx : Tx}
  {m : QueuedMessage}

/-- The transaction at hand was begun in this delivery. -/
theorem Told.began (told : point.Told i said) (hand : point.tx? = some h) :
    .began i h ∈ said := by
  cases point with
  | starting | beginning | succeeded | ended => cases hand
  | claiming tx | resting tx | leaving tx | taking tx m | guarding tx m =>
      cases hand
      rw [told]
      simp
  | handling tx m op next | keeping tx m handlers | failing tx m e =>
      cases hand
      exact Worker.Attempted.began told
  | marking tx m handlers | storing tx m handlers | undoing tx m e | counting tx m reason =>
      cases hand
      obtain ⟨before, attempted, rfl⟩ := told
      exact List.mem_append_left _ attempted.began
  | recording tx m outcome =>
      cases hand
      obtain ⟨before, reason, attempted, rfl⟩ := told
      exact List.mem_append_left _ attempted.began
  | yielding tx m? e =>
      cases hand
      obtain ⟨m, reason, attempted, -⟩ := told
      exact attempted.began
  | yielded tx m? e =>
      cases hand
      obtain ⟨m, reason, before, attempted, -, rfl⟩ := told
      exact List.mem_append_left _ attempted.began

/-- What a point says about the transaction stays true while the rows that it has locked stay. -/
theorem Stands.of_rows {st st' : Store} (stands : point.Stands st tx)
    (same : ∀ id ∈ tx.locks, st'.row? id = st.row? id) : point.Stands st' tx := by
  have awaits : ∀ {id}, id ∈ tx.locks → st.Awaits id → st'.Awaits id := by
    rintro id held ⟨row, found, pending⟩
    exact ⟨row, (same id held).trans found, pending⟩
  have secures : ∀ {id}, tx.Secures st id → tx.Secures st' id := fun old =>
    ⟨old.savepoint, old.held, awaits old.held old.awaits⟩
  cases point with
  | taking | guarding | counting => exact ⟨stands.1, stands.2.1, awaits stands.2.1 stands.2.2⟩
  | handling => exact ⟨secures stands.1, stands.2⟩
  | keeping | failing | undoing => exact secures stands
  | claiming | marking => exact stands
  | starting | beginning | resting | leaving | storing | succeeded | recording | yielding | yielded
  | ended => trivial

/-! ## From call to call -/

/-- A call that leaves the store alone. -/
theorem At.of_same {s' : System} {next : Point ω} {said' : Dialogue ω}
    (opened : (s.view i).tx h = some tx) (same : s'.view i = s.view i)
    (told : next.Told i said') (hand : next.tx? = some h) (stands : next.Stands (s.store i) tx) :
    next.At i s' said' := by
  refine ⟨told, ?_⟩
  intro h' hand'
  cases hand.symm.trans hand'
  have store : s'.store i = s.store i := congrArg View.store same
  rw [same, store]
  exact ⟨tx, opened, stands⟩

/-- A call after which the delivery has no transaction. -/
theorem At.of_none {s' : System} {next : Point ω} {said' : Dialogue ω} (told : next.Told i said')
    (hand : next.tx? = none) : next.At i s' said' :=
  ⟨told, fun h here => by rw [hand] at here; cases here⟩

/-- **A request that is granted.** -/
theorem At.of_granted {host : Host ω} (orderly : host.system.Orderly)
    (hi : i.index < host.system.stores.length) (opened : (host.system.view i).tx h = some tx)
    (r : TxRequest) {answer : r.Answer} {st' : Store} {tx' : Tx}
    (done : tx.request (host.system.store i) host.clock r = .ok (some answer, st', tx'))
    {reply : Except StoreError r.Answer}
    (answered : (Host.answer (.inside h (.request i r)) host).1 = some reply)
    {next : Except StoreError r.Answer → Point ω}
    (told : (next (.ok answer)).Told i (said ++ [.granted i h r answer]))
    (hand : (next (.ok answer)).tx? = some h) (stands : (next (.ok answer)).Stands st' tx') :
    (next reply).At i (Host.answer (.inside h (.request i r)) host).2.system
      (said ++ [⟨.inside h (.request i r), reply⟩]) := by
  obtain ⟨ok, store, still⟩ := Host.answer_granted orderly hi opened done
  cases answered.symm.trans ok
  refine ⟨told, ?_⟩
  intro h' hand'
  cases hand.symm.trans hand'
  rw [store]
  exact ⟨tx', still, stands⟩

/-- At the handlers, and after them. -/
theorem told_within (attempted : Worker.Attempted i h m said)
    (p : TxProgram ω (Except HandlerError Nat)) : (within h m p).Told i said := by
  cases p with
  | call op next => exact attempted
  | done result =>
      cases result with
      | ok handlers => exact attempted
      | error e =>
          rw [within, settling]
          split
          · exact ⟨m, e.message, attempted, rfl⟩
          · exact attempted

theorem stands_within {st : Store} (secures : tx.Secures st m.id)
    {p : TxProgram ω (Except HandlerError Nat)} (uses : p.Uses TxOp.LeavesSavepoint) :
    (within h m p).Stands st tx := by
  cases p with
  | call op next => exact ⟨secures, uses⟩
  | done result =>
      cases result with
      | ok handlers => exact secures
      | error e =>
          rw [within, settling]
          split
          · trivial
          · exact secures

/-- **A call of the handlers.** -/
theorem At.call_handling {host : Host ω} (orderly : host.system.Orderly)
    (hi : i.index < host.system.stores.length) (opened : (host.system.view i).tx h = some tx)
    (secures : tx.Secures (host.system.store i) m.id) {op : TxOp ω}
    {next : op.Reply → TxProgram ω (Except HandlerError Nat)}
    (uses : (Program.call (I := TxInterface ω) op next).Uses TxOp.LeavesSavepoint)
    (attempted : Worker.Attempted i h m said) {reply : op.Reply}
    (answered : (Host.answer (.inside h op) host).1 = some reply) :
    (within h m (next reply)).At i (Host.answer (.inside h op) host).2.system
      (said ++ [⟨.inside h op, reply⟩]) := by
  have told := told_within (attempted.concat ⟨op, reply, rfl⟩) (next reply)
  cases op with
  | now | freshId | tell word =>
      exact .of_same opened rfl told (tx?_within h m _) (stands_within secures (uses.2 _))
  | request j r =>
      by_cases elsewhere : j = i
      · subst elsewhere
        rcases Host.answer_request_cases orderly hi opened r with
          ⟨e, -, -, view⟩ | ⟨answer, st', tx', done, -, view⟩ | ⟨_, -, broken⟩
        · exact .of_same opened view told (tx?_within h m _) (stands_within secures (uses.2 _))
        · have still : ((Host.answer (.inside h (.request j r)) host).2.system.view j).tx h =
              some tx' := by
            rw [view]
            exact Function.update_self _ _ _
          refine .of_same still rfl told (tx?_within h m _) (stands_within ?_ (uses.2 _))
          have store : (Host.answer (.inside h (.request j r)) host).2.system.store j = st' :=
            congrArg View.store view
          rw [store]
          exact secures.request uses.1 done
        · cases answered.symm.trans broken
      · -- on another store the transaction is refused
        have view := System.view_request hi host.clock j h r
        rw [Call.seenFrom, if_neg elsewhere, View.step] at view
        have system := Host.system_answer answered
        exact .of_same opened ((congrArg (·.view i) system).trans view) told (tx?_within h m _)
          (stands_within secures (uses.2 _))

/-- **From point to point.** Whatever the worker calls next is granted, and leads to the point that
follows in one of the four deliveries. -/
theorem At.call {w : Worker κ ω} (leaves : w.registry.DeferredUse TxOp.LeavesSavepoint)
    (store : w.store = i) (orderly : s.Orderly) (hi : i.index < s.stores.length)
    (tidy : (s.store i).Tidy) (here : point.At i s said) {node : Node ω}
    (atNode : point.node w = .inr node) (host : Host ω) (system : host.system = s)
    {reply : node.op.Reply} (answered : (Host.answer node.op host).1 = some reply) :
    (node.next reply).At i (Host.answer node.op host).2.system (said ++ [⟨node.op, reply⟩]) := by
  obtain ⟨told, stands⟩ := here
  subst store system
  cases point with
  | starting =>
      cases atNode
      cases told
      exact .of_none rfl rfl
  | beginning =>
      cases atNode
      cases answered
      cases told
      refine ⟨rfl, ?_⟩
      intro h hand
      cases hand
      have after := System.view_beginTx orderly w.store w.store
      rw [Call.seenFrom, if_pos rfl] at after
      refine ⟨{}, ?_, rfl⟩
      show ((host.system.beginTx w.store).2.view w.store).tx _ = _
      rw [after]
      exact Function.update_self _ _ _
  | claiming h =>
      cases atNode
      cases told
      obtain ⟨tx, opened, rfl⟩ := stands h rfl
      obtain ⟨answer, st', tx', done⟩ : ∃ answer st' tx',
          ({} : Tx).claimNext (host.system.store w.store) = .ok (answer, st', tx') := by
        cases claim : ({} : Tx).claimNext (host.system.store w.store) with
        | error e => exact absurd claim Tx.claimNext_ne_error
        | ok p => exact ⟨p.1, p.2.1, p.2.2, rfl⟩
      have granted : ({} : Tx).request (host.system.store w.store) host.clock .claimNext =
          .ok (some answer, st', tx') := by
        rw [Tx.request, done]
        rfl
      cases answer with
      | none => exact .of_granted orderly hi opened .claimNext granted answered rfl rfl trivial
      | some m =>
          obtain ⟨rfl, ⟨row, found, rfl⟩, claimable⟩ := Tx.claimNext_fresh done
          refine .of_granted orderly hi opened .claimNext granted answered rfl rfl
            ⟨rfl, List.mem_singleton.mpr rfl, row, ?_, claimable⟩
          exact ((Tx.claimNext_moves done).row? _).trans found
  | resting h =>
      cases atNode
      cases told
      obtain ⟨tx, opened, -⟩ := stands h rfl
      exact .of_same opened rfl rfl rfl trivial
  | leaving h =>
      cases atNode
      cases told
      obtain ⟨tx, opened, -⟩ := stands h rfl
      cases answered.symm.trans (congrArg some (System.rollback_answer opened))
      exact .of_none (.idle h) rfl
  | taking h m =>
      cases atNode
      cases told
      obtain ⟨tx, opened, fresh⟩ := stands h rfl
      exact .of_same opened rfl rfl rfl fresh
  | guarding h m =>
      cases atNode
      cases told
      obtain ⟨tx, opened, nothing, held, awaits⟩ := stands h rfl
      have secures : tx.setSavepoint.Secures (host.system.store w.store) m.id :=
        ⟨congrArg some nothing, held, awaits⟩
      have attempted : Worker.Attempted w.store h m (Worker.preamble (ω := ω) w.store h m) :=
        ⟨[], by simp, (List.append_nil _).symm⟩
      exact .of_granted orderly hi opened .savepoint rfl answered
        (told_within attempted (w.deliver m).run) (tx?_within h m (w.deliver m).run)
        (stands_within secures (Worker.uses_deliver trivial leaves m))
  | handling h m op next =>
      cases atNode
      obtain ⟨tx, opened, secures, uses⟩ := stands h rfl
      exact .call_handling orderly hi opened secures uses told answered
  | keeping h m handlers =>
      cases atNode
      obtain ⟨tx, opened, secures⟩ := stands h rfl
      have done : tx.request (host.system.store w.store) host.clock .releaseSavepoint =
          .ok (some (), host.system.store w.store, { tx with savepoint := none }) := by
        rw [Tx.request, Tx.releaseSavepoint, secures.savepoint]
        rfl
      exact .of_granted orderly hi opened _ done answered ⟨said, told, rfl⟩ rfl secures.held
  | marking h m handlers =>
      cases atNode
      obtain ⟨tx, opened, held⟩ := stands h rfl
      obtain ⟨before, attempted, rfl⟩ := told
      obtain ⟨st', tx', marked⟩ := Tx.exists_markProcessed held (host.system.store w.store)
        host.clock
      have done : tx.request (host.system.store w.store) host.clock (.markProcessed m.id) =
          .ok (some (), st', tx') := by
        rw [Tx.request, marked]
        rfl
      exact .of_granted orderly hi opened _ done answered
        ⟨before, attempted, List.append_assoc _ _ _⟩ rfl trivial
  | storing h m handlers =>
      cases atNode
      obtain ⟨tx, opened, -⟩ := stands h rfl
      obtain ⟨before, attempted, rfl⟩ := told
      cases answered.symm.trans (congrArg some (System.commit_answer opened))
      exact .of_none ⟨h, m, before, attempted, rfl, List.append_assoc _ _ _⟩ rfl
  | succeeded id handlers =>
      cases atNode
      obtain ⟨h, m, before, attempted, rfl, rfl⟩ := told
      rw [List.append_assoc]
      exact .of_none (.succeeded attempted handlers) rfl
  | failing h m e =>
      cases atNode
      obtain ⟨tx, opened, secures⟩ := stands h rfl
      exact .of_same opened rfl ⟨said, told, rfl⟩ rfl secures
  | undoing h m e =>
      cases atNode
      obtain ⟨tx, opened, secures⟩ := stands h rfl
      obtain ⟨before, attempted, rfl⟩ := told
      have done : tx.request (host.system.store w.store) host.clock .rollbackToSavepoint =
          .ok (some (), host.system.store w.store, { tx with changes := {} }) := by
        rw [Tx.request, Tx.rollbackToSavepoint, secures.savepoint]
        rfl
      exact .of_granted orderly hi opened _ done answered
        ⟨before, attempted, List.append_assoc _ _ _⟩ rfl ⟨rfl, secures.held, secures.awaits⟩
  | counting h m reason =>
      cases atNode
      obtain ⟨tx, opened, nothing, held, awaits⟩ := stands h rfl
      obtain ⟨before, attempted, rfl⟩ := told
      obtain ⟨outcome, st', tx', counted⟩ := Tx.exists_incrementRetry tidy nothing held awaits
        host.clock reason
      exact .of_granted orderly hi opened (.incrementRetry m.id reason) counted answered
        ⟨before, reason, attempted, List.append_assoc _ _ _⟩ rfl trivial
  | recording h m outcome =>
      cases atNode
      obtain ⟨tx, opened, -⟩ := stands h rfl
      obtain ⟨before, reason, attempted, rfl⟩ := told
      cases answered.symm.trans (congrArg some (System.commit_answer opened))
      rw [List.append_assoc]
      exact .of_none (.failed attempted reason outcome) rfl
  | yielding h m? e =>
      cases atNode
      obtain ⟨tx, opened, -⟩ := stands h rfl
      obtain ⟨m, reason, attempted, rfl⟩ := told
      exact .of_same opened rfl ⟨m, reason, said, attempted, rfl, rfl⟩ rfl trivial
  | yielded h m? e =>
      cases atNode
      obtain ⟨tx, opened, -⟩ := stands h rfl
      obtain ⟨m, reason, before, attempted, rfl, rfl⟩ := told
      cases answered.symm.trans (congrArg some (System.rollback_answer opened))
      rw [List.append_assoc]
      exact .of_none (.givenBack attempted reason) rfl
  | ended result => cases atNode

/-- **A call that breaks off is one of the handlers.** The worker counts a failure on the message
that it has claimed, and that has an attempt left. -/
theorem At.attempted_of_broken {w : Worker κ ω} (store : w.store = i) {host : Host ω}
    (orderly : host.system.Orderly) (hi : i.index < host.system.stores.length)
    (tidy : (host.system.store i).Tidy) (here : point.At i host.system said) {node : Node ω}
    (atNode : point.node w = .inr node) (broken : (Host.answer node.op host).1 = none) :
    ∃ h m, Worker.Attempted i h m said := by
  obtain ⟨told, stands⟩ := here
  subst store
  cases point with
  | starting | beginning | claiming | resting | leaving | taking | guarding | keeping | marking
  | storing | succeeded | failing | undoing | recording | yielding | yielded =>
      cases atNode
      obtain ⟨_, _, _, _, count⟩ := Host.counts_of_broken broken
      cases count
  | handling h m op next => exact ⟨h, m, told⟩
  | counting h m reason =>
      cases atNode
      obtain ⟨tx, opened, nothing, held, awaits⟩ := stands h rfl
      obtain ⟨outcome, st', tx', counted⟩ := Tx.exists_incrementRetry tidy nothing held awaits
        host.clock reason
      have answered := (Host.answer_granted orderly hi opened (r := .incrementRetry m.id reason)
        counted).1
      cases broken.symm.trans answered
  | ended result => cases atNode

end Point

end MaintenanceOutbox
