import MaintenanceOutbox.Proofs.Delivery.Turns

set_option autoImplicit false

/-! # What a worker's call does to the tables

Most calls of a delivery leave the tables as they are. `View.Worked` lists what a worker's call can
do and what is noted of it in the journal: it is quiet, or the message goes to the handlers, or the
transaction is committed, and then there are two cases. After a success the message is marked; after
a failure there is nothing in the transaction but the count.

`Point.worked` reads this off the points, and `Point.heldAfter_next` the message that the worker
holds.
-/

namespace MaintenanceOutbox

/-- Does it leave the tables as they are? -/
def Happening.Quiet : Happening → Prop
  | .commits _ | .requeues _ | .deletes _ | .purges _ => False
  | _ => True

/-- What happens to store `i` when the operation is answered. -/
def OutboxOp.seenFrom {ω : Type} (i : StoreId) (now : Timestamp) (op : OutboxOp ω) : Happening :=
  match op.calls now with
  | [] => .nothing
  | c :: _ => c.seenFrom i

section

variable {ω : Type} {i : StoreId}

/-- What is seen of a store after an answer. -/
theorem Host.view_answer {op : OutboxOp ω} {h : Host ω} (orderly : h.system.Orderly)
    (hi : i.index < h.system.stores.length) {reply : op.Reply}
    (answered : (Host.answer op h).1 = some reply) :
    (Host.answer op h).2.system.view i = (h.system.view i).step (op.seenFrom i h.clock) := by
  rw [Host.system_answer answered]
  cases op with
  | beginTx j => exact System.view_step orderly hi (.beginTx j)
  | commit j tx => exact System.view_step orderly hi (.commit j tx)
  | rollback j tx => exact System.view_step orderly hi (.rollback j tx)
  | enter | stopRequested => rfl
  | inside tx op =>
      cases op with
      | request j r => exact System.view_step orderly hi (.request h.clock j tx r)
      | now | freshId | tell => rfl

/-- What is added by one call. -/
theorem Call.added_singleton (c : Call) : added i [c] = (c.seenFrom i).added?.toList := by
  unfold added
  cases found : (c.seenFrom i).added? <;> simp [found]

/-- What is added by the calls of an operation. -/
theorem OutboxOp.added_calls (op : OutboxOp ω) (now : Timestamp) :
    Call.added i (op.calls now) = (op.seenFrom i now).added?.toList := by
  cases op with
  | beginTx | commit | rollback => exact Call.added_singleton _
  | enter | stopRequested => rfl
  | inside tx op =>
      cases op with
      | request j r => exact Call.added_singleton _
      | now | freshId | tell => rfl

theorem Call.quiet_beginTx (j : StoreId) : ((Call.beginTx j).seenFrom i).Quiet := by
  rw [seenFrom]
  split <;> trivial

theorem Call.quiet_request (now : Timestamp) (j : StoreId) (h : TxHandle) (r : TxRequest) :
    ((Call.request now j h r).seenFrom i).Quiet := by
  rw [seenFrom]
  split <;> trivial

end

namespace View

/-- What is quiet leaves the tables as they are. -/
theorem tables_of_quiet (v : View) {e : Happening} (quiet : e.Quiet) (x : MessageId) :
    (v.step e).store.row? x = v.store.row? x ∧
      (v.step e).store.deadLetter? x = v.store.deadLetter? x := by
  cases e with
  | nothing | elsewhere | begins => exact ⟨rfl, rfl⟩
  | requests now h r =>
      rw [step]
      split
      · exact ⟨rfl, rfl⟩
      · split
        · exact ⟨rfl, rfl⟩
        · next done =>
            have moves := Tx.request_moves done
            exact ⟨moves.row? x, moves.deadLetter? x⟩
  | releases h =>
      rw [step]
      split <;> exact ⟨rfl, rfl⟩
  | commits | requeues | deletes | purges => exact quiet.elim

/-- **What a call of worker `k` can do**, and what is noted of it. -/
inductive Worked (v : View) (k : Nat) : Happening → List Entry → Prop where
  | quiet (e : Happening) (quiet : e.Quiet) : Worked v k e []
  | hands (e : Happening) (m : QueuedMessage) (quiet : e.Quiet) (holds : v.store.Holds m) :
      Worked v k e [.handed k m.id]
  | delivers (h : TxHandle) (tx : Tx) (m : QueuedMessage) (handlers : Nat) (now : Timestamp)
      (opened : v.tx h = some tx) (delivers : tx.Delivers m none [m.markProcessed now] [])
      (holds : v.store.Holds m) : Worked v k (.commits h) [.settled k (.processed m.id handlers)]
  | fails (h : TxHandle) (m : QueuedMessage) (outcome : RetryOutcome)
      (updated : List QueuedMessage) (dead : List DeadLetter)
      (opened : v.tx h = some ⟨⟨[], updated, dead⟩, some {}, [m.id]⟩)
      (fails : m.Fails outcome updated dead) (holds : v.store.Holds m) :
      Worked v k (.commits h) [.settled k (.ofRetry m.id outcome)]

end View

namespace Point

variable {κ ω : Type} [EventFamily κ] {s : System} {i : StoreId} {point : Point ω}

/-- The message that a worker holds is that of its point. -/
theorem heldAfter_next {w : Worker κ ω} {node : Node ω} (here : point.node w = .inr node)
    {st : Store} (fits : ∀ h, point.tx? = some h → ∃ tx, point.Fits st tx)
    (reply : node.op.Reply) :
    Member.heldAfter point.message? node.op reply = (node.next reply).message? := by
  cases point with
  | starting | resting | taking | succeeded | failing | yielding | yielded =>
      cases here
      rfl
  | beginning | leaving | keeping | marking | storing | undoing | counting | recording =>
      cases here
      cases reply <;> rfl
  | claiming h =>
      cases here
      rcases reply with e | (_ | m) <;> rfl
  | guarding h m =>
      cases here
      cases reply with
      | error e => rfl
      | ok answer => exact (message?_within h m (w.deliver m).run).symm
  | handling h m op next =>
      cases here
      -- handlers claim nothing, so that the message is still the same
      obtain ⟨tx, -, -, uses⟩ := fits h rfl
      refine Eq.trans ?_ (message?_within h m (next reply)).symm
      cases op with
      | now | freshId | tell word => rfl
      | request j r =>
          cases r with
          | add x => rfl
          | claimNext => exact uses.1.elim
          | markProcessed | incrementRetry | savepoint | rollbackToSavepoint | releaseSavepoint =>
              rfl
  | ended result => cases here

/-- A delivery makes calls on its own transaction only. -/
theorem own_tx {w : Worker κ ω} {node : Node ω} (here : point.node w = .inr node) {now : Timestamp}
    {h : TxHandle} (on : (node.op.seenFrom i now).On h) : point.tx? = some h := by
  have asks : ∀ (j : StoreId) (k : TxHandle) (r : TxRequest),
      ((Call.request now j k r).seenFrom i).On h → k = h := by
    intro j k r on
    rw [Call.seenFrom] at on
    split at on
    · exact on
    · exact on.elim
  have commits : ∀ (j : StoreId) (k : TxHandle), ((Call.commit j k).seenFrom i).On h → k = h := by
    intro j k on
    rw [Call.seenFrom] at on
    split at on <;> exact on
  cases point with
  | starting | resting | taking | succeeded | failing | yielding =>
      cases here
      exact on.elim
  | beginning =>
      cases here
      change (if w.store = i then Happening.begins else Happening.elsewhere).On h at on
      split at on <;> exact on.elim
  | leaving k | yielded k =>
      cases here
      exact congrArg some on
  | claiming k | guarding k | keeping k | marking k | undoing k | counting k =>
      cases here
      exact congrArg some (asks _ _ _ on)
  | handling k m op next =>
      cases here
      cases op with
      | now | freshId | tell => exact on.elim
      | request j r => exact congrArg some (asks _ _ _ on)
  | storing k | recording k =>
      cases here
      exact congrArg some (commits _ _ on)
  | ended result => cases here

/-- **What a worker's call does**, with its transaction fitting the point. -/
theorem worked (k : Nat) {w : Worker κ ω} (store : w.store = i)
    (fits : ∀ h, point.tx? = some h →
      ∃ tx, (s.view i).tx h = some tx ∧ point.Fits (s.view i).store tx)
    {node : Node ω} (here : point.node w = .inr node) (host : Host ω) (system : host.system = s)
    {reply : node.op.Reply} (answered : (Host.answer node.op host).1 = some reply) :
    (s.view i).Worked k (node.op.seenFrom i host.clock)
      (Member.noted k point.message? ((node.next reply).program w) node.op reply) := by
  subst store system
  cases point with
  | starting | resting | taking | succeeded | failing | yielding =>
      cases here
      exact .quiet _ trivial
  | leaving | yielded =>
      cases here
      exact .quiet _ trivial
  | beginning =>
      cases here
      exact .quiet _ (Call.quiet_beginTx _)
  | claiming | keeping | marking | undoing | counting =>
      cases here
      exact .quiet _ (Call.quiet_request _ _ _ _)
  | guarding h m =>
      cases here
      obtain ⟨tx, opened, rfl, holds⟩ := fits h rfl
      have quiet := Call.quiet_request (i := w.store) host.clock w.store h .savepoint
      -- it counts as handed out if the savepoint is set
      cases reply with
      | error e => exact .quiet _ quiet
      | ok answer => exact .hands _ m quiet holds
  | handling h m op next =>
      cases here
      obtain ⟨tx, opened, delivers, holds, uses⟩ := fits h rfl
      cases op with
      | now | freshId | tell word => exact .quiet _ trivial
      | request j r =>
          have quiet := Call.quiet_request (i := w.store) host.clock j h r
          cases r with
          | add x => exact .quiet _ quiet
          | claimNext | markProcessed | incrementRetry | savepoint | rollbackToSavepoint
          | releaseSavepoint => exact uses.1.elim
  | storing h m handlers =>
      cases here
      obtain ⟨tx, opened, ⟨now, delivers⟩, holds⟩ := fits h rfl
      have commits :
          (OutboxOp.commit (ω := ω) w.store h).seenFrom w.store host.clock = .commits h :=
        if_pos rfl
      have accepted : reply = .ok () :=
        (Option.some.inj answered).symm.trans (System.commit_answer opened)
      rw [commits, accepted]
      exact .delivers h tx m handlers now opened delivers holds
  | recording h m outcome =>
      cases here
      obtain ⟨tx, opened, ⟨updated, dead, fails, rfl⟩, holds⟩ := fits h rfl
      have commits :
          (OutboxOp.commit (ω := ω) w.store h).seenFrom w.store host.clock = .commits h :=
        if_pos rfl
      have accepted : reply = .ok () :=
        (Option.some.inj answered).symm.trans (System.commit_answer opened)
      rw [commits, accepted]
      exact .fails h m outcome updated dead opened fails holds
  | ended result => cases here

end Point

end MaintenanceOutbox
