import MaintenanceOutbox.Proofs.Delivery.Crew
import MaintenanceOutbox.Proofs.Store.Answers

set_option autoImplicit false

/-! # From one point to the next

`Point.turn` follows a worker through one call: if its transaction fits the point before the call,
it fits the point after it, whatever the answer is. What the handlers do in between is any number of
calls that add messages. There always is an answer (`Point.exists_answer`): the only count of a
delivery is the worker's own, and a message that was claimed has an attempt left.

The other lemmas say what the fleet's records get from a move: the calls that it makes, the message
that the worker holds, and the entries of the journal.
-/

namespace MaintenanceOutbox

namespace Host

variable {ω : Type} {host : Host ω}

/-- What an operation does to the system is what its calls do. -/
theorem system_answer {op : OutboxOp ω} {reply : op.Reply}
    (answered : (answer op host).1 = some reply) :
    (answer op host).2.system = host.system.run (op.calls host.clock) := by
  cases op with
  | beginTx i | commit i tx | rollback i tx | enter state | stopRequested => rfl
  | inside tx op =>
      cases op with
      | now | freshId | tell => rfl
      | request i r =>
          rcases requested : host.system.request host.clock i tx r with ⟨e | _ | reply', s⟩
          · exact (congrArg (·.2.system) (answerTx_error requested)).trans
              (congrArg Prod.snd requested).symm
          · cases (congrArg Prod.fst (answerTx_none requested)).symm.trans answered
          · exact (congrArg (·.2.system) (answerTx_ok requested)).trans
              (congrArg Prod.snd requested).symm

/-- An operation that breaks off drops its transaction besides. -/
theorem system_answer_none {op : OutboxOp ω} (broken : (answer op host).1 = none) :
    (answer op host).2.system = host.system.run (op.calls host.clock ++ op.dropCalls) := by
  cases op with
  | beginTx i | commit i tx | rollback i tx | enter state | stopRequested => cases broken
  | inside tx op =>
      cases op with
      | now | freshId | tell => cases broken
      | request i r =>
          rcases requested : host.system.request host.clock i tx r with ⟨e | _ | reply', s⟩
          · cases (congrArg Prod.fst (answerTx_error requested)).symm.trans broken
          · exact (congrArg (·.2.system) (answerTx_none requested)).trans
              (congrArg (·.2.drop tx) requested).symm
          · cases (congrArg Prod.fst (answerTx_ok requested)).symm.trans broken

variable {i : StoreId} {h : TxHandle} {tx : Tx}

/-- **A request on an open transaction** is refused, or it does what `Tx.request` says. -/
theorem answer_request_cases (orderly : host.system.Orderly)
    (hi : i.index < host.system.stores.length) (opened : (host.system.view i).tx h = some tx)
    (r : TxRequest) :
    (∃ e, tx.request (host.system.view i).store host.clock r = .error e ∧
        (answer (.inside h (.request i r)) host).1 = some (.error e) ∧
        (answer (.inside h (.request i r)) host).2.system.view i = host.system.view i) ∨
      (∃ reply st' tx',
        tx.request (host.system.view i).store host.clock r = .ok (some reply, st', tx') ∧
          (answer (.inside h (.request i r)) host).1 = some (.ok reply) ∧
          (answer (.inside h (.request i r)) host).2.system.view i = { host.system.view i with
            store := st', tx := Function.update (host.system.view i).tx h (some tx') }) ∨
      ∃ p, tx.request (host.system.view i).store host.clock r = .ok (none, p) ∧
        (answer (.inside h (.request i r)) host).1 = none := by
  obtain ⟨t, ht, home, rfl⟩ := System.view_tx_eq_some_iff.mp opened
  have after := System.view_step orderly hi (.request host.clock i h r)
  rw [Call.seenFrom, if_pos rfl, View.step, opened] at after
  dsimp only at after
  have requested : (host.system.request host.clock i h r).1 =
      (t.tx.request (host.system.store i) host.clock r).map (·.1) :=
    System.request_answer ht home r
  cases done : t.tx.request (host.system.store i) host.clock r with
  | error e =>
      have done' : t.tx.request (host.system.view i).store host.clock r = .error e := done
      rw [done'] at after
      rw [done] at requested
      have answered := answerTx_error (Prod.ext requested rfl)
      refine Or.inl ⟨e, done, congrArg Prod.fst answered, ?_⟩
      exact (congrArg (·.2.system.view i) answered).trans after
  | ok p =>
      have done' : t.tx.request (host.system.view i).store host.clock r = .ok p := done
      rw [done'] at after
      rw [done] at requested
      obtain ⟨reply?, st', tx'⟩ := p
      cases reply? with
      | none =>
          have answered := answerTx_none (Prod.ext requested rfl)
          exact Or.inr (Or.inr ⟨_, done, congrArg Prod.fst answered⟩)
      | some reply =>
          have answered := answerTx_ok (Prod.ext requested rfl)
          refine Or.inr (Or.inl ⟨reply, st', tx', done, congrArg Prod.fst answered, ?_⟩)
          exact (congrArg (·.2.system.view i) answered).trans after

end Host

namespace System

variable {s : System} {i : StoreId} {h : TxHandle} {tx : Tx}

/-- The commit of an open transaction is accepted. -/
theorem commit_answer (opened : (s.view i).tx h = some tx) : (s.commit i h).1 = .ok () := by
  obtain ⟨t, ht, home, -⟩ := view_tx_eq_some_iff.mp opened
  rw [commit, ht]
  dsimp only
  rw [if_pos home]

end System

namespace Point

variable {κ ω : Type} [EventFamily κ] {st : Store} {tx : Tx} {m : QueuedMessage} {h : TxHandle}

@[simp] theorem tx?_within (h : TxHandle) (m : QueuedMessage)
    (p : TxProgram ω (Except HandlerError Nat)) : (within h m p).tx? = some h := by
  cases p with
  | done result =>
      cases result with
      | ok handlers => rfl
      | error e =>
          rw [within, settling]
          split <;> rfl
  | call op next => rfl

@[simp] theorem message?_within (h : TxHandle) (m : QueuedMessage)
    (p : TxProgram ω (Except HandlerError Nat)) : (within h m p).message? = some m := by
  cases p with
  | done result =>
      cases result with
      | ok handlers => rfl
      | error e =>
          rw [within, settling]
          split <;> rfl
  | call op next => rfl

/-- A delivery can be given up while its message is locked. -/
theorem fits_yielding (held : m.id ∈ tx.locks) (e : WorkerError) :
    (yielding (ω := ω) h (some m) e).Fits st tx := by
  intro m' hm'
  cases hm'
  exact held

/-- While the handlers run, and after them. -/
theorem fits_within (delivers : tx.Delivers m (some {}) [] []) (holds : st.Holds m)
    {p : TxProgram ω (Except HandlerError Nat)} (uses : p.Uses TxOp.AddsOnly) :
    (within h m p).Fits st tx := by
  cases p with
  | done result =>
      cases result with
      | ok handlers => exact ⟨delivers, holds⟩
      | error e =>
          rw [within, settling]
          split
          · exact fits_yielding delivers.mem_locks _
          · exact ⟨delivers, holds⟩
  | call op next => exact ⟨delivers, holds, uses⟩

/-- What follows after a call: the transaction of the delivery fits, if there is one. -/
def Follows (s s' : System) (i : StoreId) (point next : Point ω) : Prop :=
  ∀ h, next.tx? = some h → (point.tx? = some h ∨ h = ⟨(s.view i).begun⟩) ∧
    ∃ tx, (s'.view i).tx h = some tx ∧ next.Fits (s'.view i).store tx

variable {s : System} {i : StoreId} {point : Point ω}

/-- A call after which the delivery has no transaction. -/
theorem follows_none {s' : System} {Reply : Type} {next : Reply → Point ω}
    (none' : ∀ reply, (next reply).tx? = none) (reply : Reply) :
    Follows s s' i point (next reply) := by
  intro h hh
  rw [none'] at hh
  cases hh

/-- A call that leaves the store alone. -/
theorem follows_same {s' : System} (view : s'.view i = s.view i) (h : TxHandle) {next : Point ω}
    (before : point.tx? = some h) (after : next.tx? = some h)
    (fits : ∃ tx, (s.view i).tx h = some tx ∧ next.Fits (s.view i).store tx) :
    Follows s s' i point next := by
  intro h' hh'
  cases after.symm.trans hh'
  rw [view]
  exact ⟨Or.inl before, fits⟩

section Answered

variable {host : Host ω} (orderly : host.system.Orderly) (hi : i.index < host.system.stores.length)
  (opened : (host.system.view i).tx h = some tx)
include orderly hi opened

/-- **A request inside the delivery's transaction.** -/
theorem follows_request (before : point.tx? = some h) {r : TxRequest}
    {next : Except StoreError r.Answer → Point ω} (after : ∀ reply, (next reply).tx? = some h)
    (refused : ∀ e, (next (.error e)).Fits (host.system.view i).store tx)
    (accepted : ∀ answer st' tx',
      tx.request (host.system.view i).store host.clock r = .ok (some answer, st', tx') →
        (next (.ok answer)).Fits (host.system.view i).store tx')
    {reply : Except StoreError r.Answer}
    (answered : (Host.answer (.inside h (.request i r)) host).1 = some reply) :
    Follows host.system (Host.answer (.inside h (.request i r)) host).2.system i point
      (next reply) := by
  intro h' hh'
  cases (after _).symm.trans hh'
  refine ⟨Or.inl before, ?_⟩
  rcases Host.answer_request_cases orderly hi opened r with
    ⟨e, -, error, view⟩ | ⟨answer, st', tx', done, ok, view⟩ | ⟨_, -, none'⟩
  · cases answered.symm.trans error
    rw [view]
    exact ⟨tx, opened, refused e⟩
  · cases answered.symm.trans ok
    rw [view]
    refine ⟨tx', Function.update_self _ _ _, ?_⟩
    exact (accepted answer st' tx' done).of_row fun m _ => (Tx.request_moves done).row? m.id
  · cases answered.symm.trans none'

/-- **A call of the handlers.** -/
theorem turn_handling (delivers : tx.Delivers m (some {}) [] [])
    (holds : (host.system.view i).store.Holds m) {op : TxOp ω}
    {next : op.Reply → TxProgram ω (Except HandlerError Nat)}
    (uses : (Program.call (I := TxInterface ω) op next).Uses TxOp.AddsOnly)
    (new : ∀ c ∈ (OutboxOp.inside h op).calls host.clock, ∀ x, (c.seenFrom i).added? = some x →
      x.IsNew) {reply : op.Reply} (answered : (Host.answer (.inside h op) host).1 = some reply) :
    Follows host.system (Host.answer (.inside h op) host).2.system i (handling h m op next)
      (within h m (next reply)) := by
  cases op with
  | now | freshId | tell word =>
      exact follows_same rfl h rfl (tx?_within h m _)
        ⟨tx, opened, fits_within delivers holds (uses.2 _)⟩
  | request j r =>
      cases r with
      | add x =>
          by_cases elsewhere : j = i
          · subst elsewhere
            refine follows_request orderly hi opened rfl (fun _ => tx?_within h m _) ?_ ?_ answered
            · intro e
              exact fits_within delivers holds (uses.2 _)
            · intro answer st' tx' done
              have isNew : x.IsNew := by
                refine new _ (List.mem_singleton.mpr rfl) x ?_
                rw [Call.seenFrom, if_pos rfl, Happening.added?]
              exact fits_within (delivers.add isNew done) holds (uses.2 _)
          · -- on another store the transaction is refused
            have view := System.view_request hi host.clock j h (.add x)
            rw [Call.seenFrom, if_neg elsewhere, View.step] at view
            have system := Host.system_answer answered
            exact follows_same ((congrArg (·.view i) system).trans view) h rfl
              (tx?_within h m _) ⟨tx, opened, fits_within delivers holds (uses.2 _)⟩
      | claimNext | markProcessed | incrementRetry | savepoint | rollbackToSavepoint
      | releaseSavepoint => exact uses.1.elim

end Answered

/-- **A delivery always goes on**: every call of one whose transaction fits its point is answered.
-/
theorem exists_answer {w : Worker κ ω} (store : w.store = i) (host : Host ω)
    (orderly : host.system.Orderly) (hi : i.index < host.system.stores.length)
    (fits : ∀ h, point.tx? = some h → ∃ tx, (host.system.view i).tx h = some tx ∧
      point.Fits (host.system.view i).store tx) {node : Node ω} (here : point.node w = .inr node) :
    ∃ reply, (Host.answer node.op host).1 = some reply := by
  subst store
  refine Option.ne_none_iff_exists'.mp fun broken => ?_
  -- what breaks off is a count
  obtain ⟨_, _, _, _, count⟩ := Host.counts_of_broken broken
  cases point with
  | starting | beginning | claiming | resting | leaving | taking | guarding | keeping | marking
  | storing | succeeded | failing | undoing | recording | yielding | yielded =>
      cases here
      cases count
  | handling h m op next =>
      -- handlers count nothing
      cases here
      obtain ⟨-, -, -, -, uses⟩ := fits h rfl
      cases count
      exact uses.1
  | counting h m reason =>
      cases here
      obtain ⟨tx, opened, rfl, holds⟩ := fits h rfl
      rcases Host.answer_request_cases orderly hi opened (.incrementRetry m.id reason) with
        ⟨e, -, error, -⟩ | ⟨outcome, st', tx', -, ok, -⟩ | ⟨p, full, -⟩
      · cases broken.symm.trans error
      · cases broken.symm.trans ok
      · -- the message was claimed, so that its count is not full
        obtain ⟨outcome, _, _, counted, -⟩ := Tx.incrementRetry_held holds full
        cases counted
  | ended result => cases here

/-- **From one point to the next.** If the transaction of a delivery fits the point before a call,
it fits the point after it. -/
theorem turn {w : Worker κ ω} (adds : w.registry.AddsOnly) (store : w.store = i)
    (orderly : s.Orderly) (hi : i.index < s.stores.length) (inv : (s.view i).Sound)
    (fits : ∀ h, point.tx? = some h →
      ∃ tx, (s.view i).tx h = some tx ∧ point.Fits (s.view i).store tx)
    {node : Node ω} (here : point.node w = .inr node) (host : Host ω) (system : host.system = s)
    (new : ∀ c ∈ node.op.calls host.clock, ∀ x, (c.seenFrom i).added? = some x → x.IsNew)
    {reply : node.op.Reply} (answered : (Host.answer node.op host).1 = some reply) :
    Follows s (Host.answer node.op host).2.system i point (node.next reply) := by
  -- nobody carries what is committed
  have holdsNot : ∀ {h tx} {m : QueuedMessage}, (s.view i).tx h = some tx →
      (s.view i).store.Holds m → ¬ tx.Carries m.id := by
    rintro h tx m opened ⟨⟨row, found, -⟩, -⟩ carried
    cases (inv.unused h tx opened m.id carried).1.symm.trans found
  subst store system
  cases point with
  | starting =>
      cases here
      exact follows_none (fun _ => rfl) _
  | beginning =>
      cases here
      cases answered
      intro h hh
      cases hh
      refine ⟨Or.inr rfl, {}, ?_, rfl⟩
      have after := System.view_beginTx orderly w.store w.store
      rw [Call.seenFrom, if_pos rfl] at after
      show ((host.system.beginTx w.store).2.view w.store).tx _ = _
      rw [after]
      exact Function.update_self _ _ _
  | claiming h =>
      cases here
      obtain ⟨tx, opened, rfl⟩ := fits h rfl
      refine follows_request orderly hi opened rfl ?_ ?_ ?_ answered
      · intro reply
        rcases reply with e | (_ | m) <;> rfl
      · intro e m none'
        cases none'
      · intro answer st' tx' done
        cases answer with
        | none => trivial
        | some m =>
            obtain ⟨_, same, claimed⟩ := Tx.request_claimNext done
            cases same
            exact Tx.claimNext_fresh claimed
  | resting h =>
      cases here
      obtain ⟨tx, opened, -⟩ := fits h rfl
      exact follows_same rfl h rfl rfl ⟨tx, opened, trivial⟩
  | leaving h =>
      cases here
      refine follows_none ?_ _
      intro reply
      cases reply <;> rfl
  | taking h m =>
      cases here
      exact follows_same rfl h rfl rfl (fits h rfl)
  | guarding h m =>
      cases here
      obtain ⟨tx, opened, rfl, holds⟩ := fits h rfl
      refine follows_request orderly hi opened rfl ?_ ?_ ?_ answered
      · intro reply
        cases reply with
        | error e => rfl
        | ok _ => exact tx?_within h m (w.deliver m).run
      · intro e
        exact fits_yielding (List.mem_singleton.mpr rfl) _
      · intro answer st' tx' done
        cases done
        exact fits_within (Tx.delivers_guarded m) holds (Worker.uses_deliver trivial adds m)
  | handling h m op next =>
      cases here
      obtain ⟨tx, opened, delivers, holds, uses⟩ := fits h rfl
      exact turn_handling orderly hi opened delivers holds uses new answered
  | keeping h m handlers =>
      cases here
      obtain ⟨tx, opened, delivers, holds⟩ := fits h rfl
      refine follows_request orderly hi opened rfl ?_ ?_ ?_ answered
      · intro reply
        cases reply <;> rfl
      · intro e
        exact fits_yielding delivers.mem_locks _
      · intro answer st' tx' done
        exact ⟨delivers.release done, holds⟩
  | marking h m handlers =>
      cases here
      obtain ⟨tx, opened, delivers, holds⟩ := fits h rfl
      refine follows_request orderly hi opened rfl ?_ ?_ ?_ answered
      · intro reply
        cases reply <;> rfl
      · intro e
        exact fits_yielding delivers.mem_locks _
      · intro answer st' tx' done
        exact ⟨⟨host.clock, delivers.mark holds (holdsNot opened holds) done⟩, holds⟩
  | storing h m handlers =>
      cases here
      refine follows_none ?_ _
      intro reply
      cases reply <;> rfl
  | succeeded id handlers =>
      cases here
      exact follows_none (fun _ => rfl) _
  | failing h m e =>
      cases here
      exact follows_same rfl h rfl rfl (fits h rfl)
  | undoing h m e =>
      cases here
      obtain ⟨tx, opened, delivers, holds⟩ := fits h rfl
      refine follows_request orderly hi opened rfl ?_ ?_ ?_ answered
      · intro reply
        cases reply <;> rfl
      · intro e'
        exact fits_yielding delivers.mem_locks _
      · intro answer st' tx' done
        exact ⟨delivers.undo done, holds⟩
  | counting h m reason =>
      cases here
      obtain ⟨tx, opened, rfl, holds⟩ := fits h rfl
      refine follows_request orderly hi opened rfl ?_ ?_ ?_ answered
      · intro reply
        cases reply <;> rfl
      · intro e
        exact fits_yielding (List.mem_singleton.mpr rfl) _
      · intro outcome st' tx' done
        obtain ⟨_, updated, dead, same, fails, after⟩ := Tx.incrementRetry_held holds done
        cases same
        exact ⟨⟨updated, dead, fails, after⟩, holds⟩
  | recording h m outcome =>
      cases here
      refine follows_none ?_ _
      intro reply
      cases reply <;> rfl
  | yielding h m? e =>
      cases here
      exact follows_same rfl h rfl rfl (fits h rfl)
  | yielded h m? e =>
      cases here
      exact follows_none (fun _ => rfl) _
  | ended result => cases here

end Point

end MaintenanceOutbox
