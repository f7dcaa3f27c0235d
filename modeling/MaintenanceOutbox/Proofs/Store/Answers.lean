import MaintenanceOutbox.Proofs.Store.Requests
import MaintenanceOutbox.Store.Host

set_option autoImplicit false

/-! # What a host answers to a request

A host answers a request as its system does, and changes nothing but the system. There is one
exception. A count on a message whose count is full breaks off: the host has no answer, and the
transaction is dropped (`Host.answerTx_none`). Nothing else does (`Host.counts_of_broken`).
-/

namespace MaintenanceOutbox

/-- **A request breaks off** only if it is a count, on a message whose count is full. -/
theorem System.request_breaksOff {s : System} {now : Timestamp} {i : StoreId} {h : TxHandle}
    {r : TxRequest} (broken : (s.request now i h r).1 = .ok none) :
    ∃ t id error m, s.open? h = some t ∧ t.home = i ∧ r = .incrementRetry id error ∧
      t.tx.sees? (s.store i) id = some m ∧ m.isPending = true ∧ m.countIsFull = true := by
  rw [request] at broken
  split at broken
  · cases broken
  · next t opened =>
      split at broken
      · next home =>
          split at broken
          · cases broken
          · next answer? st tx done =>
              cases Except.ok.inj broken
              obtain ⟨id, error, m, asked, seen⟩ := Tx.request_breaksOff done
              exact ⟨t, id, error, m, opened, home, asked, seen⟩
      · cases broken

namespace Host

variable {ω : Type} {h : Host ω} {i : StoreId} {tx : TxHandle} {r : TxRequest} {s : System}

theorem answerTx_ok {answer : r.Answer}
    (requested : h.system.request h.clock i tx r = (.ok (some answer), s)) :
    answerTx tx (.request i r) h = (some (.ok answer), { h with system := s }) := by
  simp only [answerTx, requested]

theorem answerTx_error {e : StoreError}
    (requested : h.system.request h.clock i tx r = (.error e, s)) :
    answerTx tx (.request i r) h = (some (.error e), { h with system := s }) := by
  simp only [answerTx, requested]

/-- **A request that breaks off** is not answered, and its transaction is dropped. -/
theorem answerTx_none (requested : h.system.request h.clock i tx r = (.ok none, s)) :
    answerTx tx (.request i r) h = (none, { h with system := s.drop tx }) := by
  simp only [answerTx, requested]

/-- Requests other than counts are answered. -/
theorem exists_answerTx (h : Host ω) (i : StoreId) (tx : TxHandle)
    (other : ∀ id error, r ≠ .incrementRetry id error) :
    ∃ reply, answerTx tx (.request i r) h =
      (some reply, { h with system := (h.system.request h.clock i tx r).2 }) := by
  rcases requested : h.system.request h.clock i tx r with ⟨e | _ | answer, s⟩
  · exact ⟨_, answerTx_error requested⟩
  · obtain ⟨-, id, error, -, -, -, asked, -⟩ :=
      System.request_breaksOff (congrArg Prod.fst requested)
    exact absurd asked (other id error)
  · exact ⟨_, answerTx_ok requested⟩

theorem exists_answer_request (h : Host ω) (i : StoreId) (tx : TxHandle)
    (other : ∀ id error, r ≠ .incrementRetry id error) :
    ∃ reply, (answer (.inside tx (.request i r)) h).1 = some reply :=
  (exists_answerTx h i tx other).imp fun _ answered => congrArg Prod.fst answered

/-- **What breaks off is a count.** -/
theorem counts_of_broken {op : OutboxOp ω} {h : Host ω} (broken : (answer op h).1 = none) :
    ∃ tx i id error, op = .inside tx (.request i (.incrementRetry id error)) := by
  cases op with
  | beginTx | commit | rollback | enter | stopRequested => cases broken
  | inside tx op =>
      cases op with
      | now | freshId | tell => cases broken
      | request i r =>
          by_contra other
          obtain ⟨reply, answered⟩ := exists_answer_request (r := r) h i tx fun id error same =>
            other ⟨tx, i, id, error, by rw [same]⟩
          cases broken.symm.trans answered

/-- Requests tell the outside world nothing. -/
theorem told_answerTx (h : Host ω) (i : StoreId) (tx : TxHandle) (r : TxRequest) :
    (answerTx tx (.request i r) h).2.told = h.told := by
  rcases requested : h.system.request h.clock i tx r with ⟨e | _ | answer, s⟩
  · exact congrArg (·.2.told) (answerTx_error requested)
  · exact congrArg (·.2.told) (answerTx_none requested)
  · exact congrArg (·.2.told) (answerTx_ok requested)

end Host

end MaintenanceOutbox
