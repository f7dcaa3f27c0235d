import MaintenanceOutbox.Proofs.Delivery.Dialogue
import MaintenanceOutbox.Proofs.Delivery.Handlers
import MaintenanceOutbox.Proofs.Store.Answers
import MaintenanceOutbox.Proofs.Store.Session

set_option autoImplicit false

/-! # Hosts whose clock moves

On a `Host` the clock stands still. A worker runs for a long time, so that here every call is
answered at a time of its own: `times n` is the time of the `n`-th call. Nothing is asked of
`times`, the clock may also be set back.

A run is taken apart call by call (`Clocked.run_bind`). What is said of a state `c` in between is
its system and what was told to the outside world; the rest of it does not come back into a run.

What code in a transaction asks for on a host is a list of operations (`Clocked.asked`). It changes
the system by its requests only. If all of these are of some kind, then what requests of that kind
keep, call by call, is kept by the code (`Clocked.inside_keeps`); nothing is said of what it would
do on other hosts.

A run that breaks off has no result. The only calls that are not answered are counts, and with the
count the transaction is dropped.
-/

namespace MaintenanceOutbox

/-- A host, and how many calls it answered so far. -/
structure Clocked (ω : Type) where
  host : Host ω
  calls : Nat := 0

namespace Clocked

variable {ω α β : Type}

/-- The system of stores. -/
def system (c : Clocked ω) : System := c.host.system

/-- What was told to the outside world. -/
def told (c : Clocked ω) : List ω := c.host.told

/-- Answer a call at its time. -/
def answer (times : Nat → Timestamp) (op : OutboxOp ω) : OptionT (StateM (Clocked ω)) op.Reply :=
  fun c =>
    let (reply, host) := Host.answer op { c.host with clock := times c.calls }
    (reply, ⟨host, c.calls + 1⟩)

/-- **Run a program while the clock moves**: its result, unless it breaks off, and the host
afterwards. -/
def run (times : Nat → Timestamp) (p : OutboxProgram ω α) (c : Clocked ω) : Option α × Clocked ω :=
  p.runFrom (answer times) c

/-- Run code of the transaction `tx`. -/
def inside (times : Nat → Timestamp) (tx : TxHandle) (p : TxProgram ω α) (c : Clocked ω) :
    Option α × Clocked ω :=
  p.runFrom (I := TxInterface ω) (fun op => answer times (.inside tx op)) c

variable {times : Nat → Timestamp} {c : Clocked ω}

/-! ## Taking a run apart -/

theorem run_pure (a : α) (c : Clocked ω) :
    run times (pure a : OutboxProgram ω α) c = (some a, c) := rfl

theorem run_bind {p : OutboxProgram ω α} {a : α} (first : (run times p c).1 = some a)
    (f : α → OutboxProgram ω β) :
    run times (p >>= f) c = run times (f a) (run times p c).2 :=
  Program.runFrom_bind (Prod.ext first rfl) f

theorem run_bind_none {p : OutboxProgram ω α} (first : (run times p c).1 = none)
    (f : α → OutboxProgram ω β) : run times (p >>= f) c = (none, (run times p c).2) :=
  Program.runFrom_bind_none (Prod.ext first rfl) f

/-! A program that begins with a call goes on with the answer. -/

theorem run_commit (i : StoreId) (tx : TxHandle) (f : Except StoreError Unit → OutboxProgram ω α)
    (c : Clocked ω) :
    run times (OutboxProgram.commit i tx >>= f) c =
      run times (f (c.system.commit i tx).1) (answer times (.commit i tx) c).2 := rfl

theorem run_rollback (i : StoreId) (tx : TxHandle) (f : Except StoreError Unit → OutboxProgram ω α)
    (c : Clocked ω) :
    run times (OutboxProgram.rollback i tx >>= f) c =
      run times (f (c.system.rollback i tx).1) (answer times (.rollback i tx) c).2 := rfl

theorem run_request {i : StoreId} {tx : TxHandle} {r : TxRequest}
    {reply : Except StoreError r.Answer}
    (answered : (answer times (.inside tx (.request i r)) c).1 = some reply)
    (f : Except StoreError r.Answer → OutboxProgram ω α) :
    run times (OutboxProgram.request i tx r >>= f) c =
      run times (f reply) (answer times (.inside tx (.request i r)) c).2 :=
  Program.runFrom_call (Prod.ext answered rfl)

theorem run_request_none {i : StoreId} {tx : TxHandle} {r : TxRequest}
    (unanswered : (answer times (.inside tx (.request i r)) c).1 = none)
    (f : Except StoreError r.Answer → OutboxProgram ω α) :
    run times (OutboxProgram.request i tx r >>= f) c =
      (none, (answer times (.inside tx (.request i r)) c).2) :=
  Program.runFrom_call_none (Prod.ext unanswered rfl)

theorem run_enter (state : WorkerState) (f : Unit → OutboxProgram ω α) (c : Clocked ω) :
    run times (OutboxProgram.enter state >>= f) c =
      run times (f ()) (answer times (.enter state) c).2 := rfl

section Call

variable {tx : TxHandle} {op : (TxInterface ω).Op}

theorem inside_call {reply : (TxInterface ω).Reply op}
    (answered : (answer times (.inside tx op) c).1 = some reply)
    (next : (TxInterface ω).Reply op → TxProgram ω α) :
    inside times tx (.call op next) c =
      inside times tx (next reply) (answer times (.inside tx op) c).2 :=
  Program.runFrom_call (I := TxInterface ω) (Prod.ext answered rfl)

theorem inside_call_none (unanswered : (answer times (.inside tx op) c).1 = none)
    (next : (TxInterface ω).Reply op → TxProgram ω α) :
    inside times tx (.call op next) c = (none, (answer times (.inside tx op) c).2) :=
  Program.runFrom_call_none (I := TxInterface ω) (Prod.ext unanswered rfl)

end Call

/-- Code in a transaction is run as a part of the program around it. -/
theorem run_within (tx : TxHandle) (p : TxProgram ω α) (c : Clocked ω) :
    run times (OutboxProgram.within tx p) c = inside times tx p c := by
  induction p generalizing c with
  | done a => rfl
  | call op next ih =>
      cases answered : (answer times (.inside tx op) c).1 with
      | none =>
          rw [inside_call_none answered]
          exact Program.runFrom_call_none (Prod.ext answered rfl)
      | some reply =>
          rw [inside_call answered]
          exact (Program.runFrom_call (Prod.ext answered rfl)).trans (ih reply _)

theorem inside_bind {tx : TxHandle} {p : TxProgram ω α} {a : α}
    (first : (inside times tx p c).1 = some a) (f : α → TxProgram ω β) :
    inside times tx (p.bind f) c = inside times tx (f a) (inside times tx p c).2 :=
  Program.runFrom_bind (Prod.ext first rfl) f

theorem inside_bind_none {tx : TxHandle} {p : TxProgram ω α}
    (first : (inside times tx p c).1 = none) (f : α → TxProgram ω β) :
    inside times tx (p.bind f) c = (none, (inside times tx p c).2) :=
  Program.runFrom_bind_none (Prod.ext first rfl) f

/-! Handlers of the deferred kind stop at their first error. -/

theorem inside_lift {tx : TxHandle} {p : TxProgram ω α} {a : α}
    (first : (inside times tx p c).1 = some a) :
    inside times tx (ExceptT.lift p : DeferredM ω α).run c =
      (some (.ok a), (inside times tx p c).2) :=
  inside_bind first fun a => .done (Except.ok a : Except HandlerError α)

theorem inside_bind_ok {tx : TxHandle} {p : DeferredM ω α} {a : α}
    (first : (inside times tx p.run c).1 = some (.ok a)) (f : α → DeferredM ω β) :
    inside times tx (p >>= f).run c =
      inside times tx (f a).run (inside times tx p.run c).2 :=
  inside_bind first (ExceptT.bindCont f)

theorem inside_bind_error {tx : TxHandle} {p : DeferredM ω α} {e : HandlerError}
    (first : (inside times tx p.run c).1 = some (.error e)) (f : α → DeferredM ω β) :
    inside times tx (p >>= f).run c = (some (.error e), (inside times tx p.run c).2) :=
  inside_bind first (ExceptT.bindCont f)

theorem inside_bind_broken {tx : TxHandle} {p : DeferredM ω α}
    (first : (inside times tx p.run c).1 = none) (f : α → DeferredM ω β) :
    inside times tx (p >>= f).run c = (none, (inside times tx p.run c).2) :=
  inside_bind_none first (ExceptT.bindCont f)

/-! ## What code asks for -/

section Asked

variable (times)

/-- What code in a transaction asks for on a host, one operation after the other. -/
def asked (tx : TxHandle) (p : TxProgram ω α) (c : Clocked ω) : List (TxOp ω) :=
  p.asks (I := TxInterface ω) (fun op => answer times (.inside tx op)) c

variable {times} in
theorem asked_call {tx : TxHandle} {op : (TxInterface ω).Op} {reply : (TxInterface ω).Reply op}
    (answered : (answer times (.inside tx op) c).1 = some reply)
    (next : (TxInterface ω).Reply op → TxProgram ω α) :
    asked times tx (.call op next) c =
      op :: asked times tx (next reply) (answer times (.inside tx op) c).2 :=
  Program.asks_call (I := TxInterface ω) (Prod.ext answered rfl)

variable {times} in
theorem asked_call_none {tx : TxHandle} {op : (TxInterface ω).Op}
    (unanswered : (answer times (.inside tx op) c).1 = none)
    (next : (TxInterface ω).Reply op → TxProgram ω α) : asked times tx (.call op next) c = [op] :=
  Program.asks_call_none (I := TxInterface ω) (Prod.ext unanswered rfl)

/-- Code that makes calls of a kind only asks for nothing else, on whatever host. -/
theorem asked_of_uses {allowed : TxOp ω → Prop} {p : TxProgram ω α}
    (uses : p.Uses (I := TxInterface ω) allowed) (tx : TxHandle) (c : Clocked ω) :
    ∀ op ∈ asked times tx p c, allowed op := by
  induction p generalizing c with
  | done a => exact fun op asked => absurd asked List.not_mem_nil
  | call op next ih =>
      cases answered : (answer times (.inside tx op) c).1 with
      | none =>
          rw [asked_call_none answered]
          exact List.forall_mem_singleton.mpr uses.1
      | some reply =>
          rw [asked_call answered]
          exact List.forall_mem_cons.mpr ⟨uses.1, ih _ (uses.2 _) _⟩

/-- Calls are counted. -/
theorem le_calls_inside (tx : TxHandle) (p : TxProgram ω α) (c : Clocked ω) :
    c.calls ≤ (inside times tx p c).2.calls := by
  induction p generalizing c with
  | done a => exact Nat.le_refl _
  | call op next ih =>
      cases answered : (answer times (.inside tx op) c).1 with
      | none =>
          rw [inside_call_none answered]
          exact Nat.le_succ c.calls
      | some reply =>
          rw [inside_call answered]
          exact Nat.le_trans (Nat.le_succ c.calls)
            (ih reply (answer times (.inside tx op) c).2)

end Asked

/-! ## What a call does -/

section Answers

variable {i : StoreId} {tx : TxHandle} {r : TxRequest} {s : System}

theorem answer_ok {answer' : r.Answer}
    (requested : c.system.request (times c.calls) i tx r = (.ok (some answer'), s)) :
    (answer times (.inside tx (.request i r)) c).1 = some (.ok answer') ∧
      (answer times (.inside tx (.request i r)) c).2.system = s := by
  have answered := Host.answerTx_ok (h := { c.host with clock := times c.calls }) requested
  exact ⟨congrArg Prod.fst answered, congrArg (·.2.system) answered⟩

theorem answer_error {e : StoreError}
    (requested : c.system.request (times c.calls) i tx r = (.error e, s)) :
    (answer times (.inside tx (.request i r)) c).1 = some (.error e) ∧
      (answer times (.inside tx (.request i r)) c).2.system = s := by
  have answered := Host.answerTx_error (h := { c.host with clock := times c.calls }) requested
  exact ⟨congrArg Prod.fst answered, congrArg (·.2.system) answered⟩

theorem answer_none
    (requested : c.system.request (times c.calls) i tx r = (.ok none, s)) :
    (answer times (.inside tx (.request i r)) c).1 = none ∧
      (answer times (.inside tx (.request i r)) c).2.system = s.drop tx := by
  have answered := Host.answerTx_none (h := { c.host with clock := times c.calls }) requested
  exact ⟨congrArg Prod.fst answered, congrArg (·.2.system) answered⟩

/-- Requests other than counts are answered. -/
theorem exists_answer (times : Nat → Timestamp) (c : Clocked ω) (i : StoreId) (tx : TxHandle)
    (other : ∀ id error, r ≠ .incrementRetry id error) :
    ∃ reply, (answer times (.inside tx (.request i r)) c).1 = some reply := by
  obtain ⟨reply, answered⟩ :=
    Host.exists_answerTx { c.host with clock := times c.calls } i tx other
  exact ⟨reply, congrArg Prod.fst answered⟩

/-! Only code in a transaction tells the outside world something, and not by its requests. -/

@[simp] theorem told_enter (times : Nat → Timestamp) (state : WorkerState) (c : Clocked ω) :
    (answer times (.enter state) c).2.told = c.told := rfl

@[simp] theorem told_commit (times : Nat → Timestamp) (i : StoreId) (tx : TxHandle)
    (c : Clocked ω) : (answer times (.commit i tx) c).2.told = c.told := rfl

@[simp] theorem told_rollback (times : Nat → Timestamp) (i : StoreId) (tx : TxHandle)
    (c : Clocked ω) : (answer times (.rollback i tx) c).2.told = c.told := rfl

@[simp] theorem told_request (times : Nat → Timestamp) (i : StoreId) (tx : TxHandle) (r : TxRequest)
    (c : Clocked ω) : (answer times (.inside tx (.request i r)) c).2.told = c.told :=
  Host.told_answerTx { c.host with clock := times c.calls } i tx r

end Answers

section AtWork

variable (times) {s : System} {t : OpenTx} {st : Store} {tx : Tx}
  (opened : s.open? t.handle = some t) (hi : t.home.index < s.stores.length)
  (system : c.system = s.put t st tx)
include opened hi system

/-- **A request of the transaction that is granted.** -/
theorem answer_request {r : TxRequest} {answer' : r.Answer} {st' : Store} {tx' : Tx}
    (done : tx.request st (times c.calls) r = .ok (some answer', st', tx')) :
    (answer times (.inside t.handle (.request t.home r)) c).1 = some (.ok answer') ∧
      (answer times (.inside t.handle (.request t.home r)) c).2.system = s.put t st' tx' := by
  have requested := System.request_put opened hi st tx (times c.calls) r
  rw [done, ← system] at requested
  exact answer_ok requested

theorem answer_commit :
    (c.system.commit t.home t.handle).1 = .ok () ∧
      (answer times (.commit t.home t.handle) c).2.system = s.close t (tx.commit st) := by
  have committed := System.commit_put opened hi st tx
  rw [← system] at committed
  exact ⟨congrArg Prod.fst committed, congrArg Prod.snd committed⟩

theorem answer_rollback :
    (c.system.rollback t.home t.handle).1 = .ok () ∧
      (answer times (.rollback t.home t.handle) c).2.system = s.close t (tx.release st) := by
  have released := System.rollback_put opened hi st tx
  rw [← system] at released
  exact ⟨congrArg Prod.fst released, congrArg Prod.snd released⟩

variable (allowed : TxOp ω → Prop) (keeps : Nat → Store → Tx → Prop) (leaves : Store → Tx → Prop)
  (waits : ∀ {n : Nat} {st : Store} {tx : Tx}, keeps n st tx → keeps (n + 1) st tx)
  (each : ∀ {n : Nat} {i : StoreId} {r : TxRequest} {st st' : Store} {tx tx' : Tx}
    {answer' : r.Answer}, allowed (.request i r) → keeps n st tx →
    tx.request st (times n) r = .ok (some answer', st', tx') → keeps (n + 1) st' tx')
  (last : ∀ {n : Nat} {i : StoreId} {r : TxRequest} {st st' : Store} {tx tx' : Tx},
    allowed (.request i r) → keeps n st tx →
    tx.request st (times n) r = .ok (none, st', tx') → leaves st' tx')
include waits each last

/-- One operation of code in the transaction keeps what the requests of its kind keep. If it breaks
off, the transaction ends, as such requests leave it. -/
theorem answer_keeps {op : TxOp ω} (granted : allowed op) (kept : keeps c.calls st tx) :
    (∃ reply st' tx', (answer times (.inside t.handle op) c).1 = some reply ∧
        (answer times (.inside t.handle op) c).2.system = s.put t st' tx' ∧
        keeps (c.calls + 1) st' tx') ∨
      ∃ st' tx', (answer times (.inside t.handle op) c).1 = none ∧
        (answer times (.inside t.handle op) c).2.system = s.close t (tx'.release st') ∧
        leaves st' tx' := by
  cases op with
  | request i r =>
      by_cases home : t.home = i
      · subst home
        have requested := System.request_put opened hi st tx (times c.calls) r
        rw [← system] at requested
        cases done : tx.request st (times c.calls) r with
        | error e =>
            rw [done] at requested
            obtain ⟨reply, system'⟩ := answer_error requested
            exact Or.inl ⟨_, st, tx, reply, system'.trans system, waits kept⟩
        | ok p =>
            obtain ⟨answer?, st', tx'⟩ := p
            rw [done] at requested
            cases answer? with
            | some answer' =>
                obtain ⟨reply, system'⟩ := answer_ok requested
                exact Or.inl ⟨_, st', tx', reply, system', each granted kept done⟩
            | none =>
                obtain ⟨reply, dropped⟩ := answer_none requested
                exact Or.inr ⟨st', tx', reply,
                  dropped.trans (System.drop_put opened hi st' tx'), last granted kept done⟩
      · have refused := System.request_put_foreign opened home st tx (times c.calls) r
        rw [← system] at refused
        obtain ⟨reply, system'⟩ := answer_error refused
        exact Or.inl ⟨_, st, tx, reply, system'.trans system, waits kept⟩
  | now => exact Or.inl ⟨_, st, tx, rfl, system, waits kept⟩
  | freshId => exact Or.inl ⟨_, st, tx, rfl, system, waits kept⟩
  | tell note => exact Or.inl ⟨_, st, tx, rfl, system, waits kept⟩

/-- **What requests of a kind keep, code keeps that asks for no others.** What is kept may speak of
the number of calls, and so of the time. If the code breaks off, its transaction ends. -/
theorem inside_keeps {p : TxProgram ω α} (uses : ∀ op ∈ asked times t.handle p c, allowed op)
    (kept : keeps c.calls st tx) :
    (∃ a st' tx', (inside times t.handle p c).1 = some a ∧
        (inside times t.handle p c).2.system = s.put t st' tx' ∧
        keeps (inside times t.handle p c).2.calls st' tx') ∨
      ∃ st' tx', (inside times t.handle p c).1 = none ∧
        (inside times t.handle p c).2.system = s.close t (tx'.release st') ∧ leaves st' tx' := by
  induction p generalizing c st tx with
  | done a => exact Or.inl ⟨a, st, tx, rfl, system, kept⟩
  | call op next ih =>
      have step (granted : allowed op) :=
        answer_keeps times opened hi system allowed keeps leaves waits each last granted kept
      cases answered : (answer times (.inside t.handle op) c).1 with
      | none =>
          rw [asked_call_none answered] at uses
          rw [inside_call_none answered]
          rcases step (uses op List.mem_cons_self) with ⟨reply, _, _, reports, -⟩ | left
          · cases answered.symm.trans reports
          · exact Or.inr (left.imp fun _ => Exists.imp fun _ left => ⟨rfl, left.2⟩)
      | some reply =>
          rw [asked_call answered] at uses
          obtain ⟨granted, uses⟩ := List.forall_mem_cons.mp uses
          rw [inside_call answered]
          rcases step granted with ⟨-, st₁, tx₁, -, system₁, kept₁⟩ | ⟨_, _, unanswered, -⟩
          · exact ih _ system₁ uses kept₁
          · cases unanswered.symm.trans answered

omit last in
/-- Code that comes to a result has kept what its requests keep. -/
theorem inside_keeps_of_some {p : TxProgram ω α} {a : α}
    (uses : ∀ op ∈ asked times t.handle p c, allowed op) (kept : keeps c.calls st tx)
    (result : (inside times t.handle p c).1 = some a) :
    ∃ st' tx', (inside times t.handle p c).2.system = s.put t st' tx' ∧
      keeps (inside times t.handle p c).2.calls st' tx' := by
  rcases inside_keeps times opened hi system allowed keeps (fun _ _ => True) waits each
    (fun _ _ _ => trivial) uses kept with ⟨-, st', tx', -, there⟩ | ⟨_, _, broken, -⟩
  · exact ⟨st', tx', there⟩
  · cases broken.symm.trans result

end AtWork

end Clocked

end MaintenanceOutbox
