import MaintenanceOutbox.Proofs.Delivery.Courses
import MaintenanceOutbox.Proofs.Delivery.HandOver
import MaintenanceOutbox.Proofs.Store.Remaining

set_option autoImplicit false

/-! # A worker drains its store

A worker that is asked for one message after the other gets to the end: after finitely many
deliveries nothing is claimable, and then everything is settled (`Worker.drains`). Deliveries may
fail, messages may be unroutable or undecodable, and a failing message is claimed again at once. But
every delivery takes one of the attempts that are left to the rows (`Worker.processNext_goesOn`), so
that there are at most as many deliveries as attempts.

The handlers may do with their transaction what they like, except that they add no messages and
leave the savepoint alone; and they do not report that connectivity was lost, as such a message is
given back and would be claimed for ever (`Registry.Steady`).
-/

namespace MaintenanceOutbox

open Clocked

variable {κ ω α β : Type} [EventFamily κ]

/-! ## Handlers -/

/-- An operation that neither adds a message nor has to do with the savepoint. -/
def TxOp.Plain : TxOp ω → Prop
  | .request _ r => r.Plain
  | _ => True

/-- It never ends with lost connectivity. -/
def DeferredM.Connected (p : DeferredM ω α) : Prop :=
  ∀ times tx (c : Clocked ω) reason,
    (inside times tx p.run c).1 ≠ some (.error (.connectivity reason))

/-- **Handlers that get a message out of the way**, sooner or later: they add none, leave the
savepoint alone, and do not report lost connectivity. -/
structure Registry.Steady (r : Registry κ ω) : Prop where
  plain : r.DeferredUse TxOp.Plain
  connected : ∀ route ∈ r.routes, ∀ h ∈ route.deferred, ∀ body, (h.handle body).Connected

namespace DeferredM

theorem connected_pure (a : α) : (pure a : DeferredM ω α).Connected :=
  fun _ _ _ _ failed => nomatch failed

theorem connected_throw {e : HandlerError} (other : e.isConnectivity = false) :
    (throw e : DeferredM ω α).Connected := by
  intro times tx c reason failed
  have same : some (Except.error e : Except HandlerError α) =
      some (.error (.connectivity reason)) := failed
  cases same
  cases other

theorem connected_lift (p : TxProgram ω α) : Connected (ExceptT.lift p : DeferredM ω α) := by
  intro times tx c reason failed
  cases result : (inside times tx p c).1 with
  | some a =>
      rw [inside_lift result] at failed
      cases failed
  | none =>
      have broken : (inside times tx (ExceptT.lift p : DeferredM ω α).run c).1 = none :=
        congrArg Prod.fst (inside_bind_none result _)
      cases broken.symm.trans failed

theorem Connected.bind {p : DeferredM ω α} {f : α → DeferredM ω β} (first : p.Connected)
    (second : ∀ a, (f a).Connected) : (p >>= f).Connected := by
  intro times tx c reason failed
  rcases result : (inside times tx p.run c).1 with _ | e | a
  · rw [inside_bind_broken result] at failed
    cases failed
  · rw [inside_bind_error result] at failed
    cases failed
    exact first times tx c reason result
  · rw [inside_bind_ok result] at failed
    exact second a times tx _ reason failed

end DeferredM

theorem Registry.connected_invokeAll {handlers : List (Handler κ (DeferredM ω))}
    (connected : ∀ h ∈ handlers, ∀ body, (h.handle body).Connected) (e : RaisedEvent κ) :
    (Registry.invokeAll handlers e).Connected := by
  have each : ∀ h ∈ handlers, (h.invoke e : DeferredM ω Unit).Connected := by
    intro h hh
    rw [Handler.invoke]
    split
    · exact connected h hh _
    · exact DeferredM.connected_throw rfl
  have all : (handlers.forM fun h => h.invoke e : DeferredM ω Unit).Connected := by
    clear connected
    induction handlers with
    | nil => exact DeferredM.connected_pure ()
    | cons h rest ih =>
        refine DeferredM.Connected.bind (each h List.mem_cons_self) fun _ => ?_
        exact ih fun h' hh' => each h' (List.mem_cons_of_mem h hh')
  exact all.bind fun _ => DeferredM.connected_pure _

/-- A message that cannot be decoded or routed fails, and connectivity is not lost either. -/
theorem Worker.connected_deliver {w : Worker κ ω} (steady : w.registry.Steady) (m : QueuedMessage) :
    (w.deliver m).Connected := by
  refine (DeferredM.connected_lift TxProgram.now).bind fun now => ?_
  split
  · exact DeferredM.connected_throw rfl
  · next event _ =>
      rw [Registry.dispatchDeferred]
      split
      · next route found =>
          exact Registry.connected_invokeAll
            (steady.connected route (List.mem_of_find?_eq_some found)) event
      · exact DeferredM.connected_pure 0

/-! ## One delivery -/

namespace Worker

variable (times : Nat → Timestamp) {w : Worker κ ω} {c : Clocked ω}

/-- What a transaction at work on a message keeps: it only locked rows, goes on with the rows, and
could return to where it had not changed anything. -/
structure Serves (st₀ : Store) (id : MessageId) (st : Store) (tx : Tx) : Prop where
  only : tx.OnlyLocks st₀ st
  on : tx.GoesOn st
  savepoint : tx.savepoint = some {}
  held : id ∈ tx.locks

theorem Serves.rows_eq {st₀ st : Store} {id : MessageId} {tx : Tx} (serves : Serves st₀ id st tx) :
    st.rows = st₀.rows := by
  rw [serves.only.tables]

theorem Serves.plain {st₀ st st' : Store} {id : MessageId} {tx tx' : Tx} {now : Timestamp}
    {r : TxRequest} {answer? : Option r.Answer} (serves : Serves st₀ id st tx) (plain : r.Plain)
    (left : ∀ row ∈ st₀.rows, row.message.isPending = true → row.message.HasAttempts)
    (done : tx.request st now r = .ok (answer?, st', tx')) : Serves st₀ id st' tx' := by
  have moves := Tx.request_moves done
  have rows := serves.rows_eq
  exact ⟨serves.only.moves moves, moves.goesOn plain serves.on (rows ▸ left),
    (moves.savepoint_eq plain.leavesSavepoint).trans serves.savepoint,
    moves.locks_subset serves.held⟩

/-- **What is left of a store by one delivery**: the store goes on, is ready again, and has fewer
attempts left. -/
structure Progresses (st st' : Store) : Prop where
  on : st.GoesOn st'
  ready : st'.Ready
  fewer : st'.attemptsLeft < st.attemptsLeft

/-- The commit of a transaction that went on with the rows and used up an attempt. -/
theorem progresses_commit {st₀ st : Store} {tx : Tx} (ready : st₀.Ready)
    (only : tx.OnlyLocks st₀ st) (on : tx.GoesOn st) {row : Row} (hrow : row ∈ st₀.rows)
    (fewer : ((tx.committedView st row.id).map (·.attemptsLeft)).getD 0 <
      row.message.attemptsLeft) : Progresses st₀ (tx.commit st) := by
  have rows : st.rows = st₀.rows := by rw [only.tables]
  have on' := on.of_rows rows.symm
  rw [Tx.committedView_of_rows tx rows] at fewer
  rw [only.commit]
  exact ⟨on'.apply ready.tidy, on'.ready ready, on'.attemptsLeft_lt ready.tidy hrow fewer⟩

section AtWork

variable {s : System} {t : OpenTx} {st₀ st : Store} {tx : Tx} {row : Row}
  (opened : s.open? t.handle = some t) (hi : t.home.index < s.stores.length)
  (home : t.home = w.store) (system : c.system = s.put t st tx) (ready : st₀.Ready)
  (hrow : row ∈ st₀.rows) (pending : row.message.isPending = true)
  (serves : Serves st₀ row.id st tx)
include opened hi home system ready hrow pending serves

/-- After handlers that succeed, the message does not wait any more. -/
theorem succeed_progresses (handlers : Nat) :
    ∃ st', (run times (w.succeed t.handle row.message handlers) c).1 =
        some (.ok (some (.processed row.id handlers))) ∧
      (run times (w.succeed t.handle row.message handlers) c).2.system = s.close t st' ∧
        Progresses st₀ st' := by
  have rows := serves.rows_eq
  have left : 0 < row.message.attemptsLeft := by
    have within := (ready.left row hrow pending).toNat_succ_le
    rw [QueuedMessage.attemptsLeft, if_pos pending]
    omega
  have marks : ∀ now, ∃ st' tx', ({ tx with savepoint := none } : Tx).markProcessed st now
      row.message.id = .ok (st', tx') ∧ Progresses st₀ (tx'.commit st') := by
    intro now
    have released : ({ tx with savepoint := none } : Tx).GoesOn st := serves.on.of_changes rfl
    have only : ({ tx with savepoint := none } : Tx).OnlyLocks st₀ st :=
      ⟨serves.only.tables, serves.only.free⟩
    obtain ⟨tx', marked, on', waits⟩ := released.mark serves.held now (rows ▸ ready.left)
    refine ⟨st, tx', marked, progresses_commit ready (only.moves (Tx.markProcessed_moves marked))
      on' hrow ?_⟩
    cases seen : tx'.committedView st row.id with
    | none => exact left
    | some m =>
        have settled : m.attemptsLeft = 0 := by
          rw [QueuedMessage.attemptsLeft, waits m seen]
          rfl
        rw [Option.map_some, Option.getD_some, settled]
        exact left
  obtain ⟨st', tx', marked, progresses⟩ := marks (times (c.calls + 1))
  obtain ⟨answer, system', -⟩ := run_succeed times (w := w) opened hi home system serves.savepoint
    marked handlers
  exact ⟨tx'.commit st', answer, system', progresses⟩

/-- After a handler that fails, the message has one attempt less, or is a dead letter. -/
theorem fail_progresses (e : HandlerError) :
    ∃ outcome st', (run times (w.fail t.handle row.message e) c).1 = some (.ok (some outcome)) ∧
      (run times (w.fail t.handle row.message e) c).2.system = s.close t st' ∧
        Progresses st₀ st' := by
  have rows := serves.rows_eq
  have tidy : st.Tidy := by
    rw [serves.only.tables]
    exact ready.tidy.of_locked _
  have counts : ∀ now, ∃ outcome st' tx', ({ tx with changes := {} } : Tx).incrementRetry st now
      row.message.id e.message = .ok (some outcome, st', tx') ∧
        Progresses st₀ (tx'.commit st') := by
    intro now
    have only : ({ tx with changes := {} } : Tx).OnlyLocks st₀ st :=
      ⟨serves.only.tables, serves.only.free⟩
    have held : row.id ∈ ({ tx with changes := {} } : Tx).locks := serves.held
    obtain ⟨outcome, tx', counted, on', fewer⟩ := Tx.count_of_empty tidy rfl (rows ▸ hrow) held
      pending (rows ▸ ready.left) now e.message
    exact ⟨outcome, st, tx', counted, progresses_commit ready
      (only.moves (Tx.incrementRetry_moves counted)) on' hrow fewer⟩
  obtain ⟨outcome, st', tx', counted, progresses⟩ := counts (times (c.calls + 2))
  obtain ⟨answer, system', -⟩ := run_fail times (w := w) opened hi home system serves.savepoint e
    counted
  exact ⟨_, tx'.commit st', answer, system', progresses⟩

/-- **Whatever the handlers report,** short of lost connectivity, the message is settled. -/
theorem settle_progresses {result : Except HandlerError Nat}
    (connected : ∀ reason, result ≠ .error (.connectivity reason)) :
    ∃ outcome st',
      (run times (w.settle t.handle row.message result) c).1 = some (.ok (some outcome)) ∧
      (run times (w.settle t.handle row.message result) c).2.system = s.close t st' ∧
        Progresses st₀ st' := by
  cases result with
  | ok handlers =>
      obtain ⟨st', answer, system', progresses⟩ :=
        succeed_progresses times opened hi home system ready hrow pending serves handlers
      exact ⟨_, st', answer, system', progresses⟩
  | error e =>
      have counted : ¬ e.isConnectivity = true := by
        intro lost
        cases e with
        | connectivity reason => exact connected reason rfl
        | domain | failed => cases lost
      rw [settle, if_neg counted]
      exact fail_progresses times opened hi home system ready hrow pending serves e

end AtWork

/-- A pending row of a store that is ready is offered, so that a claim finds something. -/
theorem delivered_of_claimNext_none {st st' : Store} {tx' : Tx} (ready : st.Ready)
    (done : ({} : Tx).claimNext st = .ok (none, st', tx')) :
    ∀ r ∈ st.rows, r.message.isPending = false := by
  intro r hr
  cases pending : r.message.isPending with
  | false => rfl
  | true =>
      have free : ({} : Tx).lockedElsewhere st r.id = false := by
        simp [Tx.lockedElsewhere, Store.isLocked, ready.unlocked]
      obtain ⟨m, after, claimed⟩ := (Store.offers_of_hasAttempts ready.tidy hr pending
        (ready.left r hr pending)).claimed {} List.not_mem_nil free
      rw [claimed] at done
      cases done

/-- The transaction of a delivery, as the handlers find it. -/
theorem serves_of_claimNext {st st' : Store} {m : QueuedMessage} {tx' : Tx} (ready : st.Ready)
    (done : ({} : Tx).claimNext st = .ok (some m, st', tx')) :
    ∃ row ∈ st.rows, row.message = m ∧ m.isPending = true ∧
      Serves st row.id st' tx'.setSavepoint := by
  obtain ⟨fresh, ⟨row, found, here⟩, claimable⟩ := Tx.claimNext_fresh done
  have only := (Tx.OnlyLocks.start st).moves (Tx.claimNext_moves done)
  have tidy : st'.Tidy := by
    rw [only.tables]
    exact ready.tidy.of_locked _
  refine ⟨row, Store.mem_of_row? found, here, QueuedMessage.isPending_of_isClaimable claimable,
    ⟨only.tables, only.free⟩, Tx.goesOn_of_empty tidy ?_, ?_, ?_⟩
  · rw [fresh]
    rfl
  · rw [fresh]
    rfl
  · rw [fresh, Store.id_of_row? found]
    exact List.mem_singleton.mpr rfl

/-- **One delivery** on a store that is ready, with nobody else at work. Nothing is claimable and
nothing pending, or a message is settled one way or the other, which takes an attempt. -/
theorem processNext_goesOn (steady : w.registry.Steady) (orderly : c.system.Orderly)
    (hi : w.store.index < c.system.stores.length) (ready : (c.system.store w.store).Ready) :
    ((run times w.processNext c).1 = some (.ok none) ∧
        (∀ r ∈ (c.system.store w.store).rows, r.message.isPending = false) ∧
        (run times w.processNext c).2.system =
          c.system.later w.store (c.system.store w.store)) ∨
      ∃ outcome st', (run times w.processNext c).1 = some (.ok (some outcome)) ∧
        (run times w.processNext c).2.system = c.system.later w.store st' ∧
        Progresses (c.system.store w.store) st' := by
  have opened := System.open?_next orderly w.store
  obtain ⟨m?, st₁, tx₁, done⟩ : ∃ m? st₁ tx₁,
      ({} : Tx).claimNext (c.system.store w.store) = .ok (m?, st₁, tx₁) := by
    rcases Tx.claimNext_cases {} (c.system.store w.store) with
      ⟨answer, -⟩ | ⟨m, -, answer⟩ | ⟨r, -, st', tx', -, answer⟩ <;> exact ⟨_, _, _, answer⟩
  cases m? with
  | none =>
      obtain ⟨answer, system, -⟩ := run_processNext_unclaimed times orderly hi done
      exact Or.inl ⟨answer, delivered_of_claimNext_none ready done, system⟩
  | some m =>
      obtain ⟨row, hrow, rfl, pending, serves⟩ := serves_of_claimNext ready done
      -- the handlers go on with the rows that are there, and come to a result
      obtain ⟨result, st₂, tx₂, reports, system₂, serves₂⟩ :=
        (inside_keeps times opened hi (system_handedOver times orderly hi done) TxOp.Plain
          (fun _ => Serves (c.system.store w.store) row.id) (fun _ _ => False)
          (fun serves => serves)
          (fun plain serves done => serves.plain plain ready.left done)
          (fun _ serves done => serves.on.request_ne (serves.rows_eq ▸ ready.left) done)
          (asked_of_uses times (Worker.uses_deliver trivial steady.plain row.message) _ _)
          serves).resolve_right fun ⟨_, _, _, _, never⟩ => never
      have connected : ∀ reason, result ≠ .error (.connectivity reason) := by
        rintro reason rfl
        exact connected_deliver steady row.message times _ (w.handedOver times c) reason reports
      obtain ⟨outcome, st', answer, system', progresses⟩ := settle_progresses times
        (w := w) opened hi rfl system₂ ready hrow pending serves₂ connected
      refine Or.inr ⟨outcome, st', ?_⟩
      rw [run_processNext_claimed times orderly hi done reports]
      exact ⟨answer, system'.trans (System.close_beginTx orderly w.store _), progresses⟩

/-! ## All deliveries -/

variable (w)

/-- **The worker delivers until nothing is claimable**, with the given outcomes. -/
inductive Drains : Clocked ω → List MessageOutcome → Clocked ω → Prop where
  | empty {c c' : Clocked ω} (none : run times w.processNext c = (some (.ok none), c')) :
      Drains c [] c'
  | next {c c' c'' : Clocked ω} {outcome : MessageOutcome} {later : List MessageOutcome}
      (settled : run times w.processNext c = (some (.ok (some outcome)), c'))
      (rest : Drains c' later c'') :
      Drains c (outcome :: later) c''

variable {w}

/-- A worker gets to the end of a store that is ready. -/
theorem drains_of_ready (steady : w.registry.Steady) (orderly : c.system.Orderly)
    (hi : w.store.index < c.system.stores.length) (ready : (c.system.store w.store).Ready) :
    ∃ outcomes c', w.Drains times c outcomes c' ∧
      outcomes.length ≤ (c.system.store w.store).attemptsLeft ∧
      (c.system.store w.store).GoesOn (c'.system.store w.store) ∧
      (∀ r ∈ (c'.system.store w.store).rows, r.message.isPending = false) ∧
      (c'.system.store w.store).Ready := by
  -- the attempts that are left go down with every delivery
  induction left : (c.system.store w.store).attemptsLeft using Nat.strong_induction_on
    generalizing c with
  | _ n ih =>
      rcases processNext_goesOn times steady orderly hi ready with
        ⟨answer, delivered, system⟩ | ⟨outcome, st', answer, system, progresses⟩
      · have store : (run times w.processNext c).2.system.store w.store =
            c.system.store w.store := by
          rw [system, System.store_later hi]
        refine ⟨[], (run times w.processNext c).2, .empty (Prod.ext answer rfl), Nat.zero_le _, ?_⟩
        rw [store]
        exact ⟨.refl _, delivered, ready⟩
      · have store : (run times w.processNext c).2.system.store w.store = st' := by
          rw [system, System.store_later hi]
        have fewer := progresses.fewer
        obtain ⟨outcomes, c', drains, bound, on, delivered, ready'⟩ :=
          ih st'.attemptsLeft (left ▸ fewer)
            (by rw [system]; exact System.orderly_later orderly st')
            (by rw [system, System.length_stores_later]; exact hi)
            (by rw [store]; exact progresses.ready) (by rw [store])
        rw [store] at on
        refine ⟨outcome :: outcomes, c', .next (Prod.ext answer rfl) drains, ?_,
          progresses.on.trans on, delivered, ready'⟩
        rw [List.length_cons]
        omega

end Worker

/-! ## From a reachable store -/

/-- **Everything is settled**: nothing waits any more, pending rows are delivered or dead letters,
and the rest is as it was before. -/
structure Store.Settled (before after : Store) : Prop where
  waiting : ∀ r ∈ after.rows, r.message.isPending = false
  pending : ∀ id r, before.row? id = some r → r.message.isPending = true →
    (∃ m, after.row? id = some ⟨r.seq, m⟩ ∧ m.isPending = false ∧ after.deadLetter? id = none) ∨
      after.row? id = none ∧ ∃ d, after.deadLetter? id = some d
  processed : ∀ id r, before.row? id = some r → r.message.isPending = false →
    after.row? id = some r
  deadLetters : ∀ id d, before.deadLetter? id = some d → after.deadLetter? id = some d
  nothingNew : ∀ id, before.row? id = none →
    after.row? id = none ∧ after.deadLetter? id = before.deadLetter? id

/-- A store that went on to an end is settled. -/
theorem Store.GoesOn.settled {before after : Store} (on : before.GoesOn after)
    (ready : before.Ready) (ready' : after.Ready)
    (waiting : ∀ r ∈ after.rows, r.message.isPending = false) : before.Settled after := by
  refine ⟨waiting, ?_, ?_, ?_, on.other⟩
  · intro id r found _
    rcases on.row id r found with ⟨m, found', -⟩ | ⟨-, gone, dead⟩
    · have alive := (ready'.apart id).resolve_left (by simp [found'])
      exact Or.inl ⟨m, found', waiting _ (Store.mem_of_row? found'), alive⟩
    · exact Or.inr ⟨gone, dead⟩
  · intro id r found delivered
    rcases on.row id r found with ⟨m, found', went⟩ | ⟨pending, -⟩
    · rw [found', went.final delivered]
    · rw [delivered] at pending
      cases pending
  · intro id d found
    have noRow := (ready.apart id).resolve_right (by simp [found])
    rw [(on.other id noRow).2, found]

/-- **Draining ends, and settles everything.** Take any state that a store can reach in which no
transaction is open on it, no message is in both tables, and all pending rows have attempts left.
A worker with steady handlers that is asked for one message after the other gets to the point where
nothing is claimable, without an error, after at most as many deliveries as the pending rows have
attempts left; and then everything is settled. -/
theorem Worker.drains {n : Nat} {w : Worker κ ω} (hi : w.store.index < n)
    (steady : w.registry.Steady) {calls : List Call} (times : Nat → Timestamp) {c : Clocked ω}
    (reached : c.system = (System.ofSize n).run calls) (quiet : c.system.openOn w.store = [])
    (apart : ∀ id, (c.system.store w.store).row? id = none ∨
      (c.system.store w.store).deadLetter? id = none)
    (left : ∀ r ∈ (c.system.store w.store).rows, r.message.isPending = true →
      r.message.retryCount < r.message.maxRetries) :
    ∃ outcomes c', w.Drains times c outcomes c' ∧
      outcomes.length ≤ (c.system.store w.store).attemptsLeft ∧
      (c.system.store w.store).Settled (c'.system.store w.store) := by
  have ready : (c.system.store w.store).Ready := by
    refine ⟨?_, ?_, apart, left⟩
    · rw [reached]
      exact System.tidy_run hi calls
    · rw [reached] at quiet ⊢
      exact System.locked_eq_nil hi quiet
  have orderly : c.system.Orderly := by
    rw [reached]
    exact System.orderly_run (System.orderly_ofSize n) calls
  have hi' : w.store.index < c.system.stores.length := by
    rw [reached]
    exact System.index_lt_run hi calls
  obtain ⟨outcomes, c', drains, bound, on, waiting, ready'⟩ :=
    Worker.drains_of_ready times steady orderly hi' ready
  exact ⟨outcomes, c', drains, bound, on.settled ready ready' waiting⟩

/-! ## Errands

A worker with a handler that succeeds and one that never does, on a store with a message for each of
them, one that cannot be decoded, and one that has no route.
-/

/-- The two event types of errands. -/
inductive Errand where
  | done
  | futile
deriving DecidableEq

instance : EventFamily Errand where
  decEq := inferInstance
  Body _ := Unit
  typeName _ := "Errand"
  tags
    | .done => ["done"]
    | .futile => ["futile"]
  tag
    | .done, _ => "done"
    | .futile, _ => "futile"
  occurredAt _ now _ := now
  write _ _ := .ok .null
  read _
    | .null => .ok ()
    | _ => .error (.wrongLength 1 "no fields")

namespace Errand

/-- A handler that looks at what is claimable besides, and succeeds. -/
def succeeding : Handler Errand (DeferredM Unit) where
  kind := .done
  handle _ := do
    let _ ← ExceptT.lift (TxProgram.request ⟨0⟩ .claimNext)
    pure ()

/-- A handler that never succeeds. -/
def failing : Handler Errand (DeferredM Unit) where
  kind := .futile
  handle _ := throw (.failed "in vain")

/-- The worker with these handlers. -/
def runner : Worker Errand Unit where
  name := "errands"
  store := ⟨0⟩
  registry := ⟨[{ tag := "done", owner := .done, deferred := [succeeding] },
    { tag := "futile", owner := .futile, deferred := [failing] }]⟩
  batchSize := 1
  pollMs := 0

/-- Four messages, with two attempts for the one that will fail. -/
def given : List Call :=
  [.beginTx ⟨0⟩,
    .request default ⟨0⟩ ⟨0⟩ (.add ((QueuedMessage.fresh ⟨.ofNat 1⟩ default "futile"
      .null).withMaxRetries 2)),
    .request default ⟨0⟩ ⟨0⟩ (.add (.fresh ⟨.ofNat 2⟩ default "done" .null)),
    .request default ⟨0⟩ ⟨0⟩ (.add ((QueuedMessage.fresh ⟨.ofNat 3⟩ default "done"
      (.bool true)).withMaxRetries 1)),
    .request default ⟨0⟩ ⟨0⟩ (.add ((QueuedMessage.fresh ⟨.ofNat 4⟩ default "unknown"
      .null).withMaxRetries 1)),
    .commit ⟨0⟩ ⟨0⟩]

/-- The host on which the worker starts. -/
def start : Clocked Unit where
  host := { system := (System.ofSize 1).run given, clock := default, names := fun _ => default }

theorem steady : runner.registry.Steady := by
  refine ⟨?_, ?_⟩
  · intro route hroute h hh body
    rcases List.mem_cons.mp hroute with rfl | hroute
    · obtain rfl := List.mem_singleton.mp hh
      exact ⟨trivial, fun _ => trivial⟩
    · obtain rfl := List.mem_singleton.mp hroute
      obtain rfl := List.mem_singleton.mp hh
      trivial
  · intro route hroute h hh body
    rcases List.mem_cons.mp hroute with rfl | hroute
    · obtain rfl := List.mem_singleton.mp hh
      exact (DeferredM.connected_lift _).bind fun _ => DeferredM.connected_pure ()
    · obtain rfl := List.mem_singleton.mp hroute
      obtain rfl := List.mem_singleton.mp hh
      exact DeferredM.connected_throw rfl

end Errand

theorem Worker.drains_errands :
    (Errand.start.system.store ⟨0⟩).attemptsLeft = 7 ∧
      ∃ outcomes c', Errand.runner.Drains (fun _ => default) Errand.start outcomes c' ∧
        outcomes.length ≤ 7 ∧
        (Errand.start.system.store ⟨0⟩).Settled (c'.system.store ⟨0⟩) := by
  refine ⟨rfl, ?_⟩
  refine Worker.drains (w := Errand.runner) Nat.one_pos Errand.steady (fun _ => default) rfl rfl ?_
    ?_
  · intro id
    exact Or.inr rfl
  · decide

end MaintenanceOutbox
