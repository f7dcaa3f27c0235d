import MaintenanceOutbox.Proofs.Delivery.HandOver
import MaintenanceOutbox.Worker.RunLoop
import Mathlib

set_option autoImplicit false

/-! # Lost connectivity costs nothing

A handler that loses connectivity in the middle of a delivery may have done anything with the
transaction before, and so may the handlers in front of it: write, take locks, set the savepoint
anew or return to it. None of that is left. The transaction is abandoned, and all that it did to the
tables was to lock rows (`Worker.processNext_lost`).

The batch in which that happens ends there. What it handled before is committed, and nothing is
asked of the host after the abandoned delivery (`Worker.connectivity_costs_nothing`). The tables may
be any at all.
-/

namespace MaintenanceOutbox

open Clocked

theorem System.later_self (s : System) (i : StoreId) :
    s.later i (s.store i) = { s with begun := s.begun + 1 } := by
  rw [later, setStore_store]

variable {κ ω : Type} [EventFamily κ] {times : Nat → Timestamp}

namespace Worker

/-- Run a handler's code in the transaction of the delivery that begins on `c`. -/
def insideDelivery (times : Nat → Timestamp) (w : Worker κ ω) (c : Clocked ω)
    (p : DeferredM ω Unit) (c₁ : Clocked ω) : Option (Except HandlerError Unit) × Clocked ω :=
  inside times (c.system.next w.store).handle p.run c₁

/-- **The first handler that fails in a delivery of `m` loses connectivity**: the message decodes,
the handlers in front succeed, and this one reports the loss. -/
inductive LosesConnectivity (times : Nat → Timestamp) (w : Worker κ ω) (c : Clocked ω)
    (m : QueuedMessage) (reason : String) : Prop where
  | intro {e : RaisedEvent κ} {route : Route κ ω} {before after : List (Handler κ (DeferredM ω))}
      {h : Handler κ (DeferredM ω)}
      (decoded : w.registry.decode (times (w.handedOver times c).calls) m.eventType m.payload =
        .ok e)
      (found : w.registry.route? e.tag = some route)
      (handlers : route.deferred = before ++ h :: after)
      (succeed : (w.insideDelivery times c (before.forM fun h => h.invoke e)
        (w.decoding times c)).1 = some (.ok ()))
      (fails : (w.insideDelivery times c (h.invoke e) (w.insideDelivery times c
        (before.forM fun h => h.invoke e) (w.decoding times c)).2).1 =
          some (.error (.connectivity reason))) :
      LosesConnectivity times w c m reason

variable {w : Worker κ ω} {c : Clocked ω} {m : QueuedMessage} {reason : String}

/-- A store that cannot be reached is lost connectivity for the handler that passes this on. -/
theorem LosesConnectivity.of_store {e : RaisedEvent κ} {route : Route κ ω}
    {before after : List (Handler κ (DeferredM ω))} {h : Handler κ (DeferredM ω)}
    {lost : StoreError}
    (decoded : w.registry.decode (times (w.handedOver times c).calls) m.eventType m.payload =
      .ok e)
    (found : w.registry.route? e.tag = some route)
    (handlers : route.deferred = before ++ h :: after)
    (succeed : (w.insideDelivery times c (before.forM fun h => h.invoke e)
      (w.decoding times c)).1 = some (.ok ()))
    (fails : (w.insideDelivery times c (h.invoke e) (w.insideDelivery times c
      (before.forM fun h => h.invoke e) (w.decoding times c)).2).1 =
        some (.error lost.toHandlerError))
    (unreachable : lost.isConnectivity = true) : w.LosesConnectivity times c m lost.message := by
  rw [StoreError.toHandlerError, if_pos unreachable] at fails
  exact .intro decoded found handlers succeed fails

/-- The handlers report what the first one reports that fails. -/
theorem LosesConnectivity.handled (lost : w.LosesConnectivity times c m reason) :
    (w.handled times m c).1 = some (.error (.connectivity reason)) := by
  cases lost with
  | @intro e route before after h decoded found handlers succeed fails =>
      let first : DeferredM ω Unit := before.forM fun h => h.invoke e
      let last : DeferredM ω Unit := after.forM fun h => h.invoke e
      have split : (Registry.invokeAll route.deferred e : DeferredM ω Nat) =
          first >>= fun _ => h.invoke e >>= fun _ => last >>= fun _ =>
            pure route.deferred.length := by
        rw [Registry.invokeAll, handlers]
        simp only [List.forM_eq_forM, List.forM_append, List.forM_cons, bind_assoc]
        rfl
      have succeed' : (inside times (c.system.next w.store).handle first.run
          (w.decoding times c)).1 = some (.ok ()) := succeed
      have fails' : (inside times (c.system.next w.store).handle (h.invoke e).run
          (inside times (c.system.next w.store).handle first.run (w.decoding times c)).2).1 =
            some (.error (.connectivity reason)) := fails
      rw [Worker.handled, inside_deliver, deliverAt, decoded]
      dsimp only
      rw [Registry.dispatchDeferred, found]
      show (inside times _ (Registry.invokeAll route.deferred e : DeferredM ω Nat).run
        (w.decoding times c)).1 = _
      rw [split, inside_bind_ok succeed', inside_bind_error fails']

/-- **A message that is given back**: the delivery reports the loss, and the system is as before. -/
theorem processNext_lost (orderly : c.system.Orderly) (hi : w.store.index < c.system.stores.length)
    {st : Store} {tx : Tx}
    (claimed : ({} : Tx).claimNext (c.system.store w.store) = .ok (some m, st, tx))
    (lost : (w.handled times m c).1 = some (.error (.connectivity reason))) :
    (run times w.processNext c).1 =
        some (.error (.infrastructure ("infrastructure unavailable: " ++ reason))) ∧
      (run times w.processNext c).2.system =
        { c.system with begun := c.system.begun + 1 } := by
  have opened := System.open?_next orderly w.store
  have only := (Tx.OnlyLocks.start (c.system.store w.store)).moves (Tx.claimNext_moves claimed)
  -- whatever the handlers did, it did no more to the tables than to lock rows
  obtain ⟨st', tx', system', only'⟩ := inside_keeps_of_some times opened hi
    (system_handedOver times orderly hi claimed) (fun _ => True)
    (fun _ st tx => tx.OnlyLocks (c.system.store w.store) st) (fun only => only)
    (fun _ only done => only.moves (Tx.request_moves done)) (fun _ _ => trivial)
    (show tx.setSavepoint.OnlyLocks (c.system.store w.store) st from ⟨only.tables, only.free⟩) lost
  let failed := (answer times (.enter .failed) (w.handled times m c).2).2
  obtain ⟨-, closed⟩ := answer_rollback times (c := failed) opened hi system'
  have gone := System.close_beginTx orderly w.store (c.system.store w.store)
  rw [only'.release] at closed
  rw [run_processNext_claimed times orderly hi claimed lost]
  refine ⟨rfl, ?_⟩
  rw [← System.later_self c.system w.store]
  exact closed.trans gone

/-! ## Batches -/

/-- **The worker handles messages** one after the other, with the given outcomes. -/
inductive Handles (times : Nat → Timestamp) (w : Worker κ ω) :
    Clocked ω → List MessageOutcome → Clocked ω → Prop where
  | none (c : Clocked ω) : Handles times w c [] c
  | next {c c' : Clocked ω} {outcome : MessageOutcome} {outcomes : List MessageOutcome}
      (first : (run times w.processNext c).1 = some (.ok (some outcome)))
      (rest : Handles times w (run times w.processNext c).2 outcomes c') :
      Handles times w c (outcome :: outcomes) c'

/-- A batch goes on with the messages that are left, if nobody watches for the stop signal. -/
theorem run_deliverUpTo_succ {result : Result} (first : (run times w.processNext c).1 = some result)
    (left : Nat) (report : BatchReport) :
    run times (w.deliverUpTo false (left + 1) report) c =
      run times (match result with
        | .ok (some outcome) => w.deliverUpTo false left (report.record outcome)
        | .ok none => pure (.ok { report with drained := true })
        | .error e => pure (.error e)) (run times w.processNext c).2 :=
  run_bind first _

/-- The messages that were handled are behind the batch. -/
theorem Handles.run_deliverUpTo {outcomes : List MessageOutcome} {c₁ : Clocked ω}
    (handles : w.Handles times c outcomes c₁) (left : Nat) (report : BatchReport) :
    run times (w.deliverUpTo false (outcomes.length + left) report) c =
      run times (w.deliverUpTo false left (outcomes.foldl .record report)) c₁ := by
  induction handles generalizing report with
  | none c => rw [List.length_nil, Nat.zero_add, List.foldl_nil]
  | next first rest ih =>
      rw [List.length_cons, Nat.add_right_comm, run_deliverUpTo_succ first, List.foldl_cons]
      exact ih _

/-- A batch ends with a delivery that is given up. -/
theorem Handles.run_batch_error {outcomes : List MessageOutcome} {c₁ : Clocked ω} {e : WorkerError}
    (handles : w.Handles times c outcomes c₁) (room : outcomes.length < w.batchSize)
    (failed : (run times w.processNext c₁).1 = some (.error e)) :
    run times (w.batch false) c = (some (.error e), (run times w.processNext c₁).2) := by
  obtain ⟨left, size⟩ := Nat.exists_eq_add_of_lt room
  rw [batch, size, Nat.add_assoc, handles.run_deliverUpTo, run_deliverUpTo_succ failed]
  rfl

/-- **Lost connectivity costs nothing.** -/
theorem connectivity_costs_nothing (orderly : c.system.Orderly)
    (hi : w.store.index < c.system.stores.length) {st : Store} {tx : Tx}
    (claimed : ({} : Tx).claimNext (c.system.store w.store) = .ok (some m, st, tx))
    (lost : w.LosesConnectivity times c m reason) :
    (run times w.processNext c).1 =
        some (.error (.infrastructure ("infrastructure unavailable: " ++ reason))) ∧
      (run times w.processNext c).2.system = { c.system with begun := c.system.begun + 1 } ∧
      ∀ c₀ outcomes, w.Handles times c₀ outcomes c → outcomes.length < w.batchSize →
        run times (w.batch false) c₀ =
          (some (.error (.infrastructure ("infrastructure unavailable: " ++ reason))),
            (run times w.processNext c).2) := by
  obtain ⟨failed, system⟩ := processNext_lost orderly hi claimed lost.handled
  exact ⟨failed, system, fun c₀ outcomes handles room => handles.run_batch_error room failed⟩

end Worker

/-! ## Beacons

Two messages about beacons that are lit. Whenever one is delivered, a failure is counted on the
second one, and a savepoint is set in place of the worker's. Then the beacon is looked for, which
ends with lost connectivity for the second one.
-/

/-- What happens to beacons. -/
inductive Beacon where
  | lit
deriving DecidableEq

instance : EventFamily Beacon where
  decEq := inferInstance
  Body _ := Bool
  typeName _ := "Beacon"
  tags _ := ["beacon.lit"]
  tag _ _ := "beacon.lit"
  occurredAt _ now _ := now
  write _ visible := .ok (.bool visible)
  read _
    | .bool visible => .ok visible
    | _ => .error (.wrongLength 1 "no beacon")

namespace Beacon

/-- A message about a beacon. -/
def message (name : Nat) (visible : Bool) : QueuedMessage :=
  .fresh ⟨.ofNat name⟩ default "beacon.lit" (.bool visible)

/-- A handler that leaves traces. -/
def noting : Handler Beacon (DeferredM Unit) where
  kind := .lit
  handle _ := do
    let _ ← ExceptT.lift (TxProgram.request ⟨0⟩ (.incrementRetry ⟨.ofNat 2⟩ "far away"))
    let _ ← ExceptT.lift (TxProgram.request ⟨0⟩ .savepoint)
    pure ()

/-- What keeps a beacon from being seen. -/
def fog : StoreError :=
  .connectivity "look" "fog"

/-- A handler that looks for the beacon. -/
def looking : Handler Beacon (DeferredM Unit) where
  kind := .lit
  handle
    | true => pure ()
    | false => throw fog.toHandlerError

/-- The worker with these handlers. -/
def keeper : Worker Beacon Unit where
  name := "keeper"
  store := ⟨0⟩
  registry := ⟨[{ tag := "beacon.lit", owner := .lit, deferred := [noting, looking] }]⟩
  batchSize := 2
  pollMs := 0

/-- Two messages. -/
def given : List Call :=
  [.beginTx ⟨0⟩, .request default ⟨0⟩ ⟨0⟩ (.add (message 1 true)),
    .request default ⟨0⟩ ⟨0⟩ (.add (message 2 false)), .commit ⟨0⟩ ⟨0⟩]

/-- The host on which the keeper begins. -/
def start : Clocked Unit where
  host := { system := (System.ofSize 1).run given, clock := default, names := fun _ => default }

/-- The host after the first message. -/
abbrev later : Clocked Unit :=
  (run (fun _ => default) keeper.processNext start).2

/-- The second message, as it is by then. -/
def second : QueuedMessage :=
  (message 2 false).afterFailure "far away"

end Beacon

theorem Worker.connectivity_costs_nothing_beacons :
    Beacon.keeper.Handles (fun _ => default) Beacon.start [.processed ⟨.ofNat 1⟩ 2] Beacon.later ∧
      run (fun _ => default) (Beacon.keeper.batch false) Beacon.start =
        (some (.error (.infrastructure
            "infrastructure unavailable: outbox store unavailable during look: fog")),
          (run (fun _ => default) Beacon.keeper.processNext Beacon.later).2) ∧
      (run (fun _ => default) Beacon.keeper.processNext Beacon.later).2.system =
        { Beacon.later.system with begun := Beacon.later.system.begun + 1 } ∧
      (Beacon.later.system.store ⟨0⟩).message? ⟨.ofNat 2⟩ = some Beacon.second := by
  have handles : Beacon.keeper.Handles (fun _ => default) Beacon.start [.processed ⟨.ofNat 1⟩ 2]
      Beacon.later := .next (by decide +kernel) (.none _)
  have claimed : ({} : Tx).claimNext (Beacon.later.system.store ⟨0⟩) = .ok (some Beacon.second,
      (Beacon.later.system.store ⟨0⟩).lock ⟨.ofNat 2⟩, { locks := [⟨.ofNat 2⟩] }) := by cbv
  have succeed : (Beacon.keeper.insideDelivery (fun _ => default) Beacon.later
      ([Beacon.noting].forM fun h => h.invoke (RaisedEvent.raise default Beacon.lit false))
      (Beacon.keeper.decoding (fun _ => default) Beacon.later)).1 = some (.ok ()) := by
    decide +kernel
  -- the other one reports the same on any host
  have fails : ∀ c : Clocked Unit, (Beacon.keeper.insideDelivery (fun _ => default) Beacon.later
      (Beacon.looking.invoke (RaisedEvent.raise default Beacon.lit false)) c).1 =
        some (.error Beacon.fog.toHandlerError) := fun _ => rfl
  have lost : Beacon.keeper.LosesConnectivity (fun _ => default) Beacon.later Beacon.second
      Beacon.fog.message :=
    .of_store rfl rfl (show _ = [Beacon.noting] ++ Beacon.looking :: [] from rfl) succeed
      (fails _) rfl
  have closed : Beacon.later.system.transactions = [] :=
    List.eq_nil_of_length_eq_zero (by decide +kernel)
  have orderly : Beacon.later.system.Orderly := by
    intro t ht
    rw [closed] at ht
    exact absurd ht List.not_mem_nil
  have hi : Beacon.keeper.store.index < Beacon.later.system.stores.length := by decide +kernel
  obtain ⟨-, system, batch⟩ := Worker.connectivity_costs_nothing (w := Beacon.keeper) orderly hi
    claimed lost
  exact ⟨handles, batch _ _ handles Nat.one_lt_two, system, by cbv⟩

end MaintenanceOutbox
