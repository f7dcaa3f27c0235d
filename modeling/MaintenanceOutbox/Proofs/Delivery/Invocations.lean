import MaintenanceOutbox.Proofs.Delivery.HandOver
import MaintenanceOutbox.Proofs.Routing.Registration

set_option autoImplicit false

/-! # Which handlers a delivery calls

The handlers of a message are those on the route of its tag. They are called in turn, with the body
of the event, each on the host that the one before it left behind, up to the first one that does not
succeed (`InTurn`). That is what a delivery does from the decoding of its message to its verdict
(`Worker.dispatches`), and one that succeeds has called all of them, and reports their number
(`Worker.Dispatches.all_called`).
-/

namespace MaintenanceOutbox

open Clocked

variable {κ ω : Type} [EventFamily κ]

/-! ## Calls of handlers -/

/-- **A call of a handler**: with which event, and on which host. -/
structure Invocation (κ ω : Type) [EventFamily κ] where
  event : RaisedEvent κ
  handler : Handler κ (DeferredM ω)
  host : Clocked ω

/-- **What one call comes to**, and the host after it: a handler is run on the body of the event if
that is of its type, and refuses the event otherwise. -/
inductive Called (times : Nat → Timestamp) (tx : TxHandle) (e : RaisedEvent κ)
    (h : Handler κ (DeferredM ω)) (c : Clocked ω) :
    Option (Except HandlerError Unit) × Clocked ω → Prop where
  | runs {body : EventFamily.Body h.kind} (takes : e.bodyAs? h.kind = some body) :
      Called times tx e h c (inside times tx (h.handle body).run c)
  | refuses (other : e.bodyAs? h.kind = none) :
      Called times tx e h c
        (some (.error (.wrongType e.tag (EventFamily.typeName h.kind))), c)

/-- **Handlers are called in turn**, up to the first one that does not succeed: the calls that are
made of the listed handlers from the host `c` on, and what comes out. -/
inductive InTurn (times : Nat → Timestamp) (tx : TxHandle) (e : RaisedEvent κ) :
    List (Handler κ (DeferredM ω)) → Clocked ω → List (Invocation κ ω) →
      Option (Except HandlerError Unit) × Clocked ω → Prop where
  | done (c : Clocked ω) : InTurn times tx e [] c [] (some (.ok ()), c)
  | next {h : Handler κ (DeferredM ω)} {rest : List (Handler κ (DeferredM ω))} {c c₁ : Clocked ω}
      {calls : List (Invocation κ ω)} {out : Option (Except HandlerError Unit) × Clocked ω}
      (succeeds : Called times tx e h c (some (.ok ()), c₁))
      (later : InTurn times tx e rest c₁ calls out) :
      InTurn times tx e (h :: rest) c (⟨e, h, c⟩ :: calls) out
  | stops {h : Handler κ (DeferredM ω)} {rest : List (Handler κ (DeferredM ω))} {c : Clocked ω}
      {out : Option (Except HandlerError Unit) × Clocked ω} (called : Called times tx e h c out)
      (fails : out.1 ≠ some (.ok ())) :
      InTurn times tx e (h :: rest) c [⟨e, h, c⟩] out

/-- The calls of handlers for an event, one after the other up to the first that does not succeed.
-/
def invocations (times : Nat → Timestamp) (tx : TxHandle) (e : RaisedEvent κ) :
    List (Handler κ (DeferredM ω)) → Clocked ω → List (Invocation κ ω)
  | [], _ => []
  | h :: rest, c =>
    ⟨e, h, c⟩ :: match inside times tx (h.invoke e : DeferredM ω Unit).run c with
      | (some (.ok ()), c') => invocations times tx e rest c'
      | _ => []

section Dispatch

variable (times : Nat → Timestamp) (tx : TxHandle) (e : RaisedEvent κ)

theorem called_invoke (h : Handler κ (DeferredM ω)) (c : Clocked ω) :
    Called times tx e h c (inside times tx (h.invoke e : DeferredM ω Unit).run c) := by
  rw [Handler.invoke]
  cases body : e.bodyAs? h.kind with
  | some body' => exact .runs body
  | none => exact .refuses body

/-- **A dispatch calls its handlers in turn.** -/
theorem inTurn_forM (handlers : List (Handler κ (DeferredM ω))) (c : Clocked ω) :
    InTurn times tx e handlers c (invocations times tx e handlers c)
      (inside times tx (handlers.forM fun h => h.invoke e : DeferredM ω Unit).run c) := by
  induction handlers generalizing c with
  | nil => exact .done c
  | cons h rest ih =>
      have called := called_invoke times tx e h c
      let others : Unit → DeferredM ω Unit := fun _ => rest.forM fun h => h.invoke e
      show InTurn times tx e (h :: rest) c (invocations times tx e (h :: rest) c)
        (inside times tx ((h.invoke e : DeferredM ω Unit) >>= others).run c)
      rcases first : inside times tx (h.invoke e : DeferredM ω Unit).run c with
        ⟨_ | failure | ⟨⟩, c₁⟩ <;> rw [first] at called <;> rw [invocations, first]
      · rw [inside_bind_broken (congrArg Prod.fst first) others, first]
        exact .stops called (by rintro ⟨⟩)
      · rw [inside_bind_error (congrArg Prod.fst first) others, first]
        exact .stops called (by rintro ⟨⟩)
      · rw [inside_bind_ok (congrArg Prod.fst first) others, first]
        exact .next called (ih c₁)

/-- Afterwards they are counted. -/
theorem inside_invokeAll (handlers : List (Handler κ (DeferredM ω))) (c : Clocked ω) :
    inside times tx (Registry.invokeAll handlers e : DeferredM ω Nat).run c =
      ((inside times tx (handlers.forM fun h => h.invoke e : DeferredM ω Unit).run c).1.map
          (·.map fun _ => handlers.length),
        (inside times tx (handlers.forM fun h => h.invoke e : DeferredM ω Unit).run c).2) := by
  let count : Unit → DeferredM ω Nat := fun _ => pure handlers.length
  rcases all : inside times tx (handlers.forM fun h => h.invoke e : DeferredM ω Unit).run c with
    ⟨_ | failure | ⟨⟩, c₁⟩
  · exact (inside_bind_broken (congrArg Prod.fst all) count).trans (by rw [all]; rfl)
  · exact (inside_bind_error (congrArg Prod.fst all) count).trans (by rw [all]; rfl)
  · exact (inside_bind_ok (congrArg Prod.fst all) count).trans (by rw [all]; rfl)

end Dispatch

namespace InTurn

variable {times : Nat → Timestamp} {tx : TxHandle} {e : RaisedEvent κ}
  {handlers : List (Handler κ (DeferredM ω))} {c : Clocked ω} {calls : List (Invocation κ ω)}
  {out : Option (Except HandlerError Unit) × Clocked ω}

/-- **If all succeed, then all were called.** -/
theorem all_called (turn : InTurn times tx e handlers c calls out) (ok : out.1 = some (.ok ())) :
    calls.map (·.handler) = handlers := by
  induction turn with
  | done c => rfl
  | next succeeds later ih => rw [List.map_cons, ih ok]
  | stops called fails => exact absurd ok fails

end InTurn

/-! ## Deliveries -/

/-- The deferred handlers of a tag, in order. -/
def Registry.deferredOf (r : Registry κ ω) (tag : String) : List (Handler κ (DeferredM ω)) :=
  (r.route? tag).elim [] (·.deferred)

namespace Worker

variable (times : Nat → Timestamp) (w : Worker κ ω)

/-- The calls of handlers in a delivery of `m` that begins on `c`. -/
def invokedFor (m : QueuedMessage) (c : Clocked ω) : List (Invocation κ ω) :=
  match w.registry.decode (times (c.calls + 5)) m.eventType m.payload with
  | .error _ => []
  | .ok e =>
    invocations times (c.system.next w.store).handle e (w.registry.deferredOf m.eventType)
      (w.decoding times c)

/-- **Which handlers a delivery of `m` calls** that begins on `c`, and what it makes of them: those
of the message's tag, in turn. If all succeed, they are counted; otherwise the first one that does
not is what the delivery comes to. What cannot be decoded reaches none of them. -/
structure Dispatches (m : QueuedMessage) (c : Clocked ω) : Prop where
  undecodable : ∀ e, w.registry.decode (times (c.calls + 5)) m.eventType m.payload = .error e →
    w.invokedFor times m c = [] ∧ (w.handled times m c).1 = some (.error (.failed e.message))
  decoded : ∀ e, w.registry.decode (times (c.calls + 5)) m.eventType m.payload = .ok e →
    ∃ result c₁, InTurn times (c.system.next w.store).handle e
        (w.registry.deferredOf m.eventType) (w.decoding times c) (w.invokedFor times m c)
        (result, c₁) ∧
      w.handled times m c =
        (result.map (·.map fun _ => (w.registry.deferredOf m.eventType).length), c₁)

/-- **Every delivery dispatches its message.** -/
theorem dispatches (m : QueuedMessage) (c : Clocked ω) : w.Dispatches times m c := by
  have handled : w.handled times m c = inside times (c.system.next w.store).handle
      (w.deliverAt m (times (c.calls + 5))).run (w.decoding times c) := by
    rw [Worker.handled, inside_deliver, calls_handedOver]
    rfl
  refine ⟨fun e bad => ?_, fun e decoded => ?_⟩
  · rw [invokedFor, handled, deliverAt, bad]
    exact ⟨rfl, rfl⟩
  · have tag := (Registry.decode_cases decoded).2.1
    have dispatch : w.deliverAt m (times (c.calls + 5)) =
        (Registry.invokeAll (w.registry.deferredOf m.eventType) e : DeferredM ω Nat) := by
      rw [deliverAt, decoded]
      dsimp only
      rw [Registry.dispatchDeferred, tag, Registry.deferredOf]
      cases w.registry.route? m.eventType <;> rfl
    have calls : w.invokedFor times m c = invocations times (c.system.next w.store).handle e
        (w.registry.deferredOf m.eventType) (w.decoding times c) := by
      rw [invokedFor, decoded]
    rw [calls, handled, dispatch, inside_invokeAll]
    exact ⟨_, _, inTurn_forM times _ e _ _, rfl⟩

variable {times w} {m : QueuedMessage} {c : Clocked ω}

namespace Dispatches

variable (dispatches : w.Dispatches times m c) {handlers : Nat}
  (ok : (w.handled times m c).1 = some (.ok handlers))
include dispatches ok

/-- Of a delivery whose handlers succeed, the message was decoded, and all handlers of its tag were
called. -/
theorem all_called : ∃ e, w.registry.decode (times (c.calls + 5)) m.eventType m.payload = .ok e ∧
    (w.invokedFor times m c).map (·.handler) = w.registry.deferredOf m.eventType ∧
      handlers = (w.registry.deferredOf m.eventType).length := by
  cases decoded : w.registry.decode (times (c.calls + 5)) m.eventType m.payload with
  | error e =>
      rw [(dispatches.undecodable e decoded).2] at ok
      cases ok
  | ok e =>
      obtain ⟨result, c₁, turn, handled⟩ := dispatches.decoded e decoded
      rw [handled] at ok
      obtain ⟨verdict, rfl, counted⟩ := Option.map_eq_some_iff.mp ok
      cases verdict with
      | error failure => cases counted
      | ok _ =>
          cases counted
          exact ⟨e, rfl, turn.all_called rfl, rfl⟩

/-- **The number that a delivery reports is that of its calls.** -/
theorem length_invokedFor : (w.invokedFor times m c).length = handlers := by
  obtain ⟨e, -, all, count⟩ := dispatches.all_called ok
  rw [count, ← all, List.length_map]

end Dispatches

end Worker

end MaintenanceOutbox
