import MaintenanceOutbox.Worker.Delivery

set_option autoImplicit false

/-! # What handlers ask for

Deferred handlers may succeed, fail or lose connectivity as they like; what is asked of them is that
they keep to some operations. If every handler of a registry keeps to the `allowed` ones, and
looking at the clock is among them, then so does a whole delivery (`Worker.uses_deliver`).

One such request is that handlers touch a store only by adding messages (`Registry.AddsOnly`).
-/

namespace MaintenanceOutbox

/-- An operation that touches a store only by adding a message. -/
def TxOp.AddsOnly {ω : Type} : TxOp ω → Prop
  | .request _ (.add _) => True
  | .request _ _ => False
  | _ => True

variable {κ ω : Type} [EventFamily κ]

/-- **The deferred handlers keep to the allowed operations.** -/
def Registry.DeferredUse (r : Registry κ ω) (allowed : TxOp ω → Prop) : Prop :=
  ∀ route ∈ r.routes, ∀ h ∈ route.deferred, ∀ body,
    (h.handle body).run.Uses (I := TxInterface ω) allowed

/-- **The deferred handlers touch stores only by adding messages.** -/
def Registry.AddsOnly (r : Registry κ ω) : Prop :=
  ∀ route ∈ r.routes, ∀ h ∈ route.deferred, ∀ body,
    (h.handle body).run.Uses (I := TxInterface ω) TxOp.AddsOnly

/-- A program that may fail uses what its parts use. -/
theorem Program.uses_exceptT_bind {I : Interface} {allowed : I.Op → Prop} {ε α β : Type}
    {p : ExceptT ε (Program I) α} {f : α → ExceptT ε (Program I) β}
    (hp : p.run.Uses allowed) (hf : ∀ a, (f a).run.Uses allowed) :
    (p >>= f).run.Uses allowed := by
  refine Program.Uses.bind (p := p.run) hp ?_
  intro result
  cases result with
  | ok a => exact hf a
  | error e => trivial

variable {allowed : TxOp ω → Prop}

theorem Handler.uses_invoke {h : Handler κ (DeferredM ω)}
    (uses : ∀ body, (h.handle body).run.Uses (I := TxInterface ω) allowed) (e : RaisedEvent κ) :
    (h.invoke e).run.Uses (I := TxInterface ω) allowed := by
  rw [Handler.invoke]
  split
  · exact uses _
  · trivial

theorem Registry.uses_invokeAll {handlers : List (Handler κ (DeferredM ω))}
    (uses : ∀ h ∈ handlers, ∀ body, (h.handle body).run.Uses (I := TxInterface ω) allowed)
    (e : RaisedEvent κ) :
    (Registry.invokeAll handlers e).run.Uses (I := TxInterface ω) allowed := by
  -- one after the other, up to the first failure
  have all : (handlers.forM fun h => h.invoke e : DeferredM ω Unit).run.Uses (I := TxInterface ω)
      allowed := by
    induction handlers with
    | nil => trivial
    | cons h rest ih =>
        refine Program.uses_exceptT_bind (h.uses_invoke (uses h List.mem_cons_self) e) ?_
        intro _
        exact ih fun h' hh' => uses h' (List.mem_cons_of_mem h hh')
  refine Program.uses_exceptT_bind all ?_
  intro _
  trivial

/-- **A delivery uses what its handlers use,** and the clock. -/
theorem Worker.uses_deliver {w : Worker κ ω} (clock : allowed .now)
    (uses : w.registry.DeferredUse allowed) (m : QueuedMessage) :
    (w.deliver m).run.Uses (I := TxInterface ω) allowed := by
  refine Program.uses_exceptT_bind (p := ExceptT.lift TxProgram.now) ⟨clock, fun _ => trivial⟩ ?_
  intro now
  split
  · trivial
  · next event _ =>
      rw [Registry.dispatchDeferred]
      split
      · next route found =>
          exact Registry.uses_invokeAll (uses route (List.mem_of_find?_eq_some found)) event
      · trivial

end MaintenanceOutbox
