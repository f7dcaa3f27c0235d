import MaintenanceOutbox.Event.UnitOfWork
import MaintenanceOutbox.Proofs.Maintenance.Services
import MaintenanceOutbox.Proofs.Maintenance.WorkOrders
import MaintenanceOutbox.Proofs.Payload.Events

set_option autoImplicit false

/-! # Events on their way from the aggregates

An event passes through three hands. The aggregate that tells it buffers it, `UnitOfWork.register`
moves the buffer into the queue of the unit of work, behind what is there, and
`UnitOfWork.collect` hands out the queue. A `Workshop` is a unit of work with any number of work
orders and assets, and its acts are the changes of these, the two moves, and events that are raised
without an aggregate. They come in any order; aggregates may be registered late, again, or never.

Every act leaves the sum as it was: what goes into a place comes out of it or is still there. For
single acts these are two equations, one for each aggregate (`Workshop.buffer_step`) and one for the
queue (`Workshop.queue_step`), and for runs their sums, from which everything else follows
(`Workshop.passesOn_run`).
-/

namespace MaintenanceOutbox

namespace MaintenanceEvent

variable {κ : Type} [EventFamily κ]

/-- When the fact happened that an event tells. -/
def occurredAt : MaintenanceEvent → Timestamp
  | .workOrder e => e.occurredAt
  | .asset e => e.occurredAt

/-- The event as it stands in a queue, with its own tag and the time at which its fact happened. -/
def queued : MaintenanceEvent → RaisedEvent (WithMaintenance κ)
  | .workOrder e => ⟨.inl .workOrder, e, e.tag, e.occurredAt⟩
  | .asset e => ⟨.inl .asset, e, e.tag, e.occurredAt⟩

/-- It does not matter when the event is raised. -/
theorem raise_eq_queued (now : Timestamp) (e : MaintenanceEvent) :
    (e.raise now : RaisedEvent (WithMaintenance κ)) = e.queued := by
  cases e <;> rfl

@[simp] theorem tag_queued (e : MaintenanceEvent) :
    (e.queued : RaisedEvent (WithMaintenance κ)).tag = e.tag := by
  cases e <;> rfl

@[simp] theorem occurredAt_queued (e : MaintenanceEvent) :
    (e.queued : RaisedEvent (WithMaintenance κ)).occurredAt = e.occurredAt := by
  cases e <;> rfl

end MaintenanceEvent

/-- **A unit of work with its aggregates**: work orders, named by `ο`, and assets, named by `α`. -/
structure Workshop (κ ο α : Type) [EventFamily κ] where
  orders : ο → WorkOrder
  assets : α → Asset
  unit : UnitOfWork (WithMaintenance κ)

namespace Workshop

variable {κ ο α : Type} [EventFamily κ]

/-- What is done in a workshop. -/
inductive Act (κ ο α : Type) [EventFamily κ] where
  | order (o : ο) (c : WorkOrder.Change)
  | asset (a : α) (v : Asset.Visit)
  | register (now : Timestamp) (p : ο ⊕ α)
  | raise (now : Timestamp) (kind : WithMaintenance κ) (body : EventFamily.Body kind)
  | collect

/-- What was done in a workshop, and what came of it. -/
inductive Entry (κ ο α : Type) [EventFamily κ] where
  /-- a change of `p` was accepted, which tells these events -/
  | accepted (p : ο ⊕ α) (events : List MaintenanceEvent)
  | refused (p : ο ⊕ α) (e : DomainError)
  /-- `p` was registered with these events in its buffer -/
  | registered (p : ο ⊕ α) (batch : List MaintenanceEvent)
  | raised (e : RaisedEvent (WithMaintenance κ))
  | collected (batch : List (RaisedEvent (WithMaintenance κ)))

/-- What was done in a workshop, the first act first. -/
abbrev Log (κ ο α : Type) [EventFamily κ] := List (Entry κ ο α)

/-- The events in the buffer of an aggregate, oldest first. -/
def buffer (w : Workshop κ ο α) : ο ⊕ α → List MaintenanceEvent
  | .inl o => (w.orders o).events.map .workOrder
  | .inr a => (w.assets a).events.map .asset

/-! ## Logs -/

/-- The events that were handed out, all batches one after the other. -/
def collected (log : Log κ ο α) : List (RaisedEvent (WithMaintenance κ)) :=
  log.flatMap fun
    | .collected batch => batch
    | _ => []

/-- **The events that arrived in the queue**, in their order, each with the aggregate that it came
from: for every registration the events that were in the buffer, and every event that was raised
without an aggregate. -/
def arrivals (log : Log κ ο α) : List (Option (ο ⊕ α) × RaisedEvent (WithMaintenance κ)) :=
  log.flatMap fun
    | .registered p batch => batch.map fun e => (some p, e.queued)
    | .raised e => [(none, e)]
    | _ => []

theorem collected_cons (x : Entry κ ο α) (log : Log κ ο α) :
    collected (x :: log) = collected [x] ++ collected log := by
  simp [collected]

theorem arrivals_cons (x : Entry κ ο α) (log : Log κ ο α) :
    arrivals (x :: log) = arrivals [x] ++ arrivals log := by
  simp [arrivals]

/-- An aggregate was never registered, or there is a last time. -/
theorem exists_last_registered (p : ο ⊕ α) (log : Log κ ο α) :
    (∀ batch, .registered p batch ∉ log) ∨
      ∃ before batch after, log = before ++ .registered p batch :: after ∧
        ∀ batch, .registered p batch ∉ after := by
  induction log with
  | nil => exact Or.inl fun _ => List.not_mem_nil
  | cons x rest ih =>
      rcases ih with never | ⟨before, batch, after, rfl, never⟩
      · by_cases here : ∃ batch, x = .registered p batch
        · obtain ⟨batch, rfl⟩ := here
          exact Or.inr ⟨[], batch, rest, rfl, never⟩
        · refine Or.inl fun batch among => ?_
          rcases List.mem_cons.mp among with this | later
          · exact here ⟨batch, this.symm⟩
          · exact never batch later
      · exact Or.inr ⟨x :: before, batch, after, rfl, never⟩

variable [DecidableEq ο] [DecidableEq α]

/-- The events that the accepted changes of an aggregate tell. -/
def told (p : ο ⊕ α) (log : Log κ ο α) : List MaintenanceEvent :=
  log.flatMap fun
    | .accepted q events => if q = p then events else []
    | _ => []

/-- The events that were moved out of the buffer of an aggregate. -/
def moved (p : ο ⊕ α) (log : Log κ ο α) : List MaintenanceEvent :=
  log.flatMap fun
    | .registered q batch => if q = p then batch else []
    | _ => []

theorem told_cons (p : ο ⊕ α) (x : Entry κ ο α) (log : Log κ ο α) :
    told p (x :: log) = told p [x] ++ told p log := by
  simp [told]

theorem moved_cons (p : ο ⊕ α) (x : Entry κ ο α) (log : Log κ ο α) :
    moved p (x :: log) = moved p [x] ++ moved p log := by
  simp [moved]

/-! ## Acts -/

/-- Register an aggregate with the unit of work. -/
def register (w : Workshop κ ο α) (now : Timestamp) : ο ⊕ α → Workshop κ ο α
  | .inl o =>
    let (unit, order) :=
      w.unit.register now (.inl .workOrder) WorkOrder.takeEvents (w.orders o)
    { w with orders := Function.update w.orders o order, unit := unit }
  | .inr a =>
    let (unit, asset) := w.unit.register now (.inl .asset) Asset.takeEvents (w.assets a)
    { w with assets := Function.update w.assets a asset, unit := unit }

/-- **One act**: what came of it, and the workshop after it. -/
def step (w : Workshop κ ο α) : Act κ ο α → Entry κ ο α × Workshop κ ο α
  | .order o c =>
    match (w.orders o).change c with
    | .ok order =>
      (.accepted (.inl o) (((w.orders o).tells c).map .workOrder),
        { w with orders := Function.update w.orders o order })
    | .error e => (.refused (.inl o) e, w)
  | .asset a v =>
    match (w.assets a).record v with
    | .ok asset =>
      (.accepted (.inr a) (((w.assets a).tells v).map .asset),
        { w with assets := Function.update w.assets a asset })
    | .error e => (.refused (.inr a) e, w)
  | .register now p => (.registered p (w.buffer p), w.register now p)
  | .raise now kind body =>
    (.raised (.raise now kind body), { w with unit := w.unit.raise now kind body })
  | .collect => (.collected w.unit.collect.1, { w with unit := w.unit.collect.2 })

/-- **One act after the other**: what came of them, and the workshop after them. -/
def run (w : Workshop κ ο α) : List (Act κ ο α) → Log κ ο α × Workshop κ ο α
  | [] => ([], w)
  | act :: rest =>
    ((w.step act).1 :: ((w.step act).2.run rest).1, ((w.step act).2.run rest).2)

/-! ## What a single act does -/

/-- **To register an aggregate without events changes nothing.** -/
theorem register_of_buffer_eq_nil {w : Workshop κ ο α} {p : ο ⊕ α} (empty : w.buffer p = [])
    (now : Timestamp) : w.register now p = w := by
  cases p with
  | inl o =>
      have nothing := WorkOrder.takeEvents_of_nil (List.map_eq_nil_iff.mp empty)
      simp [register, UnitOfWork.register, nothing]
  | inr a =>
      have nothing := Asset.takeEvents_of_nil (List.map_eq_nil_iff.mp empty)
      simp [register, UnitOfWork.register, nothing]

theorem buffer_register_self (w : Workshop κ ο α) (now : Timestamp) (p : ο ⊕ α) :
    (w.register now p).buffer p = [] := by
  cases p <;> simp [register, buffer, UnitOfWork.register, WorkOrder.takeEvents, Asset.takeEvents]

theorem buffer_register_ne (w : Workshop κ ο α) (now : Timestamp) {p q : ο ⊕ α} (other : q ≠ p) :
    (w.register now p).buffer q = w.buffer q := by
  cases p <;> cases q <;> simp_all [register, buffer]

theorem raised_register (w : Workshop κ ο α) (now : Timestamp) (p : ο ⊕ α) :
    (w.register now p).unit.raised =
      w.unit.raised ++ (w.buffer p).map MaintenanceEvent.queued := by
  cases p with
  | inl o =>
      rw [buffer, List.map_map]
      exact congrArg (w.unit.raised ++ ·) (List.map_congr_left fun e _ =>
        MaintenanceEvent.raise_eq_queued now (.workOrder e))
  | inr a =>
      rw [buffer, List.map_map]
      exact congrArg (w.unit.raised ++ ·) (List.map_congr_left fun e _ =>
        MaintenanceEvent.raise_eq_queued now (.asset e))

/-- **An aggregate loses no event**: what was in its buffer and what a change told was moved out or
is in its buffer. -/
theorem buffer_step (w : Workshop κ ο α) (act : Act κ ο α) (p : ο ⊕ α) :
    w.buffer p ++ told p [(w.step act).1] =
      moved p [(w.step act).1] ++ (w.step act).2.buffer p := by
  cases act with
  | order o c =>
      rw [step]
      split
      · next order done =>
          have events := (WorkOrder.change_eq_ok_iff.mp done).events_eq
          cases p with
          | inl q =>
              by_cases same : o = q
              · subst same
                simp [told, moved, buffer, events]
              · simp [told, moved, buffer, same, Ne.symm same]
          | inr q => simp [told, moved, buffer]
      · simp [told, moved]
  | asset a v =>
      rw [step]
      split
      · next asset done =>
          have events := congrArg Asset.events (Asset.record_eq_ok_iff.mp done).2
          cases p with
          | inl q => simp [told, moved, buffer]
          | inr q =>
              by_cases same : a = q
              · subst same
                simp [told, moved, buffer, events]
              · simp [told, moved, buffer, same, Ne.symm same]
      · simp [told, moved]
  | register now q =>
      by_cases same : q = p
      · subst same
        simp [step, told, moved, buffer_register_self]
      · simp [step, told, moved, same, buffer_register_ne w now (Ne.symm same)]
  | raise now kind body => simp [step, told, moved, buffer]
  | collect => simp [step, told, moved, buffer]

/-- **The queue loses no event**: what was in it and what arrived was handed out or is in it. -/
theorem queue_step (w : Workshop κ ο α) (act : Act κ ο α) :
    collected [(w.step act).1] ++ (w.step act).2.unit.raised =
      w.unit.raised ++ (arrivals [(w.step act).1]).map Prod.snd := by
  cases act with
  | order o c =>
      rw [step]
      split <;> simp [collected, arrivals]
  | asset a v =>
      rw [step]
      split <;> simp [collected, arrivals]
  | register now p => simp [step, collected, arrivals, raised_register, Function.comp_def]
  | raise now kind body => simp [step, collected, arrivals, UnitOfWork.raise]
  | collect => simp [step, collected, arrivals, UnitOfWork.collect, UnitOfWork.empty]

theorem step_eq_registered {w : Workshop κ ο α} {act : Act κ ο α} {p : ο ⊕ α}
    {batch : List MaintenanceEvent} (done : (w.step act).1 = .registered p batch) :
    batch = w.buffer p ∧ (w.step act).2.buffer p = [] := by
  cases act with
  | order o c =>
      rw [step] at done
      split at done <;> cases done
  | asset a v =>
      rw [step] at done
      split at done <;> cases done
  | register now _ =>
      cases done
      exact ⟨rfl, buffer_register_self w now p⟩
  | raise now kind body => cases done
  | collect => cases done

/-- To collect hands out the queue. -/
theorem step_eq_collected {w : Workshop κ ο α} {act : Act κ ο α}
    {batch : List (RaisedEvent (WithMaintenance κ))} (done : (w.step act).1 = .collected batch) :
    batch = w.unit.raised ∧ (w.step act).2 = { w with unit := .empty } := by
  cases act with
  | order o c =>
      rw [step] at done
      split at done <;> cases done
  | asset a v =>
      rw [step] at done
      split at done <;> cases done
  | register now p => cases done
  | raise now kind body => cases done
  | collect =>
      cases done
      exact ⟨rfl, rfl⟩

/-! ## What a run does -/

theorem buffer_run (w : Workshop κ ο α) (acts : List (Act κ ο α)) (p : ο ⊕ α) :
    w.buffer p ++ told p (w.run acts).1 = moved p (w.run acts).1 ++ (w.run acts).2.buffer p := by
  induction acts generalizing w with
  | nil => exact List.append_nil _
  | cons act rest ih =>
      let x := (w.step act).1
      let w₁ := (w.step act).2
      calc w.buffer p ++ told p (x :: (w₁.run rest).1)
          = (w.buffer p ++ told p [x]) ++ told p (w₁.run rest).1 := by
            rw [told_cons, List.append_assoc]
        _ = moved p [x] ++ (w₁.buffer p ++ told p (w₁.run rest).1) := by
            rw [buffer_step, List.append_assoc]
        _ = moved p (x :: (w₁.run rest).1) ++ (w₁.run rest).2.buffer p := by
            rw [ih, moved_cons p x (w₁.run rest).1, List.append_assoc]

theorem queue_run (w : Workshop κ ο α) (acts : List (Act κ ο α)) :
    collected (w.run acts).1 ++ (w.run acts).2.unit.raised =
      w.unit.raised ++ (arrivals (w.run acts).1).map Prod.snd := by
  induction acts generalizing w with
  | nil => exact (List.append_nil _).symm
  | cons act rest ih =>
      let x := (w.step act).1
      let w₁ := (w.step act).2
      calc collected (x :: (w₁.run rest).1) ++ (w₁.run rest).2.unit.raised
          = collected [x] ++ (collected (w₁.run rest).1 ++ (w₁.run rest).2.unit.raised) := by
            rw [collected_cons x, List.append_assoc]
        _ = (collected [x] ++ w₁.unit.raised) ++ (arrivals (w₁.run rest).1).map Prod.snd := by
            rw [ih, List.append_assoc]
        _ = w.unit.raised ++ (arrivals (x :: (w₁.run rest).1)).map Prod.snd := by
            rw [queue_step, arrivals_cons x (w₁.run rest).1, List.map_append, List.append_assoc]

/-- Where the log can be cut, the run can. -/
theorem run_cut {w : Workshop κ ο α} {acts : List (Act κ ο α)} {before after : Log κ ο α}
    {x : Entry κ ο α} (cut : (w.run acts).1 = before ++ x :: after) :
    ∃ first act rest, acts = first ++ act :: rest ∧ (w.run first).1 = before ∧
      ((w.run first).2.step act).1 = x ∧
        ((w.run first).2.step act).2.run rest = (after, (w.run acts).2) := by
  induction before generalizing w acts with
  | nil =>
      cases acts with
      | nil => cases cut
      | cons act rest =>
          obtain ⟨here, later⟩ := List.cons.inj cut
          exact ⟨[], act, rest, rfl, rfl, here, Prod.ext later rfl⟩
  | cons y before ih =>
      cases acts with
      | nil => cases cut
      | cons act rest =>
          obtain ⟨here, later⟩ := List.cons.inj cut
          obtain ⟨first, act', rest', rfl, log, entry, remaining⟩ := ih later
          refine ⟨act :: first, act', rest', rfl, ?_, entry, remaining⟩
          rw [run, here, log]

/-- **From one registration on**: what an aggregate has told since then has been moved, or is in its
buffer. -/
theorem told_since {w : Workshop κ ο α} {acts : List (Act κ ο α)} {before after : Log κ ο α}
    {p : ο ⊕ α} {batch : List MaintenanceEvent}
    (cut : (w.run acts).1 = before ++ .registered p batch :: after) :
    told p after = moved p after ++ (w.run acts).2.buffer p := by
  obtain ⟨first, act, rest, -, -, entry, remaining⟩ := run_cut cut
  have balance := buffer_run ((w.run first).2.step act).2 rest p
  rw [(step_eq_registered entry).2, remaining] at balance
  exact balance

/-- **From one collect on**: what was in the queue by then was handed out, and what arrived since
then has been handed out, or is in it. -/
theorem queue_since {w : Workshop κ ο α} {acts : List (Act κ ο α)} {before after : Log κ ο α}
    {batch : List (RaisedEvent (WithMaintenance κ))}
    (cut : (w.run acts).1 = before ++ .collected batch :: after) :
    collected before ++ batch = w.unit.raised ++ (arrivals before).map Prod.snd ∧
      collected after ++ (w.run acts).2.unit.raised = (arrivals after).map Prod.snd := by
  obtain ⟨first, act, rest, -, rfl, entry, remaining⟩ := run_cut cut
  obtain ⟨rfl, emptied⟩ := step_eq_collected entry
  -- the rest of the run begins with an empty queue
  have later := queue_run ((w.run first).2.step act).2 rest
  rw [remaining, emptied] at later
  exact ⟨queue_run w first, later⟩

/-! ## Events since the last registration -/

/-- **What an aggregate has told since it was registered last**, if it had the events `start` in its
buffer at the beginning of the log. -/
inductive Since (start : List MaintenanceEvent) (p : ο ⊕ α) (log : Log κ ο α) :
    List MaintenanceEvent → Prop where
  | never (never : ∀ batch, .registered p batch ∉ log) : Since start p log (start ++ told p log)
  | last (before after : Log κ ο α) (batch : List MaintenanceEvent)
      (log_eq : log = before ++ .registered p batch :: after)
      (never : ∀ batch, .registered p batch ∉ after) : Since start p log (told p after)

/-- If an aggregate was not registered, nothing was moved out of its buffer. -/
theorem moved_eq_nil {p : ο ⊕ α} {log : Log κ ο α} (never : ∀ batch, .registered p batch ∉ log) :
    moved p log = [] := by
  refine List.flatMap_eq_nil_iff.mpr fun x hx => ?_
  cases x with
  | registered q batch => exact if_neg fun (same : q = p) => never batch (same ▸ hx)
  | accepted q events => rfl
  | refused q e => rfl
  | raised e => rfl
  | collected batch => rfl

/-- **A buffer holds what was told since the last registration.** -/
theorem since_buffer (w : Workshop κ ο α) (acts : List (Act κ ο α)) (p : ο ⊕ α) :
    Since (w.buffer p) p (w.run acts).1 ((w.run acts).2.buffer p) := by
  rcases exists_last_registered p (w.run acts).1 with never | ⟨before, batch, after, cut, never⟩
  · have balance := buffer_run w acts p
    rw [moved_eq_nil never, List.nil_append] at balance
    exact balance ▸ .never never
  · have since := told_since cut
    rw [moved_eq_nil never, List.nil_append] at since
    exact since ▸ .last before after batch cut never

/-- What arrived from an aggregate is what was moved out of its buffer. -/
theorem filter_arrivals (p : ο ⊕ α) (log : Log κ ο α) :
    (arrivals log).filter (·.1 = some p) = (moved p log).map fun e => (some p, e.queued) := by
  induction log with
  | nil => rfl
  | cons x rest ih =>
      rw [arrivals_cons, moved_cons, List.filter_append, List.map_append, ih]
      refine congrArg (· ++ _) ?_
      cases x with
      | registered q batch =>
          by_cases same : q = p
          · simp [arrivals, moved, same]
          · simp [arrivals, moved, same]
      | accepted q events => rfl
      | refused q e => rfl
      | raised e => rfl
      | collected batch => rfl

/-- **Events pass from the aggregates to the queue and out of it, once and in order.** The log `log`
leads from the workshop `w` to `w'`. What was handed out, followed by what is queued, is what was
queued in the beginning, followed by all that arrived (`queue`). A batch that is handed out is all
that was queued by then, so that only what arrived since then is left for later (`collects`), and
the next one will be what is queued now (`empties`). A registration moves the events that its
aggregate told since the registration before (`batches`). What an aggregate had and told is what was
moved out of its buffer, and behind that what is in it (`once`), and exactly what was moved arrived
from it (`sources`), each event with its own tag and time (`faithful`). To register an aggregate
again that told nothing since changes nothing (`again`). -/
structure PassesOn (w : Workshop κ ο α) (log : Log κ ο α) (w' : Workshop κ ο α) : Prop where
  queue : collected log ++ w'.unit.raised = w.unit.raised ++ (arrivals log).map Prod.snd
  collects : ∀ before batch after, log = before ++ .collected batch :: after →
    collected before ++ batch = w.unit.raised ++ (arrivals before).map Prod.snd ∧
      collected after ++ w'.unit.raised = (arrivals after).map Prod.snd
  empties : w'.step .collect = (.collected w'.unit.raised, { w' with unit := .empty })
  batches : ∀ before p batch after, log = before ++ .registered p batch :: after →
    Since (w.buffer p) p before batch
  once : ∀ p, w.buffer p ++ told p log = moved p log ++ w'.buffer p
  sources : ∀ p,
    (arrivals log).filter (·.1 = some p) = (moved p log).map fun e => (some p, e.queued)
  faithful : ∀ p x, (some p, x) ∈ arrivals log → ∃ e ∈ w.buffer p ++ told p log,
    x = e.queued ∧ x.tag = e.tag ∧ x.occurredAt = e.occurredAt
  again : ∀ before p batch after, log = before ++ .registered p batch :: after →
    told p after = [] → ∀ now, w'.step (.register now p) = (.registered p [], w')

/-- **Events pass to the queue exactly once**, whatever is done in a workshop, in any order. -/
theorem passesOn_run (w : Workshop κ ο α) (acts : List (Act κ ο α)) :
    PassesOn w (w.run acts).1 (w.run acts).2 := by
  refine ⟨queue_run w acts, fun _ _ _ => queue_since, rfl, ?_, buffer_run w acts,
    fun p => filter_arrivals p _, ?_, ?_⟩
  · intro before p batch after cut
    obtain ⟨first, act, rest, -, rfl, entry, -⟩ := run_cut cut
    rw [(step_eq_registered entry).1]
    exact since_buffer w first p
  · intro p x arrived
    have here : (some p, x) ∈ (arrivals (w.run acts).1).filter (·.1 = some p) :=
      List.mem_filter.mpr ⟨arrived, decide_eq_true rfl⟩
    rw [filter_arrivals] at here
    obtain ⟨e, out, same⟩ := List.mem_map.mp here
    cases same
    refine ⟨e, ?_, rfl, e.tag_queued, e.occurredAt_queued⟩
    rw [buffer_run]
    exact List.mem_append_left _ out
  · intro before p batch after cut nothing now
    have since := told_since cut
    rw [nothing] at since
    have empty : (w.run acts).2.buffer p = [] := (List.append_eq_nil_iff.mp since.symm).2
    rw [step, register_of_buffer_eq_nil empty, empty]

/-- The event of a work order and one that was raised leave together, and nothing leaves twice. -/
example (order : WorkOrder) (asset : Asset) (told : WorkOrderEvent) (now : Timestamp)
    (kind : WithMaintenance κ) (body : EventFamily.Body kind) :
    let w : Workshop κ Unit Unit :=
      ⟨fun _ => { order with events := [told] }, fun _ => asset, .empty⟩
    let e := RaisedEvent.raise now kind body
    (w.run [.register now (.inl ()), .raise now kind body, .collect, .collect]).1 =
      [.registered (.inl ()) [.workOrder told], .raised e,
        .collected [(MaintenanceEvent.workOrder told).queued, e], .collected []] :=
  rfl

end Workshop

end MaintenanceOutbox
