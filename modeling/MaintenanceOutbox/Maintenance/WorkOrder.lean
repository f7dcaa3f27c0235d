import MaintenanceOutbox.Identity.Id
import MaintenanceOutbox.Time.Rfc3339

set_option autoImplicit false

/-! # Work orders

A work order asks for something to be done at an asset. It is opened with a title, assigned to a
technician, as often as necessary, and completed once, which needs a technician. A completed order
does not change any more. Every accepted change counts up the version; opening and completing leave
an event in the buffer.
-/

namespace MaintenanceOutbox

/-- An order was opened. -/
structure WorkOrderOpened where
  workOrderId : AggregateId
  assetId : AggregateId
  title : String
  occurredAt : Timestamp
deriving DecidableEq

/-- An order was completed. -/
structure WorkOrderCompleted where
  workOrderId : AggregateId
  assetId : AggregateId
  technician : String
  occurredAt : Timestamp
deriving DecidableEq

/-- What happens to work orders. -/
inductive WorkOrderEvent where
  | opened (fact : WorkOrderOpened)
  | completed (fact : WorkOrderCompleted)
deriving DecidableEq

/-- Is there still something to do? -/
inductive WorkOrderStatus where
  | open_
  | completed
deriving DecidableEq, Repr

/-- Something to be done at an asset. -/
structure WorkOrder where
  id : AggregateId
  assetId : AggregateId
  title : String
  technician : Option String
  status : WorkOrderStatus
  version : Nat
  /-- events that no unit of work has taken yet, oldest first -/
  events : List WorkOrderEvent
deriving DecidableEq

/-- The name of a status. -/
def WorkOrderStatus.name : WorkOrderStatus → String
  | .open_ => "open"
  | .completed => "completed"

namespace WorkOrder

/-- The refusal of a change to an order that is completed. -/
def notOpen : DomainError :=
  .conflict "work order is not open"

/-- A new order. Its title must not be blank. -/
def openFor (id assetId : AggregateId) (title : String) (time : Timestamp) :
    Except DomainError WorkOrder :=
  if Text.isBlank title then .error (.validation "title cannot be empty")
  else .ok ⟨id, assetId, title, none, .open_, 1, [.opened ⟨id, assetId, title, time⟩]⟩

/-- Give the order to a technician, whose name must not be blank. -/
def assign (w : WorkOrder) (technician : String) : Except DomainError WorkOrder :=
  if w.status ≠ .open_ then .error notOpen
  else if Text.isBlank technician then .error (.validation "technician cannot be empty")
  else .ok { w with technician := some technician, version := w.version + 1 }

/-- Complete the order. -/
def complete (w : WorkOrder) (time : Timestamp) : Except DomainError WorkOrder :=
  if w.status ≠ .open_ then .error notOpen
  else
    match w.technician with
    | none => .error (.invariantViolation "work order has no technician")
    | some technician =>
      .ok
        { w with
          status := .completed
          version := w.version + 1
          events := w.events ++ [.completed ⟨w.id, w.assetId, technician, time⟩] }

/-- The events in the buffer, and the order with an empty buffer. -/
def takeEvents (w : WorkOrder) : List WorkOrderEvent × WorkOrder :=
  (w.events, { w with events := [] })

end WorkOrder

namespace WorkOrderEvent

/-- The name of the fact that an event tells. -/
def tag : WorkOrderEvent → String
  | .opened _ => "maintenance.work_order.opened"
  | .completed _ => "maintenance.work_order.completed"

/-- The names of all facts that events of work orders tell. -/
def tags : List String :=
  ["maintenance.work_order.opened", "maintenance.work_order.completed"]

/-- When the fact happened. -/
def occurredAt : WorkOrderEvent → Timestamp
  | .opened fact => fact.occurredAt
  | .completed fact => fact.occurredAt

/-- An event as a payload. -/
def toJson : WorkOrderEvent → Json
  | .opened fact =>
    .obj
      [("Opened",
        .obj
          [("asset_id", fact.assetId.toJson), ("occurred_at", fact.occurredAt.toJson),
            ("title", .str fact.title), ("work_order_id", fact.workOrderId.toJson)])]
  | .completed fact =>
    .obj
      [("Completed",
        .obj
          [("asset_id", fact.assetId.toJson), ("occurred_at", fact.occurredAt.toJson),
            ("technician", .str fact.technician), ("work_order_id", fact.workOrderId.toJson)])]

/-- The fields of an opening, in the order of an array. -/
def openedFields : List Reader.Field :=
  [Reader.field "work_order_id" AggregateId.reader, Reader.field "asset_id" AggregateId.reader,
    Reader.field "title" Reader.string, Reader.field "occurred_at" Timestamp.reader]

/-- An opening in a JSON value. -/
def openedReader : Reader WorkOrderOpened := fun v => do
  let ms ← Reader.members "WorkOrderOpened" openedFields false v
  let workOrderId ← Reader.required ms "work_order_id" AggregateId.reader
  let assetId ← Reader.required ms "asset_id" AggregateId.reader
  let title ← Reader.required ms "title" Reader.string
  let occurredAt ← Reader.required ms "occurred_at" Timestamp.reader
  pure ⟨workOrderId, assetId, title, occurredAt⟩

/-- The fields of a completion, in the order of an array. -/
def completedFields : List Reader.Field :=
  [Reader.field "work_order_id" AggregateId.reader, Reader.field "asset_id" AggregateId.reader,
    Reader.field "technician" Reader.string, Reader.field "occurred_at" Timestamp.reader]

/-- A completion in a JSON value. -/
def completedReader : Reader WorkOrderCompleted := fun v => do
  let ms ← Reader.members "WorkOrderCompleted" completedFields false v
  let workOrderId ← Reader.required ms "work_order_id" AggregateId.reader
  let assetId ← Reader.required ms "asset_id" AggregateId.reader
  let technician ← Reader.required ms "technician" Reader.string
  let occurredAt ← Reader.required ms "occurred_at" Timestamp.reader
  pure ⟨workOrderId, assetId, technician, occurredAt⟩

/-- An event of a work order in a JSON value. -/
def reader : Reader WorkOrderEvent := fun v => do
  let (name, content) ← Reader.choice ["Opened", "Completed"] "newtype variant" v
  if name = "Opened" then
    let fact ← openedReader content
    pure (.opened fact)
  else
    let fact ← completedReader content
    pure (.completed fact)

end WorkOrderEvent

end MaintenanceOutbox
