import MaintenanceOutbox.Maintenance.Notifier
import MaintenanceOutbox.Proofs.Payload.Objects
import MaintenanceOutbox.Proofs.Payload.Texts

set_option autoImplicit false

/-! # Events of maintenance, stored and decoded

The payload of an event of maintenance is read back as that event (`WorkOrderEvent.reader_toJson`,
`AssetEvent.reader_toJson`), and the registry of maintenance leads from its tag to its owner, so
that a stored event is decoded to what it was when it was raised (`MaintenanceEvent.decode_toJson`).
It has one deferred handler, which hands its notification to the sink
(`MaintenanceEvent.dispatchDeferred_raise`).
-/

namespace MaintenanceOutbox

open Reader

namespace WorkOrderEvent

theorem openedReader_obj (fact : WorkOrderOpened) :
    openedReader (.obj [("asset_id", fact.assetId.toJson), ("occurred_at", fact.occurredAt.toJson),
      ("title", .str fact.title), ("work_order_id", fact.workOrderId.toJson)]) = .ok fact := by
  have all : visit openedFields [("asset_id", fact.assetId.toJson),
      ("occurred_at", fact.occurredAt.toJson), ("title", .str fact.title),
      ("work_order_id", fact.workOrderId.toJson)] = .ok () := by
    rw [visit_cons_of_read rfl fact.assetId.reader_toJson,
      visit_cons_of_read rfl fact.occurredAt.reader_toJson, visit_cons_of_read rfl (string_str _),
      visit_cons_of_read rfl fact.workOrderId.reader_toJson]
    rfl
  rw [openedReader, members_bind all, required_bind rfl fact.workOrderId.reader_toJson,
    required_bind rfl fact.assetId.reader_toJson, required_bind rfl (string_str _),
    required_bind rfl fact.occurredAt.reader_toJson]
  rfl

theorem completedReader_obj (fact : WorkOrderCompleted) :
    completedReader (.obj [("asset_id", fact.assetId.toJson),
      ("occurred_at", fact.occurredAt.toJson), ("technician", .str fact.technician),
      ("work_order_id", fact.workOrderId.toJson)]) = .ok fact := by
  have all : visit completedFields [("asset_id", fact.assetId.toJson),
      ("occurred_at", fact.occurredAt.toJson), ("technician", .str fact.technician),
      ("work_order_id", fact.workOrderId.toJson)] = .ok () := by
    rw [visit_cons_of_read rfl fact.assetId.reader_toJson,
      visit_cons_of_read rfl fact.occurredAt.reader_toJson, visit_cons_of_read rfl (string_str _),
      visit_cons_of_read rfl fact.workOrderId.reader_toJson]
    rfl
  rw [completedReader, members_bind all, required_bind rfl fact.workOrderId.reader_toJson,
    required_bind rfl fact.assetId.reader_toJson, required_bind rfl (string_str _),
    required_bind rfl fact.occurredAt.reader_toJson]
  rfl

/-- **The payload of an event of a work order** holds that event. -/
theorem reader_toJson (e : WorkOrderEvent) : reader e.toJson = .ok e := by
  cases e with
  | opened fact =>
      rw [reader, toJson, choice_bind (by decide)]
      dsimp only
      rw [if_pos rfl, openedReader_obj]
      rfl
  | completed fact =>
      rw [reader, toJson, choice_bind (by decide)]
      dsimp only
      rw [if_neg (by decide), completedReader_obj]
      rfl

end WorkOrderEvent

namespace AssetEvent

theorem visitReader_obj (visit : AssetServiced) :
    visitReader (.obj [("asset_id", visit.assetId.toJson), ("note", .str visit.note),
      ("occurred_at", visit.occurredAt.toJson),
      ("service_count", Json.ofNat visit.serviceCount.toNat)]) = .ok visit := by
  have all : Reader.visit visitFields [("asset_id", visit.assetId.toJson),
      ("note", .str visit.note), ("occurred_at", visit.occurredAt.toJson),
      ("service_count", Json.ofNat visit.serviceCount.toNat)] = .ok () := by
    rw [visit_cons_of_read rfl visit.assetId.reader_toJson, visit_cons_of_read rfl (string_str _),
      visit_cons_of_read rfl visit.occurredAt.reader_toJson,
      visit_cons_of_read rfl (counter_ofNat _)]
    rfl
  rw [visitReader, members_bind all, required_bind rfl visit.assetId.reader_toJson,
    required_bind rfl (counter_ofNat _), required_bind rfl (string_str _),
    required_bind rfl visit.occurredAt.reader_toJson]
  rfl

/-- **The payload of an event of an asset** holds that event. -/
theorem reader_toJson (e : AssetEvent) : reader e.toJson = .ok e := by
  cases e with
  | serviced visit =>
      rw [reader, toJson, choice_bind (by decide)]
      dsimp only
      rw [visitReader_obj]
      rfl

end AssetEvent

/-! ## The registry -/

variable {κ ω : Type} [EventFamily κ]

/-- A payload that the owner of a route reads, with the tag that leads there, is decoded. -/
theorem Registry.decode_eq_ok {r : Registry κ ω} {route : Route κ ω} {tag : String}
    {payload : Json} {body : EventFamily.Body route.owner} (now : Timestamp)
    (found : r.route? tag = some route) (read : EventFamily.read route.owner payload = .ok body)
    (same : EventFamily.tag route.owner body = tag) :
    r.decode now tag payload = .ok (.raise now route.owner body) := by
  rw [decode, found]
  dsimp only
  rw [read]
  exact if_pos same

/-- A handler that is invoked on an event of its own type handles the body. -/
theorem Handler.invoke_raise {M : Type → Type} [MonadExcept HandlerError M] (h : Handler κ M)
    (now : Timestamp) (body : EventFamily.Body h.kind) :
    h.invoke (.raise now h.kind body) = h.handle body := by
  have own : (RaisedEvent.raise now h.kind body).bodyAs? h.kind = some body := dif_pos rfl
  rw [invoke, own]

theorem Registry.invokeAll_singleton (h : Handler κ (DeferredM ω)) (e : RaisedEvent κ) :
    Registry.invokeAll [h] e = (do h.invoke e; pure 1) := by
  simp [invokeAll]

/-- The registry of maintenance has three routes, with one deferred handler each. -/
theorem maintenanceRegistry_eq (sink : NotificationSink ω) :
    (maintenanceRegistry sink : Except RegistryError (Registry (WithMaintenance κ) ω)) =
      .ok ⟨[
        { tag := "maintenance.work_order.opened", owner := .inl .workOrder,
          deferred := [notifyWorkOrders sink] },
        { tag := "maintenance.work_order.completed", owner := .inl .workOrder,
          deferred := [notifyWorkOrders sink] },
        { tag := "maintenance.asset.serviced", owner := .inl .asset,
          deferred := [notifyAssets sink] }]⟩ :=
  rfl

/-- An event of maintenance. -/
inductive MaintenanceEvent where
  | workOrder (e : WorkOrderEvent)
  | asset (e : AssetEvent)

namespace MaintenanceEvent

/-- The event as it is raised. -/
def raise (now : Timestamp) : MaintenanceEvent → RaisedEvent (WithMaintenance κ)
  | .workOrder e => .raise now (.inl .workOrder) e
  | .asset e => .raise now (.inl .asset) e

/-- The name of the fact that an event tells. -/
def tag : MaintenanceEvent → String
  | .workOrder e => e.tag
  | .asset e => e.tag

/-- An event as a payload. -/
def toJson : MaintenanceEvent → Json
  | .workOrder e => e.toJson
  | .asset e => e.toJson

/-- What there is to tell about an event. -/
def notification : MaintenanceEvent → Notification
  | .workOrder e => e.notification
  | .asset e => e.notification

/-- The route of an event. -/
def route (sink : NotificationSink ω) (e : MaintenanceEvent) : Route (WithMaintenance κ) ω :=
  match e with
  | .workOrder e =>
    { tag := e.tag, owner := .inl .workOrder, deferred := [notifyWorkOrders sink] }
  | .asset e => { tag := e.tag, owner := .inl .asset, deferred := [notifyAssets sink] }

variable (now : Timestamp) (e : MaintenanceEvent)

@[simp] theorem tag_raise : (e.raise now : RaisedEvent (WithMaintenance κ)).tag = e.tag := by
  cases e <;> rfl

@[simp] theorem payload_raise :
    (e.raise now : RaisedEvent (WithMaintenance κ)).payload = .ok e.toJson := by
  cases e <;> rfl

variable {r : Registry (WithMaintenance κ) ω} {sink : NotificationSink ω}
  (registered : maintenanceRegistry sink = .ok r)
include registered

theorem route?_tag : r.route? e.tag = some (e.route sink) := by
  rw [maintenanceRegistry_eq] at registered
  cases registered
  cases e with
  | workOrder e => cases e <;> rfl
  | asset e =>
      cases e
      rfl

/-- **A stored event is decoded** to what was raised. -/
theorem decode_toJson : r.decode now e.tag e.toJson = .ok (e.raise now) := by
  have found := e.route?_tag registered
  cases e with
  | workOrder e => exact Registry.decode_eq_ok now found e.reader_toJson rfl
  | asset e => exact Registry.decode_eq_ok now found e.reader_toJson rfl

/-- Its one deferred handler hands the notification to the sink. -/
theorem dispatchDeferred_raise :
    r.dispatchDeferred (e.raise now) = (do sink e.notification; pure 1) := by
  have found := e.route?_tag registered
  rw [Registry.dispatchDeferred, tag_raise, found]
  cases e with
  | workOrder e =>
      show Registry.invokeAll [notifyWorkOrders sink] _ = _
      rw [Registry.invokeAll_singleton]
      exact congrArg (· >>= _) ((notifyWorkOrders sink).invoke_raise now e)
  | asset e =>
      show Registry.invokeAll [notifyAssets sink] _ = _
      rw [Registry.invokeAll_singleton]
      exact congrArg (· >>= _) ((notifyAssets sink).invoke_raise now e)

omit e in
/-- All handlers are deferred ones. -/
theorem transactional_eq_nil : ∀ route ∈ r.routes, route.transactional = [] := by
  rw [maintenanceRegistry_eq] at registered
  cases registered
  simp

end MaintenanceEvent

end MaintenanceOutbox
