import MaintenanceOutbox.Event.Registry
import MaintenanceOutbox.Maintenance.Events

set_option autoImplicit false

/-! # Notifications about maintenance

Work orders that are opened or completed and assets that are serviced are worth telling somebody.
The notifier turns such events into notifications and hands them to a sink, outside of the business
transaction: it is a deferred handler. It never writes to the outbox; what the sink reports is what
the delivery reports.
-/

namespace MaintenanceOutbox

/-- Something worth telling somebody. -/
structure Notification where
  topic : String
  subject : String
  body : String
deriving DecidableEq, Repr

/-- A channel that notifications are delivered through. -/
abbrev NotificationSink (ω : Type) := Notification → DeferredM ω Unit

/-- A sink that keeps notifications to itself and never fails. -/
def quietSink {ω : Type} : NotificationSink ω := fun _ => pure ()

/-- What there is to tell about a work order. -/
def WorkOrderEvent.notification : WorkOrderEvent → Notification
  | .opened fact =>
    ⟨"work_order.opened", "Work order " ++ fact.workOrderId.toText ++ " opened", fact.title⟩
  | .completed fact =>
    ⟨"work_order.completed", "Work order " ++ fact.workOrderId.toText ++ " completed",
      "completed by " ++ fact.technician⟩

/-- What there is to tell about an asset. -/
def AssetEvent.notification : AssetEvent → Notification
  | .serviced visit =>
    ⟨"asset.serviced",
      "Asset " ++ visit.assetId.toText ++ " serviced (visit #" ++
        toString visit.serviceCount.toNat ++ ")",
      visit.note⟩

/-- A family of event types with those of maintenance and those of `κ`. -/
abbrev WithMaintenance (κ : Type) := MaintenanceKind ⊕ κ

variable {κ ω : Type} [EventFamily κ]

/-- Tell `sink` about work orders. -/
def notifyWorkOrders (sink : NotificationSink ω) :
    Handler (WithMaintenance κ) (DeferredM ω) where
  kind := .inl .workOrder
  handle := fun (e : WorkOrderEvent) => sink e.notification

/-- Tell `sink` about assets. -/
def notifyAssets (sink : NotificationSink ω) : Handler (WithMaintenance κ) (DeferredM ω) where
  kind := .inl .asset
  handle := fun (e : AssetEvent) => sink e.notification

/-- The deferred handlers of maintenance: one notification for each event. -/
def maintenanceRegistry (sink : NotificationSink ω) :
    Except RegistryError (Registry (WithMaintenance κ) ω) := do
  let r ← Registry.empty.onDeferred (notifyWorkOrders sink)
  r.onDeferred (notifyAssets sink)

end MaintenanceOutbox
