import MaintenanceOutbox.Event.Family
import MaintenanceOutbox.Maintenance.Asset
import MaintenanceOutbox.Maintenance.WorkOrder

set_option autoImplicit false

/-! # The event types of maintenance

Maintenance knows two event types, one for each kind of aggregate. Their bodies can always be
written.
-/

namespace MaintenanceOutbox

/-- The event types of maintenance. -/
inductive MaintenanceKind where
  | workOrder
  | asset
deriving DecidableEq, Repr

instance : EventFamily MaintenanceKind where
  decEq := inferInstance
  Body
    | .workOrder => WorkOrderEvent
    | .asset => AssetEvent
  typeName
    | .workOrder => "WorkOrderEvent"
    | .asset => "AssetEvent"
  tags
    | .workOrder => WorkOrderEvent.tags
    | .asset => AssetEvent.tags
  tag
    | .workOrder => WorkOrderEvent.tag
    | .asset => AssetEvent.tag
  occurredAt
    | .workOrder => fun _ e => e.occurredAt
    | .asset => fun _ e => e.occurredAt
  write
    | .workOrder => fun e => .ok e.toJson
    | .asset => fun e => .ok e.toJson
  read
    | .workOrder => WorkOrderEvent.reader
    | .asset => AssetEvent.reader

end MaintenanceOutbox
