import MaintenanceOutbox.Identity.Id
import MaintenanceOutbox.Time.Rfc3339

set_option autoImplicit false

/-! # Assets and their service history

An asset is a piece of equipment that is serviced from time to time. Visits are recorded in the
order in which they happened; a visit before the last one is refused. Every accepted visit counts up
the asset's version and leaves one event in its buffer.
-/

namespace MaintenanceOutbox

/-- A service visit: the asset, the number of the visit, what was done and when. -/
structure AssetServiced where
  assetId : AggregateId
  serviceCount : UInt32
  note : String
  occurredAt : Timestamp
deriving DecidableEq

/-- What happens to assets. -/
inductive AssetEvent where
  | serviced (visit : AssetServiced)
deriving DecidableEq

/-- A piece of equipment. -/
structure Asset where
  id : AggregateId
  name : String
  serviceCount : UInt32
  lastServicedAt : Option Timestamp
  version : Nat
  /-- events that no unit of work has taken yet, oldest first -/
  events : List AssetEvent
deriving DecidableEq

namespace Asset

/-- A new asset. Its name must not be blank. -/
def register (id : AggregateId) (name : String) : Except DomainError Asset :=
  if Text.isBlank name then .error (.validation "asset name cannot be empty")
  else .ok ⟨id, name, 0, none, 1, []⟩

/-- Is `time` before the last visit? -/
def precedesLast (a : Asset) (time : Timestamp) : Bool :=
  match a.lastServicedAt with
  | some last => decide (time < last)
  | none => false

/-- Record a visit. -/
def recordService (a : Asset) (note : String) (time : Timestamp) : Except DomainError Asset :=
  if a.precedesLast time then
    .error (.invariantViolation "service date precedes the previous service")
  else
    let visits := a.serviceCount + 1
    .ok
      { a with
        serviceCount := visits
        lastServicedAt := some time
        version := a.version + 1
        events := a.events ++ [.serviced ⟨a.id, visits, note, time⟩] }

/-- The events in the buffer, and the asset with an empty buffer. -/
def takeEvents (a : Asset) : List AssetEvent × Asset :=
  (a.events, { a with events := [] })

end Asset

namespace AssetEvent

/-- The name of the fact that an event tells. -/
def tag : AssetEvent → String
  | .serviced _ => "maintenance.asset.serviced"

/-- The names of all facts that events of assets tell. -/
def tags : List String :=
  ["maintenance.asset.serviced"]

/-- When the fact happened. -/
def occurredAt : AssetEvent → Timestamp
  | .serviced visit => visit.occurredAt

/-- An event as a payload. -/
def toJson : AssetEvent → Json
  | .serviced visit =>
    .obj
      [("Serviced",
        .obj
          [("asset_id", visit.assetId.toJson), ("note", .str visit.note),
            ("occurred_at", visit.occurredAt.toJson),
            ("service_count", Json.ofNat visit.serviceCount.toNat)])]

/-- The fields of a visit, in the order of an array. -/
def visitFields : List Reader.Field :=
  [Reader.field "asset_id" AggregateId.reader, Reader.field "service_count" Reader.counter,
    Reader.field "note" Reader.string, Reader.field "occurred_at" Timestamp.reader]

/-- A visit in a JSON value. -/
def visitReader : Reader AssetServiced := fun v => do
  let ms ← Reader.members "AssetServiced" visitFields false v
  let assetId ← Reader.required ms "asset_id" AggregateId.reader
  let serviceCount ← Reader.required ms "service_count" Reader.counter
  let note ← Reader.required ms "note" Reader.string
  let occurredAt ← Reader.required ms "occurred_at" Timestamp.reader
  pure ⟨assetId, serviceCount, note, occurredAt⟩

/-- An event of an asset in a JSON value. -/
def reader : Reader AssetEvent := fun v => do
  let (_, content) ← Reader.choice ["Serviced"] "newtype variant" v
  let visit ← visitReader content
  pure (.serviced visit)

end AssetEvent

end MaintenanceOutbox
