import MaintenanceOutbox.Json.Reader
import MaintenanceOutbox.Time.Timestamp

set_option autoImplicit false

/-! # Families of event types

An application knows a family of event types. `EventFamily κ` describes it: `κ` is the set of the
types' names, and every type has a body, the tags that its events may carry, and a way to write a
body as a payload and to read it back.

A tag is the stable name of a fact and outlives any program that knows its type. One type may have
several tags, one for each fact it tells, and a type is routed by the tags that it lists.

Two families make a bigger one, `κ ⊕ μ`, in which neither knows of the other.
-/

namespace MaintenanceOutbox

/-- A family of event types, named by `κ`. -/
class EventFamily (κ : Type) where
  decEq : DecidableEq κ
  /-- what an event of the type tells -/
  Body : κ → Type
  /-- the name of the type in error texts -/
  typeName : κ → String
  /-- the tags that the type is routed by -/
  tags : κ → List String
  /-- the tag of an event -/
  tag : (k : κ) → Body k → String
  /-- when the fact happened, asked at a given time -/
  occurredAt : (k : κ) → Timestamp → Body k → Timestamp
  /-- the body as a payload, or why it cannot be written -/
  write : (k : κ) → Body k → Except String Json
  /-- the body that a payload holds -/
  read : (k : κ) → Reader (Body k)

instance (κ : Type) [EventFamily κ] : DecidableEq κ :=
  EventFamily.decEq

/-- **Families add up.** The types of `κ ⊕ μ` are those of `κ` and those of `μ`. -/
instance (κ μ : Type) [EventFamily κ] [EventFamily μ] : EventFamily (κ ⊕ μ) where
  decEq := inferInstance
  Body
    | .inl k => EventFamily.Body k
    | .inr k => EventFamily.Body k
  typeName
    | .inl k => EventFamily.typeName k
    | .inr k => EventFamily.typeName k
  tags
    | .inl k => EventFamily.tags k
    | .inr k => EventFamily.tags k
  tag
    | .inl k => EventFamily.tag k
    | .inr k => EventFamily.tag k
  occurredAt
    | .inl k => EventFamily.occurredAt k
    | .inr k => EventFamily.occurredAt k
  write
    | .inl k => EventFamily.write k
    | .inr k => EventFamily.write k
  read
    | .inl k => EventFamily.read k
    | .inr k => EventFamily.read k

/-- An event as it was raised: its type and body, with the tag and the time that it had then. -/
structure RaisedEvent (κ : Type) [EventFamily κ] where
  kind : κ
  body : EventFamily.Body kind
  tag : String
  occurredAt : Timestamp

namespace RaisedEvent

variable {κ : Type} [EventFamily κ]

/-- The event with the given body, raised at `now`. -/
def raise (now : Timestamp) (kind : κ) (body : EventFamily.Body kind) : RaisedEvent κ where
  kind := kind
  body := body
  tag := EventFamily.tag kind body
  occurredAt := EventFamily.occurredAt kind now body

/-- The payload of an event, or why it cannot be written. -/
def payload (e : RaisedEvent κ) : Except String Json :=
  EventFamily.write e.kind e.body

/-- The body of an event, if the event is of type `k`. -/
def bodyAs? (e : RaisedEvent κ) (k : κ) : Option (EventFamily.Body k) :=
  if h : e.kind = k then some (h ▸ e.body) else none

end RaisedEvent

end MaintenanceOutbox
