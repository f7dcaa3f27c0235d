import MaintenanceOutbox.Domain.Error
import MaintenanceOutbox.Identity.Uuid
import MaintenanceOutbox.Json.Reader

set_option autoImplicit false

/-! # Names of aggregates and messages

An `AggregateId` names an asset or a work order, a `MessageId` a message of the outbox. Both are
UUIDs and are written and read as such; they are types of their own, so that the one is never taken
for the other.
-/

namespace MaintenanceOutbox

/-- The name of an aggregate. -/
structure AggregateId where
  uuid : Uuid
deriving DecidableEq, Inhabited

/-- The name of a message of the outbox. -/
structure MessageId where
  uuid : Uuid
deriving DecidableEq, Inhabited

/-- A UUID in a JSON value. -/
def Uuid.reader : Reader Uuid :=
  Reader.parsed "a formatted UUID string" Uuid.parse fun e => "UUID parsing failed: " ++ e.message

namespace AggregateId

instance : LT AggregateId := ⟨fun a b => a.uuid < b.uuid⟩

instance (a b : AggregateId) : Decidable (a < b) := inferInstanceAs (Decidable (a.uuid < b.uuid))

/-- The written form of an aggregate's name. -/
def toText (id : AggregateId) : String :=
  id.uuid.toText

/-- The aggregate's name that a text spells. -/
def parse (s : String) : Except DomainError AggregateId :=
  match Uuid.parse s with
  | .ok u => .ok ⟨u⟩
  | .error e => .error (.invalidId ("AggregateId: " ++ e.message))

/-- An aggregate's name in a JSON value. -/
def reader : Reader AggregateId := fun v =>
  (Uuid.reader v).map AggregateId.mk

/-- An aggregate's name as a JSON value. -/
def toJson (id : AggregateId) : Json :=
  .str id.toText

end AggregateId

namespace MessageId

instance : LT MessageId := ⟨fun a b => a.uuid < b.uuid⟩

instance (a b : MessageId) : Decidable (a < b) := inferInstanceAs (Decidable (a.uuid < b.uuid))

/-- The written form of a message's name. -/
def toText (id : MessageId) : String :=
  id.uuid.toText

/-- The message's name that a text spells. -/
def parse (s : String) : Except DomainError MessageId :=
  match Uuid.parse s with
  | .ok u => .ok ⟨u⟩
  | .error e => .error (.invalidId ("MessageId: " ++ e.message))

/-- A message's name in a JSON value. -/
def reader : Reader MessageId := fun v =>
  (Uuid.reader v).map MessageId.mk

/-- A message's name as a JSON value. -/
def toJson (id : MessageId) : Json :=
  .str id.toText

end MessageId

end MaintenanceOutbox
