import MaintenanceOutbox.Message.Queued

set_option autoImplicit false

/-! # Messages as JSON records

The row format of messages and dead letters. Every field has its own name; a time or an error that
is unset is `null`, and may be left out when a record is read.
-/

namespace MaintenanceOutbox

namespace QueuedMessage

/-- A message as a record, its members ordered by key. -/
def toJson (m : QueuedMessage) : Json :=
  .obj
    [("created_at", m.createdAt.toJson), ("event_type", .str m.eventType), ("id", m.id.toJson),
      ("last_error", Json.ofOption Json.str m.lastError),
      ("max_retries", Json.ofNat m.maxRetries.toNat), ("payload", m.payload),
      ("processed_at", Json.ofOption Timestamp.toJson m.processedAt),
      ("retry_count", Json.ofNat m.retryCount.toNat)]

/-- The fields of the record, in the order of an array. -/
def fields : List Reader.Field :=
  [Reader.field "id" MessageId.reader, Reader.field "event_type" Reader.string,
    Reader.field "payload" Reader.any, Reader.field "created_at" Timestamp.reader,
    Reader.field "processed_at" (Reader.optional Timestamp.reader),
    Reader.field "retry_count" Reader.counter,
    Reader.field "last_error" (Reader.optional Reader.string),
    Reader.field "max_retries" Reader.counter]

/-- A message in a JSON value. -/
def reader : Reader QueuedMessage := fun v => do
  let ms ← Reader.members "QueuedMessage" fields false v
  let id ← Reader.required ms "id" MessageId.reader
  let eventType ← Reader.required ms "event_type" Reader.string
  let payload ← Reader.required ms "payload" Reader.any
  let createdAt ← Reader.required ms "created_at" Timestamp.reader
  let processedAt ← Reader.withDefault ms "processed_at" (Reader.optional Timestamp.reader) none
  let retryCount ← Reader.required ms "retry_count" Reader.counter
  let lastError ← Reader.withDefault ms "last_error" (Reader.optional Reader.string) none
  let maxRetries ← Reader.required ms "max_retries" Reader.counter
  pure ⟨id, eventType, payload, createdAt, processedAt, retryCount, lastError, maxRetries⟩

end QueuedMessage

namespace DeadLetter

/-- A dead letter as a record, its members ordered by key. -/
def toJson (d : DeadLetter) : Json :=
  .obj [("message", d.message.toJson), ("moved_to_dead_letter_at", d.movedAt.toJson)]

/-- The fields of the record, in the order of an array. -/
def fields : List Reader.Field :=
  [Reader.field "message" QueuedMessage.reader,
    Reader.field "moved_to_dead_letter_at" Timestamp.reader]

/-- A dead letter in a JSON value. -/
def reader : Reader DeadLetter := fun v => do
  let ms ← Reader.members "DeadLetterMessage" fields false v
  let message ← Reader.required ms "message" QueuedMessage.reader
  let movedAt ← Reader.required ms "moved_to_dead_letter_at" Timestamp.reader
  pure ⟨message, movedAt⟩

end DeadLetter

end MaintenanceOutbox
