import MaintenanceOutbox.Config.Settings
import MaintenanceOutbox.Json.Reader

set_option autoImplicit false

/-! # Settings from a JSON record

The settings as one record, every field of which may be left out. The record as a whole is refused
when a number in it is zero, so settings that were read are always valid.
-/

namespace MaintenanceOutbox.OutboxConfig

/-- The fields of the record, in the order of an array. -/
def fields : List Reader.Field :=
  [Reader.field "worker_count" Reader.count, Reader.field "poll_interval_ms" Reader.milliseconds,
    Reader.field "batch_size" Reader.count, Reader.field "max_retries" Reader.counter,
    Reader.field "max_dispatch_rounds" Reader.count,
    Reader.field "database_url" (Reader.optional Reader.string)]

/-- Settings in a JSON value. -/
def reader : Reader OutboxConfig := fun v => do
  let ms ← Reader.members "RawOutboxConfig" fields true v
  let workerCount ← Reader.withDefault ms "worker_count" Reader.count standard.workerCount
  let pollMs ← Reader.withDefault ms "poll_interval_ms" Reader.milliseconds standard.pollMs
  let batchSize ← Reader.withDefault ms "batch_size" Reader.count standard.batchSize
  let maxRetries ← Reader.withDefault ms "max_retries" Reader.counter standard.maxRetries
  let maxDispatchRounds ←
    Reader.withDefault ms "max_dispatch_rounds" Reader.count standard.maxDispatchRounds
  let databaseUrl ←
    Reader.withDefault ms "database_url" (Reader.optional Reader.string) standard.databaseUrl
  let config : OutboxConfig :=
    ⟨workerCount, pollMs, batchSize, maxRetries, maxDispatchRounds, namedUrl databaseUrl⟩
  match config.validate with
  | .ok () => pure config
  | .error e => .error (.refused e.message)

end MaintenanceOutbox.OutboxConfig
