import MaintenanceOutbox.Config.Settings
import MaintenanceOutbox.Event.Registry
import MaintenanceOutbox.Pipeline.Error
import MaintenanceOutbox.Worker.Group
import MaintenanceOutbox.Worker.Report

set_option autoImplicit false

/-! # Failures in a simulation

A step of a simulation may fail with any error of the library. `Failure` is their sum; each has a
kind, in which an error that wraps another one names both, and a text.
-/

namespace MaintenanceOutbox

/-- Why a step of a simulation failed. -/
inductive Failure where
  | domain (e : DomainError)
  | store (e : StoreError)
  | handler (e : HandlerError)
  | pipeline (e : PipelineError DomainError)
  | worker (e : WorkerError)
  | config (e : ConfigError)
  | registry (e : RegistryError)
  | decode (e : DecodeError)
  | group (e : GroupError)
  | json (e : ReadError)
  /-- the step itself makes no sense -/
  | badInput (reason : String)

/-- The kind of a refusal of the domain. -/
def DomainError.kind : DomainError → String
  | .validation _ => "Domain.Validation"
  | .invariantViolation _ => "Domain.InvariantViolation"
  | .invalidId _ => "Domain.InvalidId"
  | .notFound => "Domain.NotFound"
  | .conflict _ => "Domain.Conflict"

/-- The kind of a failure of a store. -/
def StoreError.kind : StoreError → String
  | .connectivity .. => "Store.Connectivity"
  | .database .. => "Store.Database"
  | .notFound _ => "Store.NotFound"
  | .serialization _ => "Store.Serialization"
  | .conflict _ => "Store.Conflict"

/-- The kind of a failure of a handler. -/
def HandlerError.kind : HandlerError → String
  | .connectivity _ => "Handler.Connectivity"
  | .domain e => "Handler." ++ e.kind
  | .failed _ => "Handler.Failed"

/-- The kind of a failure of a command. -/
def PipelineError.kind {ε : Type} : PipelineError ε → String
  | .command _ => "Pipeline.Command"
  | .handler e => "Pipeline." ++ e.kind
  | .roundsExceeded _ => "Pipeline.DispatchRoundsExceeded"
  | .serialization .. => "Pipeline.Serialization"
  | .store e => "Pipeline." ++ e.kind

/-- The kind of a worker's error. -/
def WorkerError.kind : WorkerError → String
  | .infrastructure _ => "Worker.Infrastructure"
  | .store e => "Worker." ++ e.kind

/-- The kind of a settings error. -/
def ConfigError.kind : ConfigError → String
  | .invalidNumber .. => "Config.InvalidNumber"
  | .zero _ => "Config.Zero"
  | .missing _ => "Config.Missing"

/-- The kind of a decoding error. -/
def DecodeError.kind : DecodeError → String
  | .unknownEventType _ => "Decode.UnknownEventType"
  | .payload .. => "Decode.Payload"
  | .tagMismatch .. => "Decode.TagMismatch"

/-- The kind of a refused call to a group. -/
def GroupError.kind : GroupError → String
  | .unknownWorker .. => "Group.UnknownWorker"
  | .alreadyRunning _ => "Group.AlreadyRunning"

namespace Failure

/-- The kind of a failure. -/
def kind : Failure → String
  | .domain e => e.kind
  | .store e => e.kind
  | .handler e => e.kind
  | .pipeline e => e.kind
  | .worker e => e.kind
  | .config e => e.kind
  | .registry _ => "Registry.DuplicateEventType"
  | .decode e => e.kind
  | .group e => e.kind
  | .json _ => "Json"
  | .badInput _ => "BadInput"

/-- The text of a failure. -/
def message : Failure → String
  | .domain e => e.message
  | .store e => e.message
  | .handler e => e.message
  | .pipeline e => e.message DomainError.quoted
  | .worker e => e.message
  | .config e => e.message
  | .registry e => e.message
  | .decode e => e.message
  | .group e => e.message
  | .json e => e.message
  | .badInput reason => reason

/-- A failure to read the input of a scripted action, as the handler reports it. -/
def toHandlerError (f : Failure) : HandlerError :=
  .failed (f.kind ++ ": " ++ f.message)

end Failure

end MaintenanceOutbox
