import MaintenanceOutbox.Domain.Error

set_option autoImplicit false

/-! # Failures of handlers

A handler fails in one of three ways, and the difference decides what happens next. When something
it depends on cannot be reached, the attempt does not count: a worker gives the message back and
stops its batch. A refusal of the domain and any other failure count as a failed attempt.
-/

namespace MaintenanceOutbox

/-- Why a handler did not do its work. -/
inductive HandlerError where
  /-- something that the handler depends on cannot be reached -/
  | connectivity (reason : String)
  | domain (error : DomainError)
  | failed (reason : String)
deriving DecidableEq, Repr, Inhabited

namespace HandlerError

/-- The text of a failure. -/
def message : HandlerError → String
  | .connectivity reason => "infrastructure unavailable: " ++ reason
  | .domain error => error.message
  | .failed reason => reason

/-- Does the failure leave the attempt uncounted? -/
def isConnectivity : HandlerError → Bool
  | .connectivity _ => true
  | _ => false

end HandlerError

end MaintenanceOutbox
