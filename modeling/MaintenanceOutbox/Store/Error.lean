import MaintenanceOutbox.Event.HandlerError
import MaintenanceOutbox.Identity.Id

set_option autoImplicit false

/-! # Failures of a store

Why a store refuses a call. Only a failure of connectivity says nothing about the message at hand;
seen from a handler it stays one, and every other failure of the store is a failure of the handler.
-/

namespace MaintenanceOutbox

/-- Why a call to a store failed. -/
inductive StoreError where
  /-- the store cannot be reached -/
  | connectivity (operation reason : String)
  /-- the store refuses for reasons of its own -/
  | database (operation reason : String)
  /-- there is no such message, or none that the call applies to -/
  | notFound (id : MessageId)
  | serialization (reason : String)
  | conflict (reason : String)
deriving DecidableEq, Inhabited

namespace StoreError

/-- The text of a failure. -/
def message : StoreError → String
  | .connectivity operation reason =>
    "outbox store unavailable during " ++ operation ++ ": " ++ reason
  | .database operation reason => "database error during " ++ operation ++ ": " ++ reason
  | .notFound id => "outbox message not found: " ++ id.toText
  | .serialization reason => "serialization error: " ++ reason
  | .conflict reason => "conflict: " ++ reason

/-- Could the store not be reached? -/
def isConnectivity : StoreError → Bool
  | .connectivity .. => true
  | _ => false

/-- The failure as a handler reports it. -/
def toHandlerError (e : StoreError) : HandlerError :=
  if e.isConnectivity then .connectivity e.message else .failed e.message

end StoreError

end MaintenanceOutbox
