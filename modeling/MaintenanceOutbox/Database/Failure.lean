import MaintenanceOutbox.Store.Error

set_option autoImplicit false

/-! # Failures of a database

A store may keep its tables in a database. What the database driver reports as wrong is sorted here
into the failures of a store. Only what says that the database cannot be reached is a failure of
connectivity; a violated unique key is a conflict; a value that cannot be read back is a failure of
serialization.
-/

namespace MaintenanceOutbox

/-- What a database driver reports as wrong. -/
inductive DatabaseFailure where
  | io (reason : String)
  | tls (reason : String)
  | poolTimedOut
  | poolClosed
  | workerCrashed
  | rowNotFound
  | decode (reason : String)
  | encode (reason : String)
  | configuration (reason : String)
  | protocol (reason : String)
  | columnNotFound (name : String)
  | columnDecode (column reason : String)
  /-- the database itself refuses, with its error code if it gives one -/
  | database (code : Option String) (reason : String)
deriving DecidableEq, Repr

namespace DatabaseFailure

/-- The text of a failure. -/
def message : DatabaseFailure → String
  | .io reason => "error communicating with database: " ++ reason
  | .tls reason => "error occurred while attempting to establish a TLS connection: " ++ reason
  | .poolTimedOut => "pool timed out while waiting for an open connection"
  | .poolClosed => "attempted to acquire a connection on a closed pool"
  | .workerCrashed => "attempted to communicate with a crashed background worker"
  | .rowNotFound => "no rows returned by a query that expected to return at least one row"
  | .decode reason => "error occurred while decoding: " ++ reason
  | .encode reason => "error occurred while encoding a value: " ++ reason
  | .configuration reason => "error with configuration: " ++ reason
  | .protocol reason => "encountered unexpected or invalid data: " ++ reason
  | .columnNotFound name => "no column found for name: " ++ name
  | .columnDecode column reason =>
    "error occurred while decoding column " ++ column ++ ": " ++ reason
  | .database _ reason => "error returned from database: " ++ reason

/-- The error code of a violated unique key. -/
def uniqueViolation : String := "23505"

/-- A failure as one of the store, during the given operation. -/
def toStoreError (operation : String) : DatabaseFailure → StoreError
  | .database code reason =>
    if code = some uniqueViolation then .conflict (operation ++ ": " ++ reason)
    else .database operation (message (.database code reason))
  | f =>
    match f with
    | .io _ | .tls _ | .poolTimedOut | .poolClosed | .workerCrashed =>
      .connectivity operation f.message
    | .columnDecode _ _ | .decode _ => .serialization (operation ++ ": " ++ f.message)
    | _ => .database operation f.message

/-- A failure that a handler ran into. -/
def toHandlerError (f : DatabaseFailure) : HandlerError :=
  (f.toStoreError "handler").toHandlerError

end DatabaseFailure

end MaintenanceOutbox
