import MaintenanceOutbox.Store.Error

set_option autoImplicit false

/-! # Failures of commands

Why a command, or the treatment of its events, failed. `ε` is the type of the command handler's own
errors; the treatment of events alone has none of those.
-/

namespace MaintenanceOutbox

/-- Why a command failed. -/
inductive PipelineError (ε : Type) where
  /-- the command handler refused the command -/
  | command (error : ε)
  /-- a transactional handler failed -/
  | handler (error : HandlerError)
  /-- handlers went on raising events past the cap -/
  | roundsExceeded (maxRounds : Nat)
  /-- an event cannot be written -/
  | serialization (tag reason : String)
  | store (error : StoreError)
deriving DecidableEq

namespace PipelineError

/-- The text of a failure; `quoted` is the text of a command handler's error. -/
def message {ε : Type} (quoted : ε → String) : PipelineError ε → String
  | .command e => "command failed: " ++ quoted e
  | .handler e => e.message
  | .roundsExceeded n => "event dispatch did not settle within " ++ toString n ++ " rounds"
  | .serialization tag reason => "failed to serialize " ++ tag ++ ": " ++ reason
  | .store e => e.message

/-- A failure without command errors, among those of a command. -/
def widen {ε : Type} : PipelineError Empty → PipelineError ε
  | .handler e => .handler e
  | .roundsExceeded n => .roundsExceeded n
  | .serialization tag reason => .serialization tag reason
  | .store e => .store e

end PipelineError

end MaintenanceOutbox
