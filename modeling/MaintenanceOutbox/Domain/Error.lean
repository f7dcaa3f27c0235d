import MaintenanceOutbox.Text.Quoted

set_option autoImplicit false

/-! # Refusals of the domain

What the business rules refuse, and why. A `DomainError` is the answer of an aggregate or of a
command, never a failure of the infrastructure.
-/

namespace MaintenanceOutbox

/-- Why a business rule refuses a change. -/
inductive DomainError where
  /-- an input does not meet its rules -/
  | validation (reason : String)
  /-- the change would break a rule of the aggregate -/
  | invariantViolation (reason : String)
  /-- a text names nothing -/
  | invalidId (reason : String)
  | notFound
  /-- the aggregate is not in a state that allows the change -/
  | conflict (reason : String)
deriving DecidableEq, Repr, Inhabited

namespace DomainError

/-- The text of a refusal. -/
def message : DomainError → String
  | .validation reason => "validation failed: " ++ reason
  | .invariantViolation reason => "invariant violated: " ++ reason
  | .invalidId reason => "invalid identifier: " ++ reason
  | .notFound => "not found"
  | .conflict reason => "conflict: " ++ reason

/-- A refusal by the name of its kind, with the reason quoted. -/
def quoted : DomainError → String
  | .validation reason => "Validation(" ++ Text.quote reason ++ ")"
  | .invariantViolation reason => "InvariantViolation(" ++ Text.quote reason ++ ")"
  | .invalidId reason => "InvalidId(" ++ Text.quote reason ++ ")"
  | .notFound => "NotFound"
  | .conflict reason => "Conflict(" ++ Text.quote reason ++ ")"

end DomainError

end MaintenanceOutbox
