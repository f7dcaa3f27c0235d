import MaintenanceOutbox.Text.Blank

set_option autoImplicit false

/-! # The format of log lines

Log lines are JSON unless the setting asks for plain text, in either of two words and in any mix of
cases. A setting that is missing or not understood means JSON: a typing error does not silence the
log.
-/

namespace MaintenanceOutbox

/-- The format of log lines. -/
inductive LogFormat where
  | json
  | text
deriving DecidableEq, Repr

namespace LogFormat

/-- The format that a text asks for. Only ASCII letters have two cases here. -/
def ofText (s : String) : LogFormat :=
  let word := (Text.trimChars s.toList).map Char.toLower
  if word = "text".toList ∨ word = "compact".toList then .text else .json

/-- The format that a setting asks for, if it is there. -/
def ofSetting : Option String → LogFormat
  | some s => ofText s
  | none => .json

/-- The name of a format. -/
def name : LogFormat → String
  | .json => "json"
  | .text => "text"

end LogFormat

end MaintenanceOutbox
