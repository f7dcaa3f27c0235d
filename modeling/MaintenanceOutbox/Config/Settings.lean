import MaintenanceOutbox.Text.Blank
import MaintenanceOutbox.Text.Quoted

set_option autoImplicit false

/-! # Settings of the outbox

The six settings that the pipeline, the workers and their group share, and the rule they obey: no
count, interval or budget is zero. A zero retry budget would strand messages that can never be
claimed; a zero count or interval would stop the workers or let them spin.
-/

namespace MaintenanceOutbox

/-- Why settings are refused. -/
inductive ConfigError where
  /-- a text that is no positive number of the setting's range -/
  | invalidNumber (key value : String)
  /-- a zero -/
  | zero (key : String)
  /-- a setting that is needed and not there -/
  | missing (key : String)
deriving DecidableEq, Repr

/-- The text of a settings error. -/
def ConfigError.message : ConfigError → String
  | .invalidNumber key value => key ++ " must be a positive integer, got " ++ Text.quote value
  | .zero key => key ++ " must be greater than zero"
  | .missing key => key ++ " is not set"

/-- The settings of an outbox. -/
structure OutboxConfig where
  /-- workers in a worker group -/
  workerCount : Nat := 2
  /-- how long an idle worker sleeps, in milliseconds -/
  pollMs : Nat := 5000
  /-- messages that a worker handles in one batch -/
  batchSize : Nat := 10
  /-- delivery attempts before a message is dead-lettered -/
  maxRetries : UInt32 := 3
  /-- dispatch rounds of one command -/
  maxDispatchRounds : Nat := 50
  databaseUrl : Option String := none
deriving DecidableEq, Repr

namespace OutboxConfig

/-- The settings where nothing is set. -/
def standard : OutboxConfig := {}

instance : Inhabited OutboxConfig := ⟨standard⟩

/-- The name of the database setting in the environment. -/
def databaseUrlKey : String := "DATABASE_URL"

/-- The settings that must not be zero, by name, and whether they are. -/
def zeros (c : OutboxConfig) : List (String × Bool) :=
  [("worker_count", c.workerCount == 0), ("poll_interval_ms", c.pollMs == 0),
    ("batch_size", c.batchSize == 0), ("max_retries", c.maxRetries == 0),
    ("max_dispatch_rounds", c.maxDispatchRounds == 0)]

/-- Refuse settings of which one is zero; the first one is named. -/
def validate (c : OutboxConfig) : Except ConfigError Unit :=
  match c.zeros.find? (·.2) with
  | some (key, _) => .error (.zero key)
  | none => .ok ()

/-- The database that the settings name. -/
def requireDatabaseUrl (c : OutboxConfig) : Except ConfigError String :=
  match c.databaseUrl with
  | some url => .ok url
  | none => .error (.missing databaseUrlKey)

/-- A database setting that is blank counts as unset. -/
def namedUrl (url : Option String) : Option String :=
  url.filter fun u => !Text.isBlank u

end OutboxConfig

end MaintenanceOutbox
