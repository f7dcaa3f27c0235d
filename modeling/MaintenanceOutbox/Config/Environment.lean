import MaintenanceOutbox.Config.Settings

set_option autoImplicit false

/-! # Settings from the environment

Each setting has a variable of its own and a default for when the variable is unset. A number is
written in decimal digits, with an optional plus sign and blanks around it. The variables are looked
at in a fixed order, and the first one that is wrong is reported.
-/

namespace MaintenanceOutbox.OutboxConfig

/-- What the environment says: the text of a variable, if it is set. -/
abbrev Environment := String → Option String

/-- The variable for the number of workers. -/
def workersKey : String := "MAINTOPS_OUTBOX_WORKERS"

/-- The variable for the poll interval in milliseconds. -/
def pollMsKey : String := "MAINTOPS_OUTBOX_POLL_MS"

/-- The variable for the batch size. -/
def batchSizeKey : String := "MAINTOPS_OUTBOX_BATCH_SIZE"

/-- The variable for the retry budget. -/
def maxRetriesKey : String := "MAINTOPS_OUTBOX_MAX_RETRIES"

/-- The variable for the cap on dispatch rounds. -/
def maxRoundsKey : String := "MAINTOPS_OUTBOX_MAX_ROUNDS"

/-- The number that a non-empty list of decimal digits denotes. -/
def digitsValue? (cs : List Char) : Option Nat :=
  if cs.isEmpty || !cs.all Char.isDigit then none
  else some (cs.foldl (fun n c => n * 10 + (c.toNat - 48)) 0)

/-- The number that a text denotes: digits with an optional plus sign, in 64 bits. -/
def number? (cs : List Char) : Option Nat :=
  let digits := match cs with
    | '+' :: rest => rest
    | cs => cs
  (digitsValue? digits).filter (· < UInt64.size)

/-- The positive number that a variable holds, if it is set. -/
def positive (env : Environment) (key : String) : Except ConfigError (Option Nat) :=
  match env key with
  | none => .ok none
  | some text =>
    match number? (Text.trimChars text.toList) with
    | none => .error (.invalidNumber key text)
    | some 0 => .error (.zero key)
    | some n => .ok (some n)

/-- The retry budget that a variable holds; it has 32 bits. -/
def positiveCounter (env : Environment) (key : String) : Except ConfigError (Option UInt32) := do
  match ← positive env key with
  | none => pure none
  | some n =>
    if n < UInt32.size then pure (some (UInt32.ofNat n))
    else .error (.invalidNumber key (toString n))

/-- The settings that the environment gives. -/
def ofEnvironment (env : Environment) : Except ConfigError OutboxConfig := do
  let workers ← positive env workersKey
  let pollMs ← positive env pollMsKey
  let batchSize ← positive env batchSizeKey
  let maxRetries ← positiveCounter env maxRetriesKey
  let maxRounds ← positive env maxRoundsKey
  let config : OutboxConfig :=
    { workerCount := workers.getD standard.workerCount
      pollMs := pollMs.getD standard.pollMs
      batchSize := batchSize.getD standard.batchSize
      maxRetries := maxRetries.getD standard.maxRetries
      maxDispatchRounds := maxRounds.getD standard.maxDispatchRounds
      databaseUrl := namedUrl (env databaseUrlKey) }
  config.validate
  pure config

end MaintenanceOutbox.OutboxConfig
