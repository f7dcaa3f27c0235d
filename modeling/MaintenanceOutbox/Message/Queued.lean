import MaintenanceOutbox.Identity.Id
import MaintenanceOutbox.Text.Cut
import MaintenanceOutbox.Time.Rfc3339

set_option autoImplicit false

/-! # Messages of the outbox

A `QueuedMessage` is an event on its way to the deferred handlers: its tag and payload, when it was
created, and how delivery has gone so far. Delivery is tried at most `maxRetries` times; a message
that used them up is a dead letter and stays with its last error until somebody puts it back into
the queue.

**The budget decides who is delivered.** A message is claimable while it is pending and has attempts
left, and `QueuedMessage.withMaxRetries` grants at least one, so that a new message is claimable.
-/

namespace MaintenanceOutbox

/-- The retry budget of a message that asks for no other. -/
def defaultMaxRetries : UInt32 := 3

/-- The largest count of failed attempts. -/
def maxRetryCount : UInt32 := 4294967295

/-- The number of characters of an error that are kept. -/
def maxErrorChars : Nat := 2000

/-- A retry budget, at least one attempt. -/
def atLeastOne (budget : UInt32) : UInt32 :=
  if budget = 0 then 1 else budget

/-- A message of the outbox. -/
structure QueuedMessage where
  id : MessageId
  eventType : String
  payload : Json
  createdAt : Timestamp
  /-- when delivery succeeded -/
  processedAt : Option Timestamp
  /-- failed attempts so far -/
  retryCount : UInt32
  /-- the error of the last failed attempt -/
  lastError : Option String
  /-- attempts that the message has -/
  maxRetries : UInt32
deriving Inhabited

/-- Are the attempts used up? -/
def isExhausted (retryCount maxRetries : UInt32) : Bool :=
  decide (maxRetries ≤ retryCount)

/-- An error text, cut to the characters that are kept. -/
def truncateError (error : String) : String :=
  Text.keepChars maxErrorChars error

namespace QueuedMessage

/-- A new message: pending, without failed attempts, with the default budget. -/
def fresh (id : MessageId) (now : Timestamp) (eventType : String) (payload : Json) :
    QueuedMessage where
  id := id
  eventType := eventType
  payload := payload
  createdAt := now
  processedAt := none
  retryCount := 0
  lastError := none
  maxRetries := defaultMaxRetries

/-- The message with another budget, at least one attempt. -/
def withMaxRetries (m : QueuedMessage) (budget : UInt32) : QueuedMessage :=
  { m with maxRetries := atLeastOne budget }

/-- The message with another time of creation. -/
def withCreatedAt (m : QueuedMessage) (time : Timestamp) : QueuedMessage :=
  { m with createdAt := time }

/-- Has the message not been delivered yet? -/
def isPending (m : QueuedMessage) : Bool :=
  m.processedAt.isNone

/-- May the message be handed to a worker? -/
def isClaimable (m : QueuedMessage) : Bool :=
  m.isPending && !isExhausted m.retryCount m.maxRetries

/-- Is the count of failed attempts as large as it can be? -/
def countIsFull (m : QueuedMessage) : Bool :=
  decide (m.retryCount = maxRetryCount)

/-- The message after one more failed attempt, for a count that is not full. -/
def afterFailure (m : QueuedMessage) (error : String) : QueuedMessage :=
  { m with retryCount := m.retryCount + 1, lastError := some (truncateError error) }

/-- The message as delivered at `now`. -/
def markProcessed (m : QueuedMessage) (now : Timestamp) : QueuedMessage :=
  { m with processedAt := some now }

end QueuedMessage

/-- A message whose attempts are used up. -/
structure DeadLetter where
  message : QueuedMessage
  movedAt : Timestamp
deriving Inhabited

namespace DeadLetter

/-- The name of the message. -/
def id (d : DeadLetter) : MessageId :=
  d.message.id

/-- The message as it goes back into the queue: pending, without failed attempts, with the error
that it last had. -/
def requeued (d : DeadLetter) : QueuedMessage :=
  { d.message with processedAt := none, retryCount := 0 }

end DeadLetter

/-- What became of a message after a failed attempt. -/
inductive RetryOutcome where
  | retrying (retryCount : UInt32)
  | deadLettered (retryCount : UInt32)
deriving DecidableEq, Repr

namespace RetryOutcome

/-- The failed attempts so far. -/
def retryCount : RetryOutcome → UInt32
  | .retrying n => n
  | .deadLettered n => n

/-- Is the message a dead letter now? -/
def isDeadLettered : RetryOutcome → Bool
  | .retrying _ => false
  | .deadLettered _ => true

end RetryOutcome

end MaintenanceOutbox
