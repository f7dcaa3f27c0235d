import MaintenanceOutbox.Event.Family
import MaintenanceOutbox.Time.Rfc3339

set_option autoImplicit false

/-! # Probe events

Event types made to try out the registry, the stage and the workers, next to those of maintenance.
Some are well-behaved: a `door` has two tags, a `ping` counts its depth. The others each break one
expectation: an `impostor` carries and lists a tag that belongs to the door, and says that it
happens whenever it is asked; an `unstorable` can be raised but not written; a `stray` carries a tag
that it does not list.
-/

namespace MaintenanceOutbox

/-- The event types that serve as probes. -/
inductive ProbeKind where
  | door
  | impostor
  | ping
  | unstorable
  | stray
deriving DecidableEq, Repr

namespace Probe

/-- A door opens or closes. -/
inductive Door where
  | opened (time : Timestamp)
  | closed (time : Timestamp)
deriving DecidableEq

/-- A ping, possibly raised by another one. -/
structure Ping where
  depth : UInt32
  time : Timestamp
deriving DecidableEq

/-- An event that cannot be written, for the reason given. -/
structure Unstorable where
  reason : String
  time : Timestamp
deriving DecidableEq

/-- An event with a tag that its type does not list. -/
structure Stray where
  time : Timestamp
deriving DecidableEq

/-- The field that holds when a probe happened. -/
def timeField : Reader.Field :=
  Reader.field "at" Timestamp.reader

/-- The payload of a door that opened or closed at a time. -/
def Door.content (time : Timestamp) : Json :=
  .obj [("at", time.toJson)]

/-- A door event as a payload. -/
def Door.toJson : Door → Json
  | .opened time => .obj [("Opened", Door.content time)]
  | .closed time => .obj [("Closed", Door.content time)]

/-- The content of a door event; it is an object. -/
def Door.timeReader : Reader Timestamp
  | .obj ms => do
    Reader.visit [timeField] ms
    Reader.required ms "at" Timestamp.reader
  | v => Reader.wrong "struct variant" v

/-- A door event in a JSON value. -/
def Door.reader : Reader Door := fun v => do
  let (name, content) ← Reader.choice ["Opened", "Closed"] "struct variant" v
  let time ← Door.timeReader content
  pure (if name = "Opened" then .opened time else .closed time)

/-- A ping as a payload. -/
def Ping.toJson (p : Ping) : Json :=
  .obj [("at", p.time.toJson), ("depth", Json.ofNat p.depth.toNat)]

/-- A ping in a JSON value. -/
def Ping.reader : Reader Ping := fun v => do
  let ms ← Reader.members "Ping" [Reader.field "depth" Reader.counter, timeField] false v
  let depth ← Reader.required ms "depth" Reader.counter
  let time ← Reader.required ms "at" Timestamp.reader
  pure ⟨depth, time⟩

/-- An unstorable event in a JSON value. -/
def Unstorable.reader : Reader Unstorable := fun v => do
  let ms ← Reader.members "Unstorable" [Reader.field "reason" Reader.string, timeField] false v
  let reason ← Reader.required ms "reason" Reader.string
  let time ← Reader.required ms "at" Timestamp.reader
  pure ⟨reason, time⟩

/-- A stray event in a JSON value. -/
def Stray.reader : Reader Stray := fun v => do
  let ms ← Reader.members "Stray" [timeField] false v
  let time ← Reader.required ms "at" Timestamp.reader
  pure ⟨time⟩

/-- The body of an impostor in a JSON value; there is nothing in it. -/
def impostorReader : Reader Unit
  | .null => .ok ()
  | v => Reader.wrong "unit struct Impostor" v

/-- The tag of a door event. -/
def Door.tag : Door → String
  | .opened _ => "door.opened"
  | .closed _ => "door.closed"

/-- When a door event happened. -/
def Door.time : Door → Timestamp
  | .opened time => time
  | .closed time => time

end Probe

instance : EventFamily ProbeKind where
  decEq := inferInstance
  Body
    | .door => Probe.Door
    | .impostor => Unit
    | .ping => Probe.Ping
    | .unstorable => Probe.Unstorable
    | .stray => Probe.Stray
  typeName
    | .door => "Door"
    | .impostor => "Impostor"
    | .ping => "Ping"
    | .unstorable => "Unstorable"
    | .stray => "Stray"
  tags
    | .door => ["door.opened", "door.closed"]
    | .impostor => ["impostor.only", "door.opened"]
    | .ping => ["test.ping"]
    | .unstorable => ["test.unstorable"]
    | .stray => ["stray.listed"]
  tag
    | .door => Probe.Door.tag
    | .impostor => fun _ => "door.opened"
    | .ping => fun _ => "test.ping"
    | .unstorable => fun _ => "test.unstorable"
    | .stray => fun _ => "stray.unlisted"
  occurredAt
    | .door => fun _ d => d.time
    | .impostor => fun now _ => now
    | .ping => fun _ p => p.time
    | .unstorable => fun _ u => u.time
    | .stray => fun _ s => s.time
  write
    | .door => fun d => .ok d.toJson
    | .impostor => fun _ => .ok .null
    | .ping => fun p => .ok p.toJson
    | .unstorable => fun u => .error u.reason
    | .stray => fun s => .ok (.obj [("at", s.time.toJson)])
  read
    | .door => Probe.Door.reader
    | .impostor => Probe.impostorReader
    | .ping => Probe.Ping.reader
    | .unstorable => Probe.Unstorable.reader
    | .stray => Probe.Stray.reader

end MaintenanceOutbox
