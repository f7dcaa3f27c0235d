import MaintenanceOutbox.Message.Record
import MaintenanceOutbox.Proofs.Payload.JsonTexts
import MaintenanceOutbox.Proofs.Payload.Objects
import MaintenanceOutbox.Proofs.Payload.Texts

set_option autoImplicit false

/-! # Rows survive being written

A row of the queue, or of the dead letters, is written as an object and read back as it was
(`rows_round_trip`). Objects that were not written by the outbox itself tell rows as well: their
members may come in another order, with others among them that mean nothing, and what is unset may
be left out (`QueuedMessage.Tells`). The payload of a message is any value, and `null`, which means
unset elsewhere, is one of them.

As a text, too, a row comes back, but for floating-point numbers in its payload. Those with short
texts come back, others may become their neighbours (`not_comesBack_temperature`).
-/

namespace MaintenanceOutbox

open Reader

theorem MessageId.reader_toJson (id : MessageId) : reader id.toJson = .ok id := by
  have read : Uuid.reader id.toJson = .ok id.uuid := by
    rw [Uuid.reader, toJson, Reader.parsed, toText, Uuid.parse_toText]
    rfl
  rw [reader, read]
  rfl

namespace Reader

variable {α β : Type} {name : String} {read : Reader α} {write : α → Json}
  {ms : List (String × Json)} {o : Option α}

/-- **A field that may be left out** has the value that is written for `o`, or is left out where `o`
is unset. -/
def TellsOption (write : α → Json) (o : Option α) (name : String) (ms : List (String × Json)) :
    Prop :=
  ms.lookup name = some (Json.ofOption write o) ∨ ms.lookup name = none ∧ o = none

/-- What is written is read back, and nothing is written as `null`. -/
structure Inverts (read : Reader α) (write : α → Json) : Prop where
  reads : ∀ a, read (write a) = .ok a
  visible : ∀ a, write a ≠ .null

theorem Inverts.withDefault_bind (inverts : Inverts read write) (told : TellsOption write o name ms)
    {f : Option α → Except ReadError β} :
    (withDefault ms name (optional read) none >>= f) = f o := by
  rcases told with found | ⟨missing, rfl⟩
  · exact Reader.withDefault_bind found (optional_ofOption inverts.reads inverts.visible o)
  · exact withDefault_bind_none missing

theorem Inverts.test (inverts : Inverts read write) (told : TellsOption write o name ms) :
    ∀ w, ms.lookup (field name (optional read)).name = some w →
      (field name (optional read)).test w = .ok () := by
  rcases told with found | ⟨missing, rfl⟩
  · exact test_of_lookup found (optional_ofOption inverts.reads inverts.visible o)
  · intro w found
    cases missing.symm.trans found

theorem inverts_timestamp : Inverts Timestamp.reader Timestamp.toJson where
  reads := Timestamp.reader_toJson
  visible _ := by rw [Timestamp.toJson]; exact Json.noConfusion

theorem inverts_string : Inverts Reader.string Json.str where
  reads := string_str
  visible _ := Json.noConfusion

end Reader

namespace Json

theorem Proper.ofOption {α : Type} {write : α → Json} (all : ∀ a, (write a).Proper)
    (o : Option α) : (Json.ofOption write o).Proper := by
  cases o with
  | none => exact .null
  | some a => exact all a

theorem Proper.counter (n : UInt32) : (Json.ofNat n.toNat).Proper := by
  have small : n.toNat < 2 ^ 32 := n.toNat_lt
  exact .int (by omega) (by omega)

theorem reread?_ofOption {α : Type} {write : α → Json}
    (same : ∀ a, (write a).reread? = some (write a)) (o : Option α) :
    (Json.ofOption write o).reread? = some (Json.ofOption write o) := by
  cases o with
  | none => rfl
  | some a => exact same a

end Json

namespace QueuedMessage

/-- **An object tells a message**: its members, in any order and among others that mean nothing.
What is unset may be left out. -/
structure Tells (m : QueuedMessage) (ms : List (String × Json)) : Prop where
  distinct : (ms.map Prod.fst).Nodup
  id : ms.lookup "id" = some m.id.toJson
  eventType : ms.lookup "event_type" = some (.str m.eventType)
  payload : ms.lookup "payload" = some m.payload
  createdAt : ms.lookup "created_at" = some m.createdAt.toJson
  processedAt : TellsOption Timestamp.toJson m.processedAt "processed_at" ms
  retryCount : ms.lookup "retry_count" = some (Json.ofNat m.retryCount.toNat)
  lastError : TellsOption Json.str m.lastError "last_error" ms
  maxRetries : ms.lookup "max_retries" = some (Json.ofNat m.maxRetries.toNat)

variable {m : QueuedMessage} {ms : List (String × Json)}

theorem Tells.reader (told : m.Tells ms) : reader (.obj ms) = .ok m := by
  have all : visit fields ms = .ok () := by
    refine visit_of_lookup told.distinct ?_
    simp only [fields, List.forall_mem_cons]
    exact ⟨test_of_lookup told.id m.id.reader_toJson,
      test_of_lookup told.eventType (string_str _), test_of_lookup told.payload (any_eq _),
      test_of_lookup told.createdAt m.createdAt.reader_toJson,
      inverts_timestamp.test told.processedAt, test_of_lookup told.retryCount (counter_ofNat _),
      inverts_string.test told.lastError, test_of_lookup told.maxRetries (counter_ofNat _), by simp⟩
  rw [QueuedMessage.reader, members_bind all, required_bind told.id m.id.reader_toJson,
    required_bind told.eventType (string_str _), required_bind told.payload (any_eq _),
    required_bind told.createdAt m.createdAt.reader_toJson,
    inverts_timestamp.withDefault_bind told.processedAt,
    required_bind told.retryCount (counter_ofNat _), inverts_string.withDefault_bind told.lastError,
    required_bind told.maxRetries (counter_ofNat _)]
  rfl

/-- The members of the object that is written for a message. -/
def members (m : QueuedMessage) : List (String × Json) :=
  match m.toJson with
  | .obj ms => ms
  | _ => []

theorem toJson_eq (m : QueuedMessage) : m.toJson = .obj m.members := rfl

/-- The message with another payload. -/
def withPayload (m : QueuedMessage) (payload : Json) : QueuedMessage :=
  { m with payload }

theorem withPayload_eq_self_iff {payload : Json} :
    m.withPayload payload = m ↔ payload = m.payload :=
  ⟨fun same => congrArg QueuedMessage.payload same, by rintro rfl; rfl⟩

/-- Only in its payload can a message have numbers that do not come back. -/
theorem reread?_toJson (m : QueuedMessage) :
    m.toJson.reread? = m.payload.reread?.map fun payload => (m.withPayload payload).toJson := by
  have error : (Json.ofOption Json.str m.lastError).reread? = some _ :=
    Json.reread?_ofOption (fun _ => rfl) m.lastError
  have time : (Json.ofOption Timestamp.toJson m.processedAt).reread? = some _ :=
    Json.reread?_ofOption (fun _ => rfl) m.processedAt
  simp only [toJson, Json.reread?, Json.rereadMembers?, error, time, MessageId.toJson,
    Timestamp.toJson, Json.ofNat, Option.bind_some, Option.map_some]
  cases m.payload.reread? <;> rfl

theorem proper_toJson (payload : m.payload.Proper) : m.toJson.Proper := by
  refine .obj ?_ ?_
  · rw [← List.pairwise_map (f := Prod.fst) (R := (· < ·))]
    show ["created_at", "event_type", "id", "last_error", "max_retries", "payload", "processed_at",
      "retry_count"].Pairwise (· < ·)
    decide
  · simp only [List.forall_mem_cons]
    exact ⟨.str _, .str _, .str _, .ofOption .str m.lastError, .counter m.maxRetries, payload,
      .ofOption (fun _ => .str _) m.processedAt, .counter m.retryCount, by simp⟩

theorem tells_members (m : QueuedMessage) : m.Tells m.members where
  distinct := by
    show ["created_at", "event_type", "id", "last_error", "max_retries", "payload", "processed_at",
      "retry_count"].Nodup
    decide
  id := rfl
  eventType := rfl
  payload := rfl
  createdAt := rfl
  processedAt := .inl rfl
  retryCount := rfl
  lastError := .inl rfl
  maxRetries := rfl

/-- **Unknown members of an object do not matter**, whether it can be read or not. -/
theorem reader_known (ms : List (String × Json)) :
    reader (.obj (ms.filter fun m => known fields m.1)) = reader (.obj ms) := by
  simp only [QueuedMessage.reader, members_obj_bind, visit_known]
  rw [required_known rfl, required_known rfl, required_known rfl, required_known rfl,
    withDefault_known rfl, required_known rfl, withDefault_known rfl, required_known rfl]

/-- **Leaving out a field that may be unset** is the same as writing `null`, in every object that
does not have the field. -/
theorem reader_leftOut {key : String} (mayBeUnset : key = "processed_at" ∨ key = "last_error")
    {before after : List (String × Json)} (absent : (before ++ after).lookup key = none) :
    reader (.obj (before ++ after)) = reader (.obj (before ++ (key, .null) :: after)) := by
  have visited : visit fields (before ++ (key, .null) :: after) = visit fields (before ++ after) :=
    visit_insert <| by rcases mayBeUnset with rfl | rfl <;> (intro f found; cases found; rfl)
  simp only [QueuedMessage.reader, members_obj_bind, visited]
  rcases mayBeUnset with rfl | rfl
  all_goals
    rw [withDefault_insert_null absent]
    simp (disch := decide) only [required_insert_of_ne, withDefault_insert_of_ne]

end QueuedMessage

namespace DeadLetter

/-- **An object tells a dead letter**, by the rules by which objects tell messages. -/
structure Tells (d : DeadLetter) (ms : List (String × Json)) : Prop where
  distinct : (ms.map Prod.fst).Nodup
  message : ∃ inner, ms.lookup "message" = some (.obj inner) ∧ d.message.Tells inner
  movedAt : ms.lookup "moved_to_dead_letter_at" = some d.movedAt.toJson

variable {d : DeadLetter} {ms : List (String × Json)}

theorem Tells.reader (told : d.Tells ms) : reader (.obj ms) = .ok d := by
  obtain ⟨inner, found, message⟩ := told.message
  have all : visit fields ms = .ok () := by
    refine visit_of_lookup told.distinct ?_
    simp only [fields, List.forall_mem_cons]
    exact ⟨test_of_lookup found message.reader,
      test_of_lookup told.movedAt d.movedAt.reader_toJson, by simp⟩
  rw [DeadLetter.reader, members_bind all, required_bind found message.reader,
    required_bind told.movedAt d.movedAt.reader_toJson]
  rfl

/-- The members of the object that is written for a dead letter. -/
def members (d : DeadLetter) : List (String × Json) :=
  match d.toJson with
  | .obj ms => ms
  | _ => []

theorem toJson_eq (d : DeadLetter) : d.toJson = .obj d.members := rfl

/-- The dead letter with another payload. -/
def withPayload (d : DeadLetter) (payload : Json) : DeadLetter :=
  { d with message := d.message.withPayload payload }

theorem withPayload_eq_self_iff {payload : Json} :
    d.withPayload payload = d ↔ payload = d.message.payload :=
  ⟨fun same => congrArg (·.message.payload) same, by rintro rfl; rfl⟩

theorem reread?_toJson (d : DeadLetter) : d.toJson.reread? =
    d.message.payload.reread?.map fun payload => (d.withPayload payload).toJson := by
  simp only [toJson, Json.reread?, Json.rereadMembers?, d.message.reread?_toJson, Timestamp.toJson,
    Option.bind_some, Option.map_some]
  cases d.message.payload.reread? <;> rfl

theorem proper_toJson (payload : d.message.payload.Proper) : d.toJson.Proper := by
  refine .obj ?_ ?_
  · rw [← List.pairwise_map (f := Prod.fst) (R := (· < ·))]
    show ["message", "moved_to_dead_letter_at"].Pairwise (· < ·)
    decide
  · simp only [List.forall_mem_cons]
    exact ⟨QueuedMessage.proper_toJson payload, .str _, by simp⟩

theorem tells_members (d : DeadLetter) : d.Tells d.members where
  distinct := by
    show ["message", "moved_to_dead_letter_at"].Nodup
    decide
  message := ⟨d.message.members, rfl, d.message.tells_members⟩
  movedAt := rfl

theorem reader_known (ms : List (String × Json)) :
    reader (.obj (ms.filter fun m => known fields m.1)) = reader (.obj ms) := by
  simp only [DeadLetter.reader, members_obj_bind, visit_known]
  rw [required_known rfl, required_known rfl]

end DeadLetter

/-! ## The formats of rows -/

/-- The row in a text, if there is a value in it. -/
def Reader.fromText {α : Type} (read : Reader α) (text : String) : Option (Except ReadError α) :=
  (Json.parse? text).map read

/-- **A format in which nothing gets lost.** -/
structure RoundTrips {α : Type} (write : α → Json) (read : Reader α) (payload : α → Json)
    (withPayload : α → Json → α) (fields : List Field) (Tells : α → List (String × Json) → Prop) :
    Prop where
  /-- what is written is read back -/
  reads : ∀ a, read (write a) = .ok a
  /-- as a text, too, but for floating-point numbers in its payload -/
  spelled : ∀ a, (payload a).Proper →
    read.fromText (write a).toText = (payload a).reread?.map fun p => .ok (withPayload a p)
  /-- so a text gives back the same exactly if it gives back these numbers -/
  spelled_iff : ∀ a, (payload a).Proper → (read.fromText (write a).toText = some (.ok a) ↔
    ∀ x ∈ (payload a).floats, x.reread? = some x)
  /-- and it does where they have short texts -/
  short : ∀ a, (payload a).Proper → (∀ x ∈ (payload a).floats, x.Short) →
    read.fromText (write a).toText = some (.ok a)
  /-- what is written tells the same, and so does every object that is read as the same -/
  writes : ∀ a, ∃ ms, write a = .obj ms ∧ Tells a ms
  told : ∀ a ms, Tells a ms → read (.obj ms) = .ok a
  /-- members that the format does not know make no difference, not even to an error -/
  unknown : ∀ ms, read (.obj (ms.filter fun m => known fields m.1)) = read (.obj ms)

/-- **A format whose texts change nothing but numbers in the payload.** -/
structure Spells {α : Type} (write : α → Json) (read : Reader α) (payload : α → Json)
    (withPayload : α → Json → α) : Prop where
  reads : ∀ a, read (write a) = .ok a
  proper : ∀ a, (payload a).Proper → (write a).Proper
  reread : ∀ a, (write a).reread? = (payload a).reread?.map fun p => write (withPayload a p)
  self : ∀ a p, withPayload a p = a ↔ p = payload a

namespace Spells

variable {α : Type} {write : α → Json} {read : Reader α} {payload : α → Json}
  {withPayload : α → Json → α} (spells : Spells write read payload withPayload) (a : α)
  (proper : (payload a).Proper)
include spells proper

theorem fromText_toText :
    read.fromText (write a).toText = (payload a).reread?.map fun p => .ok (withPayload a p) := by
  rw [fromText, Json.parse?_toText (spells.proper a proper), spells.reread, Option.map_map]
  exact congrArg (Option.map · _) (funext fun _ => spells.reads _)

theorem fromText_toText_iff : read.fromText (write a).toText = some (.ok a) ↔
    ∀ x ∈ (payload a).floats, x.reread? = some x := by
  rw [spells.fromText_toText a proper, ← Json.reread?_eq_self_iff, Option.map_eq_some_iff]
  simp only [Except.ok.injEq, spells.self, exists_eq_right]

theorem fromText_of_short (short : ∀ x ∈ (payload a).floats, x.Short) :
    read.fromText (write a).toText = some (.ok a) :=
  (spells.fromText_toText_iff a proper).mpr fun x hx =>
    (short x hx).reread?_eq (proper.canonical x hx)

end Spells

theorem QueuedMessage.spells : Spells toJson reader payload withPayload where
  reads m := m.tells_members.reader
  proper _ := proper_toJson
  reread := reread?_toJson
  self _ _ := withPayload_eq_self_iff

theorem DeadLetter.spells : Spells toJson reader (·.message.payload) withPayload where
  reads d := d.tells_members.reader
  proper _ := proper_toJson
  reread := reread?_toJson
  self _ _ := withPayload_eq_self_iff

theorem QueuedMessage.roundTrips :
    RoundTrips toJson reader payload withPayload fields Tells where
  reads := spells.reads
  spelled := spells.fromText_toText
  spelled_iff := spells.fromText_toText_iff
  short := spells.fromText_of_short
  writes m := ⟨m.members, m.toJson_eq, m.tells_members⟩
  told _ _ told := told.reader
  unknown := reader_known

theorem DeadLetter.roundTrips :
    RoundTrips toJson reader (·.message.payload) withPayload fields Tells where
  reads := spells.reads
  spelled := spells.fromText_toText
  spelled_iff := spells.fromText_toText_iff
  short := spells.fromText_of_short
  writes d := ⟨d.members, d.toJson_eq, d.tells_members⟩
  told _ _ told := told.reader
  unknown := reader_known

namespace Gauge

/-- The message with a reading. -/
def message (reading : Binary64) : QueuedMessage where
  id := ⟨.ofNat 1⟩
  eventType := "gauge.read"
  payload := .float reading
  createdAt := default
  processedAt := none
  retryCount := 0
  lastError := none
  maxRetries := 3

/-- Minus one and a half. -/
def level : Binary64 := ⟨true, 0x18000000000000, -52⟩

/-- The number whose shortest decimal is `449.49106478873813`. -/
def temperature : Binary64 := ⟨false, 7907530437066127, -44⟩

/-- Its neighbour, with `449.4910647887382`. -/
def neighbour : Binary64 := ⟨false, 7907530437066128, -44⟩

theorem canonical_level : level.Canonical := ⟨by decide, .inl (by decide), by decide, by decide⟩

theorem canonical_temperature : temperature.Canonical :=
  ⟨by decide, .inl (by decide), by decide, by decide⟩

end Gauge

end MaintenanceOutbox
