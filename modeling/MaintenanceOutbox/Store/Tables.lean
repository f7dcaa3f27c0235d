import MaintenanceOutbox.Message.Queued
import MaintenanceOutbox.Store.Error

set_option autoImplicit false

/-! # The committed tables of a store

A `Store` holds what is committed: the rows of the queue, the dead letters, and the names of the
rows that open transactions have locked.

**Order of delivery.** Every row has a sequence number, drawn when it enters the table. Rows are
delivered by their time of creation, and rows created at the same time by their sequence numbers. A
row keeps its number for as long as it stays in the table.

The tables are lists: rows in the order of their numbers, dead letters and locks in the order in
which they came. No answer depends on that, as ids do not repeat within a table.
-/

namespace MaintenanceOutbox

/-- A message in the queue, with the number by which it was put there. -/
structure Row where
  seq : Nat
  message : QueuedMessage

/-- The committed tables of a store. -/
structure Store where
  /-- the sequence number of the next row -/
  nextSeq : Nat := 0
  rows : List Row := []
  deadLetters : List DeadLetter := []
  /-- the rows that open transactions have locked -/
  locked : List MessageId := []

/-- The messages of a store, counted. -/
structure StoreStats where
  pending : Nat
  processed : Nat
  deadLettered : Nat
deriving DecidableEq, Repr

/-- **The order of delivery**: does a message created at `t` with number `m` come before one created
at `u` with number `n`? -/
def deliveredBefore (t : Timestamp) (m : Nat) (u : Timestamp) (n : Nat) : Bool :=
  decide (t < u) || (!decide (u < t) && decide (m < n))

namespace Row

/-- The name of the message in a row. -/
def id (r : Row) : MessageId :=
  r.message.id

/-- Is row `r` delivered before row `s`? -/
def before (r s : Row) : Bool :=
  deliveredBefore r.message.createdAt r.seq s.message.createdAt s.seq

/-- Put a row into a list that is in the order of delivery. -/
def insertSorted (r : Row) : List Row → List Row
  | [] => [r]
  | s :: rest => if r.before s then r :: s :: rest else s :: insertSorted r rest

/-- Rows in the order of delivery. -/
def sort (rows : List Row) : List Row :=
  rows.foldr insertSorted []

/-- Of some rows the one that is delivered first. -/
def first? : List Row → Option Row
  | [] => none
  | r :: rest =>
    match first? rest with
    | none => some r
    | some s => if s.before r then some s else some r

end Row

namespace DeadLetter

/-- Dead letters are listed by the time they became ones, and then by name. -/
def before (a b : DeadLetter) : Bool :=
  decide (a.movedAt < b.movedAt) || (!decide (b.movedAt < a.movedAt) && decide (a.id < b.id))

/-- Put a dead letter into a list that is in the order of listing. -/
def insertSorted (d : DeadLetter) : List DeadLetter → List DeadLetter
  | [] => [d]
  | e :: rest => if d.before e then d :: e :: rest else e :: insertSorted d rest

/-- Dead letters in the order of listing. -/
def sort (letters : List DeadLetter) : List DeadLetter :=
  letters.foldr insertSorted []

end DeadLetter

namespace Store

/-! ## Looking up -/

/-- The row of a message. -/
def row? (st : Store) (id : MessageId) : Option Row :=
  st.rows.find? (·.id = id)

/-- The committed message with a given name. -/
def message? (st : Store) (id : MessageId) : Option QueuedMessage :=
  (st.row? id).map (·.message)

/-- The dead letter with a given name. -/
def deadLetter? (st : Store) (id : MessageId) : Option DeadLetter :=
  st.deadLetters.find? (·.id = id)

/-- The committed messages in the order of delivery. -/
def messages (st : Store) : List QueuedMessage :=
  (Row.sort st.rows).map (·.message)

/-- Has an open transaction locked the row of the message? -/
def isLocked (st : Store) (id : MessageId) : Bool :=
  decide (id ∈ st.locked)

/-- The messages of the store, counted. -/
def stats (st : Store) : StoreStats :=
  let pending := (st.rows.filter (·.message.isPending)).length
  ⟨pending, st.rows.length - pending, st.deadLetters.length⟩

/-! ## Changing the tables -/

/-- Put a message into the queue, with the next sequence number. A row that has its name already
gives way. -/
def pushRow (st : Store) (m : QueuedMessage) : Store :=
  { st with
    nextSeq := st.nextSeq + 1
    rows := st.rows.filter (·.id ≠ m.id) ++ [⟨st.nextSeq, m⟩] }

/-- Write a message into its row, if it has one. -/
def updateRow (st : Store) (m : QueuedMessage) : Store :=
  { st with rows := st.rows.map fun r => if r.id = m.id then { r with message := m } else r }

/-- Take a message out of the queue and make it a dead letter. -/
def bury (st : Store) (d : DeadLetter) : Store :=
  { st with
    rows := st.rows.filter (·.id ≠ d.id)
    deadLetters := st.deadLetters.filter (·.id ≠ d.id) ++ [d] }

/-- Lock the row of a message. -/
def lock (st : Store) (id : MessageId) : Store :=
  { st with locked := st.locked ++ [id] }

/-- Free the locks on the given messages. -/
def unlock (st : Store) (ids : List MessageId) : Store :=
  { st with locked := st.locked.filter (· ∉ ids) }

/-! ## What the changes do to the tables

Each change, seen through the lookups: which entry is under a name, and is it locked. -/

/-- What is found under a name after the entries of one name were dropped. -/
theorem find?_filter_ne {α : Type} (name : α → MessageId) (gone id : MessageId)
    (entries : List α) :
    (entries.filter (name · ≠ gone)).find? (name · = id) =
      if gone = id then none else entries.find? (name · = id) := by
  induction entries with
  | nil => simp
  | cons entry rest ih =>
    by_cases dropped : name entry = gone <;> by_cases found : name entry = id <;> grind

/-- A new row is found under its name, and nothing else changes. -/
theorem row?_pushRow (st : Store) (m : QueuedMessage) (id : MessageId) :
    (st.pushRow m).row? id = if m.id = id then some ⟨st.nextSeq, m⟩ else st.row? id := by
  simp only [row?, pushRow, List.find?_append, find?_filter_ne Row.id]
  split
  · next same => simp [Row.id, same]
  · next other => simp [Row.id, other]

/-- A row that is written keeps its place; a message without a row is not written. -/
theorem message?_updateRow (st : Store) (m : QueuedMessage) (id : MessageId) :
    (st.updateRow m).message? id =
      if m.id = id then (st.message? id).map fun _ => m else st.message? id := by
  simp only [message?, row?, updateRow]
  induction st.rows with
  | nil => simp
  | cons r rest ih =>
    by_cases written : r.id = m.id <;> by_cases found : r.id = id <;> grind [Row.id]

/-- A dead letter has no row. -/
theorem row?_bury (st : Store) (d : DeadLetter) (id : MessageId) :
    (st.bury d).row? id = if d.id = id then none else st.row? id :=
  find?_filter_ne Row.id d.id id st.rows

/-- A dead letter is found under its name, and nothing else changes. -/
theorem deadLetter?_bury (st : Store) (d : DeadLetter) (id : MessageId) :
    (st.bury d).deadLetter? id = if d.id = id then some d else st.deadLetter? id := by
  simp only [deadLetter?, bury, List.find?_append, find?_filter_ne DeadLetter.id]
  split
  · next same => simp [same]
  · next other => simp [other]

/-- Locking a row locks that row only. -/
theorem isLocked_lock (st : Store) (id other : MessageId) :
    (st.lock id).isLocked other = (decide (other = id) || st.isLocked other) := by
  simp [isLocked, lock, Bool.or_comm]

/-- Freeing locks frees those only. -/
theorem isLocked_unlock (st : Store) (ids : List MessageId) (id : MessageId) :
    (st.unlock ids).isLocked id = (st.isLocked id && decide (id ∉ ids)) := by
  simp [isLocked, unlock]

/-! ## Administration

What operators do to a store. These calls do not take part in transactions and do not look at
locks. -/

/-- The first dead letters, at most `limit` of them. -/
def listDeadLetters (st : Store) (limit : Nat) : List DeadLetter :=
  (DeadLetter.sort st.deadLetters).take limit

/-- Put a dead letter back into the queue, with all its attempts, behind the other rows created at
the same time. -/
def requeue (st : Store) (id : MessageId) : Except StoreError (QueuedMessage × Store) :=
  match st.deadLetter? id with
  | none => .error (.notFound id)
  | some d =>
    let m := d.requeued
    .ok (m, { st with deadLetters := st.deadLetters.filter (·.id ≠ id) }.pushRow m)

/-- Delete a dead letter. -/
def deleteDeadLetter (st : Store) (id : MessageId) : Except StoreError Store :=
  match st.deadLetter? id with
  | none => .error (.notFound id)
  | some _ => .ok { st with deadLetters := st.deadLetters.filter (·.id ≠ id) }

/-- Was the message delivered before `cutoff`? -/
def processedBefore (cutoff : Timestamp) (m : QueuedMessage) : Bool :=
  match m.processedAt with
  | some time => decide (time < cutoff)
  | none => false

/-- Delete the rows delivered before `cutoff`, and count them. -/
def purge (st : Store) (cutoff : Timestamp) : Nat × Store :=
  let kept := st.rows.filter fun r => !processedBefore cutoff r.message
  (st.rows.length - kept.length, { st with rows := kept })

end Store

end MaintenanceOutbox
