import MaintenanceOutbox.Time.Date

set_option autoImplicit false

/-! # Points in time

A `Timestamp` is a day and a time of day in UTC, to the nanosecond. Every minute may have a 61st
second, its leap second, which comes after `59.999…` and before the next minute.

**The order is that of one number.** `Timestamp.rank` weighs day, hour, minute, second and
nanosecond so that no part outweighs the one before it; two timestamps are compared by their ranks.
-/

namespace MaintenanceOutbox

namespace Timestamp

/-- How many nanoseconds a second has. -/
def secondSize : Nat := 1000000000

/-- Do the four numbers name a time of day, the second 60 being a leap second? -/
def IsTimeOfDay (hour minute second nanosecond : Nat) : Prop :=
  hour < 24 ∧ minute < 60 ∧ second < 61 ∧ nanosecond < secondSize

instance (hour minute second nanosecond : Nat) :
    Decidable (IsTimeOfDay hour minute second nanosecond) := by
  unfold IsTimeOfDay; infer_instance

end Timestamp

/-- A point in time, in UTC. -/
structure Timestamp where
  date : Date
  hour : Nat
  minute : Nat
  second : Nat
  nanosecond : Nat
  ok : Timestamp.IsTimeOfDay hour minute second nanosecond
deriving DecidableEq

namespace Timestamp

/-- The number by which timestamps are ordered. -/
def rank (t : Timestamp) : Int :=
  (((((t.date.year * 13 + t.date.month) * 32 + t.date.day) * 24 + t.hour) * 60 + t.minute) * 61 +
    t.second) * secondSize + t.nanosecond

instance : LT Timestamp := ⟨fun a b => a.rank < b.rank⟩

instance : LE Timestamp := ⟨fun a b => a.rank ≤ b.rank⟩

instance (a b : Timestamp) : Decidable (a < b) := inferInstanceAs (Decidable (a.rank < b.rank))

instance (a b : Timestamp) : Decidable (a ≤ b) := inferInstanceAs (Decidable (a.rank ≤ b.rank))

/-- The point in time with the given day and time of day, if there is such a time of day. -/
def ofNumbers? (date : Date) (hour minute second nanosecond : Nat) : Option Timestamp :=
  if h : IsTimeOfDay hour minute second nanosecond then
    some ⟨date, hour, minute, second, nanosecond, h⟩
  else none

/-- The point in time at which clocks that are `offset` minutes ahead of UTC show the given day and
time; `offset` is less than a day. -/
def ofLocal? (date : Date) (hour minute second nanosecond : Nat) (offset : Int) :
    Option Timestamp := do
  let minutes : Int := hour * 60 + minute - offset
  let date ←
    if minutes < 0 then date.previous?
    else if minutes < 24 * 60 then some date
    else date.next?
  let minuteOfDay := (minutes % (24 * 60)).toNat
  ofNumbers? date (minuteOfDay / 60) (minuteOfDay % 60) second nanosecond

/-- The midnight at which the year 2024 begins. -/
def year2024 : Timestamp :=
  ⟨⟨2024, 1, 1, by decide⟩, 0, 0, 0, 0, by decide⟩

instance : Inhabited Timestamp := ⟨year2024⟩

end Timestamp

end MaintenanceOutbox
