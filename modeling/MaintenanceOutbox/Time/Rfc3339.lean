import MaintenanceOutbox.Json.Reader
import MaintenanceOutbox.Text.Blank
import MaintenanceOutbox.Time.Timestamp

set_option autoImplicit false

/-! # Timestamps as texts

A timestamp is written after RFC 3339, in UTC with a `Z`, with as many digits of the second as it
needs, in groups of three. A year outside 0 to 9999 has a sign and at least four digits.

Reading is more lenient: blanks may stand before the parts, numbers may be shorter than usual, the
`T` may be a `t` or a space, the zone may be `Z`, `UTC` or an offset with or without its colon, and
digits of the second past the ninth are dropped. The first fault in the order of reading decides
which error is reported. Whether the day exists is asked after that, and last of all whether it
still does in UTC: an offset can lead out of the calendar at either end.
-/

namespace MaintenanceOutbox

/-- Why a text is not a timestamp. -/
inductive TimeError where
  /-- the text ends too early -/
  | premature
  /-- a character that cannot stand where it stands -/
  | invalid
  /-- no such day, time of day or offset -/
  | outOfRange
  /-- the day exists where the clock stands, but not in UTC -/
  | impossible
  /-- text after the timestamp -/
  | trailing
deriving DecidableEq, Repr

/-- The text of a timestamp error. -/
def TimeError.message : TimeError → String
  | .premature => "premature end of input"
  | .invalid => "input contains invalid characters"
  | .outOfRange => "input is out of range"
  | .impossible => "no possible date and time matching input"
  | .trailing => "trailing input"

namespace Timestamp

/-! ## Writing -/

/-- The digits of `n`, with zeros in front up to `width` digits. -/
def padded (width n : Nat) : List Char :=
  let digits := Nat.toDigits 10 n
  List.replicate (width - digits.length) '0' ++ digits

/-- A year as it is written. -/
def yearText (year : Int) : List Char :=
  if 0 ≤ year ∧ year ≤ 9999 then padded 4 year.toNat
  else (if year < 0 then '-' else '+') :: padded 4 year.natAbs

/-- The digits of the second after the point, in groups of three, as many as are needed. -/
def fractionText (nanosecond : Nat) : List Char :=
  if nanosecond = 0 then []
  else if nanosecond % 1000000 = 0 then '.' :: padded 3 (nanosecond / 1000000)
  else if nanosecond % 1000 = 0 then '.' :: padded 6 (nanosecond / 1000)
  else '.' :: padded 9 nanosecond

/-- The characters of the written form of a timestamp. -/
def toChars (t : Timestamp) : List Char :=
  yearText t.date.year ++ '-' :: padded 2 t.date.month ++ '-' :: padded 2 t.date.day ++
    'T' :: padded 2 t.hour ++ ':' :: padded 2 t.minute ++ ':' :: padded 2 t.second ++
    fractionText t.nanosecond ++ ['Z']

/-- The written form of a timestamp. -/
def toText (t : Timestamp) : String :=
  String.ofList t.toChars

/-! ## Reading -/

/-- The number that a list of decimal digits denotes. -/
def digitsValue (cs : List Char) : Nat :=
  cs.foldl (fun n c => n * 10 + (c.toNat - 48)) 0

/-- A number of at least one and at most `width` digits. -/
def number (width : Nat) (cs : List Char) : Except TimeError (Nat × List Char) :=
  match cs with
  | [] => .error .premature
  | c :: _ =>
    if c.isDigit then
      let digits := (cs.take width).takeWhile Char.isDigit
      .ok (digitsValue digits, cs.drop digits.length)
    else .error .invalid

/-- A number with at most `width` digits in the given range, blanks before it. -/
def numberIn (width low high : Nat) (cs : List Char) : Except TimeError (Nat × List Char) := do
  let (n, rest) ← number width (Text.dropBlanks cs)
  if low ≤ n ∧ n ≤ high then pure (n, rest) else .error .outOfRange

/-- A number of any length below `limit`. -/
def longNumber (limit : Nat) (cs : List Char) : Except TimeError (Nat × List Char) := do
  let (n, rest) ← number cs.length cs
  if n < limit then pure (n, rest) else .error .outOfRange

/-- The bound on the numbers that can stand for a year: 2 to the power of 31. -/
def yearLimit : Nat := 0x80000000

/-- A year: up to four digits, or a sign and any number of digits; blanks may stand before it. -/
def year (cs : List Char) : Except TimeError (Int × List Char) :=
  match Text.dropBlanks cs with
  | '-' :: rest => do
    let (n, rest) ← longNumber (yearLimit + 1) rest
    pure (-(n : Int), rest)
  | '+' :: rest => do
    let (n, rest) ← longNumber yearLimit rest
    pure ((n : Int), rest)
  | cs => do
    let (n, rest) ← number 4 cs
    pure ((n : Int), rest)

/-- The separator `c`, blanks before it. -/
def separator (c : Char) (cs : List Char) : Except TimeError (List Char) :=
  match Text.dropBlanks cs with
  | [] => .error .premature
  | d :: rest => if d = c then .ok rest else .error .invalid

/-- The separator between the day and the time of day. -/
def dayEnd : List Char → Except TimeError (List Char)
  | [] => .error .premature
  | c :: rest => if c = 'T' || c = 't' || c = ' ' then .ok rest else .error .invalid

/-- The nanoseconds, if a point is there. -/
def nanoseconds : List Char → Except TimeError (Nat × List Char)
  | '.' :: cs => do
    let (n, rest) ← number 9 cs
    let places := cs.length - rest.length
    pure (n * Nat.pow 10 (9 - places), rest.dropWhile Char.isDigit)
  | cs => .ok (0, cs)

/-- Two digits of an offset; `high` bounds the first. -/
def offsetDigits (high : Char) : List Char → Except TimeError (Nat × List Char)
  | a :: b :: rest =>
    if a.isDigit && b.isDigit then
      if a ≤ high then .ok (digitsValue [a, b], rest) else .error .outOfRange
    else .error .invalid
  | [c] => .error (if c.utf8Size = 1 then .premature else .invalid)
  | [] => .error .premature

/-- Hours and minutes of an offset, in minutes. The colon between them may be missing, and blanks
may stand there. -/
def offsetMinutes (cs : List Char) : Except TimeError (Nat × List Char) := do
  let (hours, rest) ← offsetDigits '9' cs
  let (minutes, rest) ← offsetDigits '5' (rest.dropWhile fun c => c = ':' || Text.isBlankChar c)
  pure (hours * 60 + minutes, rest)

/-- The zone of a timestamp, as the minutes its clocks are ahead of UTC. -/
def zone (cs : List Char) : Except TimeError (Int × List Char) :=
  let cs := Text.dropBlanks cs
  if (cs.take 3).map Char.toUpper = ['U', 'T', 'C'] then .ok (0, cs.drop 3)
  else
    match cs with
    | [] => .error .premature
    | c :: rest =>
      if c = 'Z' || c = 'z' then .ok (0, rest)
      else if c = '+' then do
        let (n, rest) ← offsetMinutes rest
        pure ((n : Int), rest)
      else if c = '-' || c = '\u2212' then do
        let (n, rest) ← offsetMinutes rest
        pure (-(n : Int), rest)
      else .error .invalid

/-- The timestamp that a list of characters denotes. -/
def ofChars (cs : List Char) : Except TimeError Timestamp := do
  let (year, cs) ← year cs
  let cs ← separator '-' cs
  let (month, cs) ← numberIn 2 1 12 cs
  let cs ← separator '-' cs
  let (day, cs) ← numberIn 2 1 31 cs
  let cs ← dayEnd cs
  let (hour, cs) ← numberIn 2 0 23 cs
  let cs ← separator ':' cs
  let (minute, cs) ← numberIn 2 0 59 cs
  let cs ← separator ':' cs
  let (second, cs) ← numberIn 2 0 60 cs
  let (nanosecond, cs) ← nanoseconds cs
  let (offset, cs) ← zone cs
  if !(Text.dropBlanks cs).isEmpty then .error .trailing
  if offset.natAbs ≥ 24 * 60 then .error .outOfRange
  match Date.ofNumbers? year month day with
  | none => .error .outOfRange
  | some date =>
    match ofLocal? date hour minute second nanosecond offset with
    | some t => pure t
    | none => .error .impossible

/-- The timestamp that a text denotes. -/
def parse (s : String) : Except TimeError Timestamp :=
  ofChars s.toList

/-- A timestamp in a JSON value. -/
def reader : Reader Timestamp :=
  Reader.parsed "an RFC 3339 formatted date and time string" parse TimeError.message

/-- A timestamp as a JSON value. -/
def toJson (t : Timestamp) : Json :=
  .str t.toText

end Timestamp

end MaintenanceOutbox
