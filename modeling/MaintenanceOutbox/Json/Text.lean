import MaintenanceOutbox.Json.Notation
import MaintenanceOutbox.Json.Value

set_option autoImplicit false

/-! # JSON texts

`Json.toText` writes a value without spaces, and `Json.parse?` reads a text, with blanks between its
tokens. Reading keeps apart integers and floating-point numbers, see `MaintenanceOutbox.Json.Value`.
An integer that fits neither a signed nor an unsigned word of 64 bits becomes a floating-point
number, and so does `-0`. Of an object with a repeated key the last member counts.

The reader works on the list of characters that are left, and every step of it takes a character
away, so the length of the text is enough fuel.
-/

namespace MaintenanceOutbox.Json

/-! ## Writing -/

/-- A number below sixteen as a digit. -/
def hexDigit (n : Nat) : Char :=
  Nat.digitChar n

/-- How one character is written inside a JSON string. -/
def escapeChar (c : Char) : List Char :=
  if c = '"' then ['\\', '"']
  else if c = '\\' then ['\\', '\\']
  else if c = '\n' then ['\\', 'n']
  else if c = '\r' then ['\\', 'r']
  else if c = '\t' then ['\\', 't']
  else if c.toNat < 0x20 then
    ['\\', 'u', '0', '0', hexDigit (c.toNat / 16), hexDigit (c.toNat % 16)]
  else [c]

/-- A string between quotation marks, escaped. -/
def stringText (s : String) : String :=
  String.ofList (['"'] ++ s.toList.flatMap escapeChar ++ ['"'])

mutual

/-- The text of a value, without spaces. -/
def toText : Json → String
  | .null => "null"
  | .bool true => "true"
  | .bool false => "false"
  | .int n => toString n
  | .float x => x.toText
  | .str s => stringText s
  | .arr items => "[" ++ ",".intercalate (itemTexts items) ++ "]"
  | .obj members => "\x7b" ++ ",".intercalate (memberTexts members) ++ "\x7d"

/-- The texts of the items of an array. -/
def itemTexts : List Json → List String
  | [] => []
  | v :: rest => toText v :: itemTexts rest

/-- The texts of the members of an object. -/
def memberTexts : List (String × Json) → List String
  | [] => []
  | (k, v) :: rest => (stringText k ++ ":" ++ toText v) :: memberTexts rest

end

/-! ## Reading -/

/-- The characters from the first one that is no blank. -/
def skipBlanks (cs : List Char) : List Char :=
  cs.dropWhile fun c => c = ' ' || c = '\n' || c = '\r' || c = '\t'

/-- The value of a digit to the base sixteen. -/
def hexValue? (c : Char) : Option Nat :=
  if '0' ≤ c && c ≤ '9' then some (c.toNat - '0'.toNat)
  else if 'a' ≤ c && c ≤ 'f' then some (c.toNat - 'a'.toNat + 10)
  else if 'A' ≤ c && c ≤ 'F' then some (c.toNat - 'A'.toNat + 10)
  else none

/-- Four digits to the base sixteen, and what follows. -/
def hexFour? : List Char → Option (Nat × List Char)
  | a :: b :: c :: d :: rest => do
    let a ← hexValue? a
    let b ← hexValue? b
    let c ← hexValue? c
    let d ← hexValue? d
    pure (((a * 16 + b) * 16 + c) * 16 + d, rest)
  | _ => none

/-- The character of an escape `\u…`, the backslash and the letter being read already. A character
above `U+FFFF` is written as two such escapes, its surrogates. -/
def unicodeEscape? (cs : List Char) : Option (Char × List Char) := do
  let (high, rest) ← hexFour? cs
  if 0xD800 ≤ high && high < 0xDC00 then
    match rest with
    | '\\' :: 'u' :: more =>
      let (low, rest) ← hexFour? more
      if 0xDC00 ≤ low && low < 0xE000 then
        pure (Char.ofNat (0x10000 + (high - 0xD800) * 0x400 + (low - 0xDC00)), rest)
      else none
    | _ => none
  else if 0xDC00 ≤ high && high < 0xE000 then none
  else pure (Char.ofNat high, rest)

/-- The characters of a string up to its closing quotation mark, and what follows the mark. -/
def stringBody? : Nat → List Char → List Char → Option (String × List Char)
  | 0, _, _ => none
  | fuel + 1, read, cs =>
    match cs with
    | '"' :: rest => some (String.ofList read.reverse, rest)
    | '\\' :: 'u' :: rest => do
      let (c, rest) ← unicodeEscape? rest
      stringBody? fuel (c :: read) rest
    | '\\' :: e :: rest =>
      match e with
      | '"' | '\\' | '/' => stringBody? fuel (e :: read) rest
      | 'n' => stringBody? fuel ('\n' :: read) rest
      | 'r' => stringBody? fuel ('\r' :: read) rest
      | 't' => stringBody? fuel ('\t' :: read) rest
      | 'b' => stringBody? fuel ('\x08' :: read) rest
      | 'f' => stringBody? fuel ('\x0c' :: read) rest
      | _ => none
    | c :: rest => if c.toNat < 0x20 then none else stringBody? fuel (c :: read) rest
    | [] => none

/-- The value of a decimal digit. -/
def digitValue (c : Char) : Nat :=
  c.toNat - '0'.toNat

/-- The number that a list of decimal digits denotes. -/
def digitsValue (cs : List Char) : Nat :=
  cs.foldl (fun n c => n * 10 + digitValue c) 0

/-- Write digits behind a number, as long as it fits in a word of 64 bits. The result is the number
and how many of the digits found no room. -/
def appendDigits : Nat → List Char → Nat × Nat
  | n, [] => (n, 0)
  | n, c :: rest =>
    let next := n * 10 + digitValue c
    if next < UInt64.size then appendDigits next rest else (n, rest.length + 1)

/-- The decimal digits at the head of a text, and what follows them. -/
def spanDigits (cs : List Char) : List Char × List Char :=
  (cs.takeWhile Char.isDigit, cs.dropWhile Char.isDigit)

/-- The digits after the point of a number, none where there is no point. -/
def pointDigits? : List Char → Option (List Char × List Char)
  | '.' :: rest =>
    let (digits, rest) := spanDigits rest
    if digits.isEmpty then none else some (digits, rest)
  | cs => some ([], cs)

/-- The exponent of a number, if one is written. -/
def exponent? : List Char → Option (Option Int × List Char)
  | c :: rest =>
    if c = 'e' || c = 'E' then
      let (negative, rest) := match rest with
        | '-' :: rest => (true, rest)
        | '+' :: rest => (false, rest)
        | rest => (false, rest)
      let (digits, rest) := spanDigits rest
      if digits.isEmpty then none
      else
        let n : Int := digitsValue digits
        some (some (if negative then -n else n), rest)
    else some (none, c :: rest)
  | [] => some (none, [])

/-- The integer `± n`, if it fits in a word of 64 bits, with a sign if one is written. -/
def word? (negative : Bool) (n : Nat) : Option Int :=
  if negative then
    if 0 < n ∧ 2 * n ≤ UInt64.size then some (-(n : Int)) else none
  else if n < UInt64.size then some n
  else none

/-- A number, its sign being read already. Of the digits in front of the point those beyond a word
of 64 bits count as zeros, of those behind it they do not count. -/
def number? (negative : Bool) (cs : List Char) : Option (Json × List Char) := do
  let (whole, rest) := spanDigits cs
  if whole.isEmpty || (whole.length > 1 && whole.head? = some '0') then none
  let pointed := rest.head? = some '.'
  let (places, rest) ← pointDigits? rest
  let (exponent, rest) ← exponent? rest
  match word? negative (digitsValue whole), pointed || exponent.isSome with
  | some n, false => pure (.int n, rest)
  | _, _ =>
    let (digits, zeros) := appendDigits 0 whole
    let (digits, unread) := appendDigits digits places
    let shift : Int := zeros - (places.length - unread)
    let value ← Binary64.ofDecimal? negative digits (exponent.getD 0 + shift)
    pure (.float value, rest)

mutual

/-- A value at the head of a text, and what follows it. -/
def value? : Nat → List Char → Option (Json × List Char)
  | 0, _ => none
  | fuel + 1, cs =>
    match skipBlanks cs with
    | 'n' :: 'u' :: 'l' :: 'l' :: rest => some (.null, rest)
    | 't' :: 'r' :: 'u' :: 'e' :: rest => some (.bool true, rest)
    | 'f' :: 'a' :: 'l' :: 's' :: 'e' :: rest => some (.bool false, rest)
    | '"' :: rest => do
      let (s, rest) ← stringBody? (rest.length + 1) [] rest
      pure (.str s, rest)
    | '[' :: rest =>
      match skipBlanks rest with
      | ']' :: rest => some (.arr [], rest)
      | rest => do
        let (items, rest) ← items? fuel rest
        pure (.arr items, rest)
    | '\x7b' :: rest =>
      match skipBlanks rest with
      | '\x7d' :: rest => some (.obj [], rest)
      | rest => do
        let (members, rest) ← members? fuel rest
        pure (object members, rest)
    | '-' :: rest => number? true rest
    | rest => number? false rest

/-- The items of an array up to its closing bracket; there is at least one. -/
def items? : Nat → List Char → Option (List Json × List Char)
  | 0, _ => none
  | fuel + 1, cs => do
    let (v, rest) ← value? fuel cs
    match skipBlanks rest with
    | ',' :: rest =>
      let (vs, rest) ← items? fuel rest
      pure (v :: vs, rest)
    | ']' :: rest => pure ([v], rest)
    | _ => none

/-- The members of an object up to its closing brace; there is at least one. -/
def members? : Nat → List Char → Option (List (String × Json) × List Char)
  | 0, _ => none
  | fuel + 1, cs =>
    match skipBlanks cs with
    | '"' :: rest => do
      let (k, rest) ← stringBody? (rest.length + 1) [] rest
      match skipBlanks rest with
      | ':' :: rest =>
        let (v, rest) ← value? fuel rest
        match skipBlanks rest with
        | ',' :: rest =>
          let (ms, rest) ← members? fuel rest
          pure ((k, v) :: ms, rest)
        | '\x7d' :: rest => pure ([(k, v)], rest)
        | _ => none
      | _ => none
    | _ => none

end

/-- The value that a text denotes, if the whole text is one JSON value. -/
def parse? (s : String) : Option Json :=
  let cs := s.toList
  match value? (2 * cs.length + 2) cs with
  | some (v, rest) => if (skipBlanks rest).isEmpty then some v else none
  | none => none

end MaintenanceOutbox.Json
