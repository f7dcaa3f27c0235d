set_option autoImplicit false

/-! # Universally unique identifiers

A `Uuid` is a number of 128 bits. It is written as 32 digits to the base sixteen, in lower case, in
five groups of 8, 4, 4, 4 and 12 digits with hyphens between them, so that the order of identifiers
is the order of their texts.

Four spellings are read, with digits in either case: the written form, the 32 digits without the
hyphens, the written form in braces and the written form after `urn:uuid:`. The texts of the errors
count in bytes of UTF-8.
-/

namespace MaintenanceOutbox

/-- How many identifiers there are: 2 to the power of 128. -/
def Uuid.size : Nat := 0x100000000000000000000000000000000

/-- A number of 128 bits that names something. -/
structure Uuid where
  value : Nat
  value_lt : value < Uuid.size
deriving DecidableEq

namespace Uuid

instance : LT Uuid := ⟨fun a b => a.value < b.value⟩

instance (a b : Uuid) : Decidable (a < b) := inferInstanceAs (Decidable (a.value < b.value))

instance : Inhabited Uuid := ⟨⟨0, by decide⟩⟩

/-- The identifier with the given number, taken modulo their count. -/
def ofNat (n : Nat) : Uuid :=
  ⟨n % size, Nat.mod_lt _ (by decide)⟩

/-! ## Writing -/

/-- The last `width` digits of `n` to the base sixteen. -/
def hexDigits : (width n : Nat) → List Char
  | 0, _ => []
  | width + 1, n => hexDigits width (n / 16) ++ [Nat.digitChar (n % 16)]

/-- There are as many digits as were asked for. -/
theorem length_hexDigits (width n : Nat) : (hexDigits width n).length = width := by
  induction width generalizing n with
  | zero => rfl
  | succ width ih => simp [hexDigits, ih]

/-- The digits of an identifier in their five groups. -/
def grouped (digits : List Char) : List Char :=
  digits.take 8 ++ '-' :: (digits.drop 8).take 4 ++ '-' :: (digits.drop 12).take 4 ++
    '-' :: (digits.drop 16).take 4 ++ '-' :: digits.drop 20

/-- The 32 digits of an identifier. -/
def digits (u : Uuid) : List Char :=
  hexDigits 32 u.value

/-- The written form of an identifier. -/
def toText (u : Uuid) : String :=
  String.ofList (grouped u.digits)

/-! ## Reading -/

/-- The value of a digit to the base sixteen, in either case. -/
def hexValue? (c : Char) : Option Nat :=
  if '0' ≤ c && c ≤ '9' then some (c.toNat - 48)
  else if 'a' ≤ c && c ≤ 'f' then some (c.toNat - 87)
  else if 'A' ≤ c && c ≤ 'F' then some (c.toNat - 55)
  else none

/-- The number that digits to the base sixteen denote, if all characters are such digits. -/
def hexNumber? (cs : List Char) : Option Nat :=
  cs.foldlM (fun n c => (hexValue? c).map (n * 16 + ·)) 0

/-- The identifier with the given 32 digits. -/
def ofDigits? (cs : List Char) : Option Uuid :=
  if cs.length = 32 then (hexNumber? cs).map ofNat else none

/-- The identifier with the given written form, digits in either case. -/
def ofGrouped? (cs : List Char) : Option Uuid :=
  let digits := cs.filter (· ≠ '-')
  if cs = grouped digits then ofDigits? digits else none

/-- The text after `urn:uuid:`, in any mix of cases, where a text starts that way. -/
def afterUrn? (cs : List Char) : Option (List Char) :=
  if (cs.take 9).map Char.toLower = "urn:uuid:".toList then some (cs.drop 9) else none

/-- The text between braces, where a text is in braces. -/
def insideBraces? : List Char → Option (List Char)
  | '\x7b' :: rest => if rest.getLast? = some '\x7d' then some rest.dropLast else none
  | _ => none

/-- The identifier that a text spells, in one of the four spellings. -/
def ofChars? (cs : List Char) : Option Uuid :=
  (ofDigits? cs) <|> (ofGrouped? cs) <|> ((insideBraces? cs).bind ofGrouped?) <|>
    ((afterUrn? cs).bind ofGrouped?)

/-! ## What is wrong with a text -/

/-- Why a text spells no identifier. -/
inductive ParseError where
  /-- no spelling is this long -/
  | length (found : Nat)
  /-- a character that is no digit and no hyphen, at the given place -/
  | character (found : Char) (place : Nat)
  /-- hyphens are there, but not four of them -/
  | groupCount (found : Nat)
  /-- a group of digits has the wrong length -/
  | groupLength (group expected found : Nat)
deriving DecidableEq, Repr

/-- The text of a parsing error. -/
def ParseError.message : ParseError → String
  | .length found => "invalid length: found " ++ toString found
  | .character found place =>
    "invalid character: found \x60" ++ String.singleton found ++ "\x60 at " ++ toString place
  | .groupCount found => "invalid group count: expected 5, found " ++ toString found
  | .groupLength group expected found =>
    "invalid group length in group " ++ toString group ++ ": expected " ++ toString expected ++
      ", found " ++ toString found

/-- The number of bytes of a text. -/
def byteCount : List Char → Nat
  | [] => 0
  | c :: cs => c.utf8Size + byteCount cs

/-- The part of a text that should hold the digits, the place where that part starts, and whether
it may do without hyphens. A text that has the length of a spelling with hyphens counts its places
from the first digit. -/
def digitPart (cs : List Char) : List Char × Nat × Bool :=
  let bytes := byteCount cs
  if bytes = 36 then (cs, 0, false)
  else
    match insideBraces? cs with
    | some inside => if bytes = 38 then (inside, 0, false) else (inside, 1, false)
    | none =>
      match afterUrn? cs with
      | some rest => if bytes = 45 then (rest, 0, false) else (rest, 9, false)
      | none => (cs, 0, true)

/-- The first character that is no digit and no hyphen, with its place in bytes. -/
def strayChar? : (place : Nat) → List Char → Option (Char × Nat)
  | _, [] => none
  | place, c :: rest =>
    if c = '-' || (hexValue? c).isSome then strayChar? (place + c.utf8Size) rest
    else some (c, place)

/-- The places of the hyphens in a text that is ASCII. -/
def hyphenPlaces : (place : Nat) → List Char → List Nat
  | _, [] => []
  | place, c :: rest =>
    if c = '-' then place :: hyphenPlaces (place + 1) rest else hyphenPlaces (place + 1) rest

/-- The first of the groups before a hyphen that has the wrong length. `groups` gives for each its
index, its start and its length. -/
def wrongGroup? : (groups : List (Nat × Nat × Nat)) → (hyphens : List Nat) → Option ParseError
  | (index, start, length) :: groups, hyphen :: hyphens =>
    if hyphen = start + length then wrongGroup? groups hyphens
    else some (.groupLength index length (hyphen - start))
  | _, _ => none

/-- What is wrong with a text that spells no identifier. -/
def explain (cs : List Char) : ParseError :=
  let bytes := byteCount cs
  if bytes = 0 || 45 < bytes then .length bytes
  else
    let (part, start, plain) := digitPart cs
    match strayChar? start part with
    | some (c, place) => .character c place
    | none =>
      let hyphens := hyphenPlaces 0 part
      if plain && hyphens.isEmpty then .length bytes
      else if hyphens.length ≠ 4 then .groupCount (hyphens.length + 1)
      else
        (wrongGroup? [(0, 0, 8), (1, 9, 4), (2, 14, 4), (3, 19, 4)] hyphens).getD
          (.groupLength 4 12 (bytes - 24))

/-- The identifier that a text spells, or what is wrong with the text. -/
def parse (s : String) : Except ParseError Uuid :=
  match ofChars? s.toList with
  | some u => .ok u
  | none => .error (explain s.toList)

end Uuid

end MaintenanceOutbox
