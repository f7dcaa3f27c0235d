import MaintenanceOutbox.Identity.Id

set_option autoImplicit false

/-! # Names drawn in a simulation

Messages without a name of their own are given one in a simulation, too. These names are numbered,
come after every other name in practical use and are in order among each other. A report writes the
`n`-th of them as its label, `$n`, wherever its text occurs; a script may use the label where a name
is expected.
-/

namespace MaintenanceOutbox.DrawnName

/-- The number after which the drawn names come. -/
def base : Nat := 0xffffffffffff7fffbfffffff00000000

/-- The name that is drawn after `k` others. -/
def name (k : Nat) : MessageId :=
  ⟨Uuid.ofNat (base + k + 1)⟩

/-- What the texts of all drawn names start with. -/
def stem : List Char :=
  "ffffffff-ffff-7fff-bfff-ffff".toList

/-- The number of a drawn name, from the digits in its text after the stem. -/
def number? (cs : List Char) : Option Nat :=
  if cs.length = 8 then (Uuid.hexNumber? cs).filter (0 < ·) else none

/-- A text with every drawn name in it replaced by its label. -/
def labelled : (fuel : Nat) → List Char → List Char
  | 0, cs => cs
  | _ + 1, [] => []
  | fuel + 1, c :: cs =>
    if stem.isPrefixOf (c :: cs) then
      let rest := (c :: cs).drop stem.length
      match number? (rest.take 8) with
      | some n => '$' :: (Nat.toDigits 10 n ++ labelled fuel (rest.drop 8))
      | none => c :: labelled fuel cs
    else c :: labelled fuel cs

/-- A text with every drawn name in it replaced by its label. -/
def label (s : String) : String :=
  String.ofList (labelled s.length s.toList)

mutual

/-- A JSON value with the drawn names in its strings replaced by their labels. -/
def labelJson : Json → Json
  | .str s => .str (label s)
  | .arr items => .arr (labelItems items)
  | .obj members => .obj (labelMembers members)
  | v => v

/-- The items of an array with labels. -/
def labelItems : List Json → List Json
  | [] => []
  | v :: rest => labelJson v :: labelItems rest

/-- The members of an object with labels. -/
def labelMembers : List (String × Json) → List (String × Json)
  | [] => []
  | (k, v) :: rest => (k, labelJson v) :: labelMembers rest

end

/-- The text of the name that a script means: a label stands for its name, any other text for
itself. -/
def resolve (s : String) : String :=
  match s.toList with
  | '$' :: digits =>
    if digits.isEmpty || !digits.all Char.isDigit then s
    else
      match digits.foldl (fun n c => n * 10 + (c.toNat - 48)) 0 with
      | 0 => s
      | n + 1 => (name n).toText
  | _ => s

end MaintenanceOutbox.DrawnName
