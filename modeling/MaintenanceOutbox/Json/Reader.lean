import MaintenanceOutbox.Json.Notation
import MaintenanceOutbox.Json.Value
import MaintenanceOutbox.Text.Quoted

set_option autoImplicit false

/-! # Reading JSON values into types

A `Reader α` turns a JSON value into an `α` or says why it cannot. The rules are those of a typed
format:

* a value of the wrong shape is refused with its shape and what was expected;
* an integer has the right shape for every integer type, but must lie in the type's range;
* **a record is an object or an array.** The members of an object are visited in the order of their
  keys, and the first one that is unreadable decides; members without a meaning are passed over;
  only then are missing fields reported, in the order of declaration. An array holds the fields in
  that order, all of them;
* a choice between variants is an object with one member, the variant's name and its content.
-/

namespace MaintenanceOutbox

/-- What a value looks like, as far as an error tells. -/
inductive Json.Shape where
  | null
  | boolean (value : Bool)
  | integer (value : Int)
  | float (value : Binary64)
  | string (value : String)
  | sequence
  | map
  /-- the name of a variant, without a content -/
  | bareVariant
deriving Repr

/-- The shape of a value. -/
def Json.shape : Json → Json.Shape
  | .null => .null
  | .bool b => .boolean b
  | .int n => .integer n
  | .float x => .float x
  | .str s => .string s
  | .arr _ => .sequence
  | .obj _ => .map

/-- A shape in words. -/
def Json.Shape.describe : Json.Shape → String
  | .null => "null"
  | .boolean true => "boolean \x60true\x60"
  | .boolean false => "boolean \x60false\x60"
  | .integer n => "integer \x60" ++ toString n ++ "\x60"
  | .float x => "floating point \x60" ++ x.toText ++ "\x60"
  | .string s => "string " ++ Text.quote s
  | .sequence => "sequence"
  | .map => "map"
  | .bareVariant => "unit variant"

/-- Why a JSON value could not be read. -/
inductive ReadError where
  /-- the value is not of the expected kind -/
  | wrongShape (found : Json.Shape) (expected : String)
  /-- an integer lies outside the range of its type -/
  | outOfRange (value : Int) (expected : String)
  /-- an array has fewer or more items than a record has fields -/
  | wrongLength (length : Nat) (expected : String)
  | missingField (name : String)
  | unknownVariant (name : String) (known : List String)
  /-- an object that should name one variant has no member, or several -/
  | notOneVariant
  /-- the value has the right shape, but its own rules refuse it, for the reason given -/
  | refused (reason : String)
deriving Repr

namespace ReadError

/-- A name between grave accents. -/
def ticked (name : String) : String :=
  "\x60" ++ name ++ "\x60"

/-- The text of a reading error. -/
def message : ReadError → String
  | .wrongShape found expected => "invalid type: " ++ found.describe ++ ", expected " ++ expected
  | .outOfRange value expected =>
    "invalid value: integer " ++ ticked (toString value) ++ ", expected " ++ expected
  | .wrongLength length expected =>
    "invalid length " ++ toString length ++ ", expected " ++ expected
  | .missingField name => "missing field " ++ ticked name
  | .unknownVariant name known =>
    "unknown variant " ++ ticked name ++ ", expected " ++ " or ".intercalate (known.map ticked)
  | .notOneVariant => "invalid value: map, expected map with a single key"
  | .refused reason => reason

end ReadError

/-- A way to read a JSON value into `α`. -/
abbrev Reader (α : Type) := Json → Except ReadError α

namespace Reader

/-! ## Single values -/

/-- Refuse a value for its shape. -/
def wrong {α : Type} (expected : String) (v : Json) : Except ReadError α :=
  .error (.wrongShape v.shape expected)

/-- Any value, as it is. -/
def any : Reader Json :=
  .ok

/-- A string. -/
def string : Reader String
  | .str s => .ok s
  | v => wrong "a string" v

/-- A natural number below `size`; `expected` names the type of such numbers. -/
def below (size : Nat) (expected : String) : Reader Nat
  | .int n => if 0 ≤ n ∧ n < size then .ok n.toNat else .error (.outOfRange n expected)
  | v => wrong expected v

/-- A counter of 32 bits. -/
def counter : Reader UInt32 := fun v =>
  (below UInt32.size "u32" v).map UInt32.ofNat

/-- A duration in milliseconds, a number of 64 bits. -/
def milliseconds : Reader Nat :=
  below UInt64.size "u64"

/-- A count of things, a number of 64 bits. -/
def count : Reader Nat :=
  below UInt64.size "usize"

/-- A text that `parse` accepts; `expected` says what kind of text that is. -/
def parsed {ε α : Type} (expected : String) (parse : String → Except ε α) (reason : ε → String) :
    Reader α
  | .str s => (parse s).mapError fun e => .refused (reason e)
  | v => wrong expected v

/-- A value that may be unset, as `null`. -/
def optional {α : Type} (read : Reader α) : Reader (Option α)
  | .null => .ok none
  | v => (read v).map some

/-! ## Records -/

/-- A declared field of a record: its name and the test that its value is readable. -/
structure Field where
  name : String
  test : Json → Except ReadError Unit

/-- The field `name`, with values as `read` reads them. -/
def field {α : Type} (name : String) (read : Reader α) : Field :=
  ⟨name, fun v => (read v).map fun _ => ()⟩

/-- Visit members in their order and test each that belongs to a declared field. -/
def visit (fields : List Field) : List (String × Json) → Except ReadError Unit
  | [] => .ok ()
  | (k, v) :: rest => do
    match fields.find? (·.name = k) with
    | some f => f.test v
    | none => pure ()
    visit fields rest

/-- The number of fields of a record, in words. -/
def elementCount : Nat → String
  | 1 => "1 element"
  | n => toString n ++ " elements"

/-- The members of a record called `name` with the given fields. An array gives each field the item
at its place; with `defaults`, its items may end early. -/
def members (name : String) (fields : List Field) (defaults : Bool) :
    Reader (List (String × Json))
  | .obj ms => do
    visit fields ms
    pure ms
  | .arr items => do
    let ms := (fields.map (·.name)).zip items
    visit fields ms
    if items.length < fields.length && !defaults then
      .error (.wrongLength items.length
        ("struct " ++ name ++ " with " ++ elementCount fields.length))
    else if fields.length < items.length then
      .error (.wrongLength items.length "fewer elements in array")
    else pure ms
  | v => wrong ("struct " ++ name) v

/-- The value of a field that must be there. -/
def required {α : Type} (ms : List (String × Json)) (name : String) (read : Reader α) :
    Except ReadError α :=
  match ms.lookup name with
  | some v => read v
  | none => .error (.missingField name)

/-- The value of a field that may be missing; then it is `fallback`. -/
def withDefault {α : Type} (ms : List (String × Json)) (name : String) (read : Reader α)
    (fallback : α) : Except ReadError α :=
  match ms.lookup name with
  | some v => read v
  | none => .ok fallback

/-! ## Choices -/

/-- The chosen one of the known variants, and its content. `content` says what kind of content the
variants have. -/
def choice (known : List String) (content : String) : Json → Except ReadError (String × Json)
  | .str s =>
    if s ∈ known then .error (.wrongShape .bareVariant content)
    else .error (.unknownVariant s known)
  | .obj [(k, v)] => if k ∈ known then .ok (k, v) else .error (.unknownVariant k known)
  | .obj _ => .error .notOneVariant
  | v => wrong "string or map" v

end Reader

end MaintenanceOutbox
