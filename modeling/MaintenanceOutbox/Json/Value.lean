import MaintenanceOutbox.Number.Binary64

set_option autoImplicit false

/-! # JSON values

Event payloads are opaque to the outbox: they are stored and handed on as JSON values. Two points
matter for what is written and for what is refused.

* **Integers and floating-point numbers are different.** A number written with a point or an
  exponent is a floating-point number, also when its value is whole: `3.0` is no `3`, and a counter
  does not accept it.
* **An object is a list of members ordered by key,** each key once. `Json.object` puts members
  into that form, and a typed reader visits them in that order.
-/

namespace MaintenanceOutbox

/-- A JSON value. -/
inductive Json where
  | null
  | bool (value : Bool)
  | int (value : Int)
  | float (value : Binary64)
  | str (value : String)
  | arr (items : List Json)
  | obj (members : List (String × Json))
deriving Repr, Inhabited

namespace Json

/-- Put the member `key: value` into a list of members that is ordered by key. A member that has
the key already is replaced. -/
def insertMember (key : String) (value : Json) : List (String × Json) → List (String × Json)
  | [] => [(key, value)]
  | (k, v) :: rest =>
    if key < k then (key, value) :: (k, v) :: rest
    else if key = k then (key, value) :: rest
    else (k, v) :: insertMember key value rest

/-- The object with the given members: ordered by key, and of two members with one key the
later. -/
def object (members : List (String × Json)) : Json :=
  .obj (members.foldl (fun sorted m => insertMember m.1 m.2 sorted) [])

/-- The integer `n`. -/
def ofNat (n : Nat) : Json :=
  .int n

/-- A value that may be missing, as `null` where it is. -/
def ofOption {α : Type} (write : α → Json) : Option α → Json
  | none => .null
  | some a => write a

/-- The member `key` of an object. Other values have no members. -/
def member? (key : String) : Json → Option Json
  | .obj members => members.lookup key
  | _ => none

end Json

end MaintenanceOutbox
