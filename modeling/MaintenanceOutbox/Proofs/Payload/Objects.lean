import MaintenanceOutbox.Json.Reader
import Mathlib.Data.List.Nodup

set_option autoImplicit false

/-! # Objects read as records

A record in an object is read in two passes: the members are visited in their order, and each that
has a declared name must be readable; then every declared field is looked up. So an object is read
like what is left of it when the members without a meaning are taken out (`Reader.visit_known`,
`Reader.lookup_known`), and where every name occurs once, like any other with the same members
(`Reader.visit_of_lookup`).
-/

namespace MaintenanceOutbox

namespace Reader

variable {α β : Type} {a : α} {name : String} {fields : List Field} {read : Reader α} {v : Json}
  {ms rest : List (String × Json)}

/-! ## Single values -/

theorem any_eq (v : Json) : any v = .ok v := rfl

theorem string_str (s : String) : string (.str s) = .ok s := rfl

theorem below_ofNat {size n : Nat} {expected : String} (small : n < size) :
    below size expected (Json.ofNat n) = .ok n := by
  rw [Json.ofNat, below, if_pos ⟨Int.natCast_nonneg n, Int.ofNat_lt.mpr small⟩]
  rfl

theorem counter_ofNat (n : UInt32) : counter (Json.ofNat n.toNat) = .ok n := by
  rw [counter, below_ofNat n.toNat_lt_size]
  show Except.ok (UInt32.ofNat n.toNat) = _
  rw [UInt32.ofNat_toNat]

/-- A value that may be unset is read as it was written, unless it is written as `null`. -/
theorem optional_ofOption {write : α → Json} (reads : ∀ a, read (write a) = .ok a)
    (visible : ∀ a, write a ≠ .null) (o : Option α) :
    optional read (Json.ofOption write o) = .ok o := by
  cases o with
  | none => rfl
  | some a =>
      rw [Json.ofOption, optional.eq_2 read (write a) (visible a), reads]
      rfl

/-! ## Visiting members -/

/-- A member that its field reads is passed by. -/
theorem visit_cons_of_read (found : fields.find? (·.name = name) = some (field name read))
    (reads : read v = .ok a) : visit fields ((name, v) :: rest) = visit fields rest := by
  have passes : (field name read).test v = .ok () := congrArg (·.map fun _ => ()) reads
  rw [visit, found]
  dsimp only
  rw [passes]
  rfl

/-- Members are passed by when those with a declared name are readable. -/
theorem visit_eq_ok_iff : visit fields ms = .ok () ↔
    ∀ m ∈ ms, ∀ f, fields.find? (·.name = m.1) = some f → f.test m.2 = .ok () := by
  induction ms with
  | nil => simp [visit]
  | cons m ms ih =>
      obtain ⟨k, v⟩ := m
      rw [List.forall_mem_cons, ← ih, visit]
      cases fields.find? (·.name = k) with
      | none => simp
      | some f =>
          dsimp only
          cases tested : f.test v <;> simp [bind, Except.bind, tested]

/-- Is there a field with the given name? -/
def known (fields : List Field) (key : String) : Bool :=
  fields.any (·.name = key)

/-- **Members without a meaning are passed over.** -/
theorem visit_known : visit fields (ms.filter fun m => known fields m.1) = visit fields ms := by
  induction ms with
  | nil => rfl
  | cons m ms ih =>
      obtain ⟨k, v⟩ := m
      rw [List.filter_cons]
      split
      · rw [visit, visit, ih]
      · next unknown =>
          have none : fields.find? (·.name = k) = none := by
            rw [List.find?_eq_none]
            exact fun f hf same => unknown (List.any_eq_true.mpr ⟨f, hf, same⟩)
          rw [ih, visit, none]

theorem lookup_known (declared : known fields name = true) :
    (ms.filter fun m => known fields m.1).lookup name = ms.lookup name := by
  induction ms with
  | nil => rfl
  | cons m ms ih =>
      obtain ⟨k, v⟩ := m
      rw [List.filter_cons, List.lookup_cons]
      split
      · rw [List.lookup_cons, ih]
      · next unknown =>
          have other : (name == k) = false := by
            rw [beq_eq_false_iff_ne]
            rintro rfl
            exact unknown declared
          rw [other, ih]

theorem required_known (declared : known fields name = true) :
    required (ms.filter fun m => known fields m.1) name read = required ms name read := by
  rw [required, lookup_known declared]
  rfl

theorem withDefault_known {fallback : α} (declared : known fields name = true) :
    withDefault (ms.filter fun m => known fields m.1) name read fallback =
      withDefault ms name read fallback := by
  rw [withDefault, lookup_known declared]
  rfl

/-! ## Objects in which every name occurs once -/

theorem lookup_of_mem (distinct : (ms.map Prod.fst).Nodup) (member : (name, v) ∈ ms) :
    ms.lookup name = some v := by
  induction ms with
  | nil => cases member
  | cons m ms ih =>
      obtain ⟨absent, distinct⟩ := List.nodup_cons.mp distinct
      rw [List.lookup_cons]
      rcases List.mem_cons.mp member with rfl | later
      · simp
      · have other : (name == m.1) = false := by
          rw [beq_eq_false_iff_ne]
          intro same
          exact absent (same ▸ List.mem_map_of_mem later)
        rw [other]
        exact ih distinct later

/-- **Where every name occurs once**, the fields decide, each by the value that it has. -/
theorem visit_of_lookup (distinct : (ms.map Prod.fst).Nodup)
    (readable : ∀ f ∈ fields, ∀ v, ms.lookup f.name = some v → f.test v = .ok ()) :
    visit fields ms = .ok () := by
  rw [visit_eq_ok_iff]
  rintro ⟨k, v⟩ member f found
  have same : f.name = k := by simpa using List.find?_some found
  exact readable f (List.mem_of_find?_eq_some found) v (same ▸ lookup_of_mem distinct member)

/-- A field that has the value that was written for it is readable. -/
theorem test_of_lookup (found : ms.lookup name = some v) (reads : read v = .ok a) :
    ∀ w, ms.lookup (field name read).name = some w → (field name read).test w = .ok () := by
  intro w found'
  cases found.symm.trans found'
  exact congrArg (·.map fun _ => ()) reads

/-! ## One more member -/

section

variable {key : String} {before after : List (String × Json)}

/-- A member that can be read may stand anywhere. -/
theorem visit_insert
    (readable : ∀ f, fields.find? (·.name = key) = some f → f.test v = .ok ()) :
    visit fields (before ++ (key, v) :: after) = visit fields (before ++ after) := by
  induction before with
  | nil =>
      rw [List.nil_append, List.nil_append, visit]
      cases found : fields.find? (·.name = key) with
      | none => rfl
      | some f =>
          dsimp only
          rw [readable f found]
          rfl
  | cons m before ih =>
      obtain ⟨k, w⟩ := m
      rw [List.cons_append, List.cons_append, visit, visit, ih]

theorem lookup_insert_of_ne (other : name ≠ key) :
    (before ++ (key, v) :: after).lookup name = (before ++ after).lookup name := by
  have passed : (name == key) = false := beq_eq_false_iff_ne.mpr other
  rw [List.lookup_append, List.lookup_append, List.lookup_cons, passed]

theorem required_insert_of_ne (other : name ≠ key) :
    required (before ++ (key, v) :: after) name read = required (before ++ after) name read := by
  rw [required, lookup_insert_of_ne other]
  rfl

theorem withDefault_insert_of_ne {fallback : α} (other : name ≠ key) :
    withDefault (before ++ (key, v) :: after) name read fallback =
      withDefault (before ++ after) name read fallback := by
  rw [withDefault, lookup_insert_of_ne other]
  rfl

/-- **Where a field is left out, it might as well be `null`.** -/
theorem withDefault_insert_null (absent : (before ++ after).lookup name = none) :
    withDefault (before ++ (name, .null) :: after) name (optional read) none =
      withDefault (before ++ after) name (optional read) none := by
  have unset : (before ++ (name, .null) :: after).lookup name = some .null := by
    rw [List.lookup_append, Option.or_eq_none_iff] at absent
    rw [List.lookup_append, absent.1, List.lookup_cons_self]
    rfl
  rw [withDefault, withDefault, absent, unset]
  rfl

end

/-! ## Fields, one after the other

Each reader goes on with what it read.
-/

theorem exists_of_bind {x : Except ReadError α} {f : α → Except ReadError β} {b : β}
    (read : (x >>= f) = .ok b) : ∃ a, x = .ok a ∧ f a = .ok b := by
  cases x with
  | error e => cases read
  | ok a => exact ⟨a, rfl, read⟩

theorem members_bind {defaults : Bool} {f : List (String × Json) → Except ReadError β}
    (all : visit fields ms = .ok ()) : (members name fields defaults (.obj ms) >>= f) = f ms := by
  rw [members, all]
  rfl

theorem members_obj_bind {defaults : Bool} {f : List (String × Json) → Except ReadError β} :
    (members name fields defaults (.obj ms) >>= f) = visit fields ms >>= fun _ => f ms := by
  rw [members]
  cases visit fields ms <;> rfl

theorem required_bind {f : α → Except ReadError β} (found : ms.lookup name = some v)
    (reads : read v = .ok a) : (required ms name read >>= f) = f a := by
  rw [required, found]
  dsimp only
  rw [reads]
  rfl

theorem withDefault_bind {f : α → Except ReadError β} {fallback : α}
    (found : ms.lookup name = some v) (reads : read v = .ok a) :
    (withDefault ms name read fallback >>= f) = f a := by
  rw [withDefault, found]
  dsimp only
  rw [reads]
  rfl

theorem withDefault_bind_none {f : α → Except ReadError β} {fallback : α}
    (missing : ms.lookup name = none) : (withDefault ms name read fallback >>= f) = f fallback := by
  rw [withDefault, missing]
  rfl

theorem choice_bind {known : List String} {content : String}
    {f : String × Json → Except ReadError β} (listed : name ∈ known) :
    (choice known content (.obj [(name, v)]) >>= f) = f (name, v) := by
  rw [choice, if_pos listed]
  rfl

end Reader

end MaintenanceOutbox
