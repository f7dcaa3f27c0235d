set_option autoImplicit false

/-! # Cut texts

A text is a row of bytes, and each of its characters takes one to four of them. To keep the first
characters of a text only, it is cut at a byte: the one at which the first character starts that is
left out. That byte is found by a walk over the characters, which adds up how many bytes they take.

Nothing makes a cut respect the characters, and what is left of a text that is cut inside of one is
not specified. The walk arrives at places between characters only (`isValid_of_startOf?`).
-/

namespace MaintenanceOutbox.Text

/-- Characters with the bytes at which they start, the first of them at `start`. -/
def charStarts (start : Nat) : List Char → List (Nat × Char)
  | [] => []
  | c :: cs => (start, c) :: charStarts (start + c.utf8Size) cs

/-- The byte at which the character of `s` starts that comes after `n` others. -/
def startOf? (n : Nat) (s : String) : Option Nat :=
  (charStarts 0 s.toList)[n]?.map Prod.fst

/-- The first `n` characters of a text: the bytes before the next one, if there is a next one. -/
def keepChars (n : Nat) (s : String) : String :=
  match startOf? n s with
  | some i => String.Pos.Raw.extract s 0 ⟨i⟩
  | none => s

/-- A character starts where the bytes of those before it end. -/
theorem getElem?_charStarts (start n : Nat) (cs : List Char) :
    (charStarts start cs)[n]? =
      cs[n]?.map fun c => (start + (String.ofList (cs.take n)).utf8ByteSize, c) := by
  induction cs generalizing start n with
  | nil => rfl
  | cons c cs ih =>
      cases n with
      | zero => simp [charStarts]
      | succ n =>
          -- the walk goes on behind the bytes of `c`
          have bytes : (String.ofList (c :: cs.take n)).utf8ByteSize =
              c.utf8Size + (String.ofList (cs.take n)).utf8ByteSize := by
            rw [String.ofList_cons, String.utf8ByteSize_append, String.utf8ByteSize_singleton]
          rw [charStarts, List.getElem?_cons_succ, List.getElem?_cons_succ, ih, List.take_succ_cons,
            bytes, Nat.add_assoc]

variable {n i : Nat} {s : String}

theorem startOf?_eq_some_iff :
    startOf? n s = some i ↔
      n < s.length ∧ (String.ofList (s.toList.take n)).utf8ByteSize = i := by
  rw [startOf?, getElem?_charStarts, Option.map_map, Option.map_eq_some_iff, ← String.length_toList]
  constructor
  · rintro ⟨c, there, rfl⟩
    exact ⟨(List.getElem?_eq_some_iff.mp there).1, (Nat.zero_add _).symm⟩
  · rintro ⟨there, rfl⟩
    exact ⟨s.toList[n], List.getElem?_eq_getElem there, Nat.zero_add _⟩

theorem startOf?_eq_none_iff : startOf? n s = none ↔ s.length ≤ n := by
  rw [startOf?, getElem?_charStarts, Option.map_map, Option.map_eq_none_iff,
    List.getElem?_eq_none_iff, String.length_toList]

/-- **The walk stops between characters.** -/
theorem isValid_of_startOf? (found : startOf? n s = some i) :
    (String.Pos.Raw.mk i).IsValid s :=
  String.Pos.Raw.isValid_iff_exists_take_toList.mpr ⟨n, (startOf?_eq_some_iff.mp found).2.symm⟩

end MaintenanceOutbox.Text
