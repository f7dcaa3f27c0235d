import MaintenanceOutbox.Message.Queued
import Mathlib.Data.String.Basic

set_option autoImplicit false

/-! # What is kept of an error

The error of a failed attempt is kept with its message, and an error may be as long as it likes. So
its text is cut to 2000 characters. The cut is made at a byte, and an error that is not plain ASCII
has bytes at which it cannot be cut: a cut inside of a character would end the bookkeeping of the
failure with a failure of its own.

`ErrorKept` says what is kept of an error, and `truncateError_kept` that this is what is kept of
every error. Its parts are laws of cut texts, for any number of characters. They follow from where a
text is cut (`Text.startOf?_eq_some_iff`) and from what is left of it, its first characters
(`Text.toList_keepChars`).
-/

namespace MaintenanceOutbox

namespace Text

variable {n i : Nat} {s t : String}

/-! ## Where a text is cut -/

/-- A text is cut exactly if it has more characters than are kept. -/
theorem exists_startOf?_iff : (∃ i, startOf? n s = some i) ↔ n < s.length := by
  rw [← Option.isSome_iff_exists, ← Option.ne_none_iff_isSome, Ne, startOf?_eq_none_iff, Nat.not_le]

/-- A text is put together from its first characters and the others. -/
theorem ofList_take_append_drop (n : Nat) (s : String) :
    String.ofList (s.toList.take n) ++ String.ofList (s.toList.drop n) = s := by
  rw [← String.ofList_append, List.take_append_drop, String.ofList_toList]

/-- **The cut is made before the end.** -/
theorem lt_utf8ByteSize_of_startOf? (found : startOf? n s = some i) : i < s.utf8ByteSize := by
  obtain ⟨more, bytes⟩ := startOf?_eq_some_iff.mp found
  have whole : s.utf8ByteSize = i + (String.ofList (s.toList.drop n)).utf8ByteSize := by
    rw [← bytes, ← String.utf8ByteSize_append, ofList_take_append_drop]
  have rest : (String.ofList (s.toList.drop n)).utf8ByteSize ≠ 0 := by
    rw [Ne, String.utf8ByteSize_eq_zero_iff, String.ofList_eq_empty_iff, List.drop_eq_nil_iff,
      String.length_toList]
    exact Nat.not_le.mpr more
  omega

/-! ## What is left of it -/

theorem keepChars_of_length_le (short : s.length ≤ n) : keepChars n s = s := by
  rw [keepChars, startOf?_eq_none_iff.mpr short]

/-- **The first characters are left of a cut text.** -/
theorem keepChars_eq_ofList (n : Nat) (s : String) :
    keepChars n s = String.ofList (s.toList.take n) := by
  cases found : startOf? n s with
  | none =>
      have short : s.length ≤ n := startOf?_eq_none_iff.mp found
      rw [keepChars_of_length_le short, List.take_of_length_le (String.length_toList ▸ short),
        String.ofList_toList]
  | some i =>
      have bytes := (startOf?_eq_some_iff.mp found).2
      -- the slice between the bytes of no characters and those of the first `n`
      have cut := String.extract_of_valid [] (s.toList.take n) (s.toList.drop n)
      rw [List.nil_append, List.take_append_drop, String.ofList_toList, String.utf8Len_nil,
        Nat.zero_add, ← String.utf8ByteSize_ofList, bytes] at cut
      rw [keepChars, found]
      exact cut

example : startOf? 3 "aé€😀" = some 6 ∧ keepChars 3 "aé€😀" = "aé€" := by decide

theorem toList_keepChars (n : Nat) (s : String) : (keepChars n s).toList = s.toList.take n := by
  rw [keepChars_eq_ofList, String.toList_ofList]

theorem length_keepChars (n : Nat) (s : String) : (keepChars n s).length = min n s.length := by
  rw [← String.length_toList, toList_keepChars, List.length_take, String.length_toList]

/-- In bytes, it is the part before the cut that is left. -/
theorem toByteArray_keepChars (found : startOf? n s = some i) :
    (keepChars n s).toByteArray = s.toByteArray.extract 0 i := by
  have parts : s.toByteArray =
      (keepChars n s).toByteArray ++ (String.ofList (s.toList.drop n)).toByteArray := by
    rw [keepChars_eq_ofList, ← String.toByteArray_append, ofList_take_append_drop]
  have size : i = (keepChars n s).toByteArray.size := by
    rw [keepChars_eq_ofList, String.size_toByteArray, (startOf?_eq_some_iff.mp found).2]
  rw [parts, ByteArray.extract_append_eq_left size]

/-- A text starts with what is left of it. -/
theorem exists_keepChars_append (n : Nat) (s : String) : ∃ rest, keepChars n s ++ rest = s :=
  ⟨String.ofList (s.toList.drop n), keepChars_eq_ofList n s ▸ ofList_take_append_drop n s⟩

/-- A text that was cut is not cut again. -/
theorem keepChars_keepChars (n : Nat) (s : String) :
    keepChars n (keepChars n s) = keepChars n s := by
  apply keepChars_of_length_le
  rw [length_keepChars]
  exact Nat.min_le_left n s.length

/-- **Only the first characters matter.** -/
theorem keepChars_eq_keepChars_iff :
    keepChars n t = keepChars n s ↔ ∀ k < n, t.toList[k]? = s.toList[k]? := by
  rw [← String.toList_inj, toList_keepChars, toList_keepChars]
  constructor
  · intro same k early
    calc t.toList[k]? = (t.toList.take n)[k]? := (List.getElem?_take_of_lt early).symm
      _ = (s.toList.take n)[k]? := by rw [same]
      _ = s.toList[k]? := List.getElem?_take_of_lt early
  · intro agree
    apply List.ext_getElem?
    intro k
    rw [List.getElem?_take, List.getElem?_take]
    split
    · next early => exact agree k early
    · rfl

end Text

/-! ## Errors -/

/-- The text `error` **is cut at a byte**, and `kept` is left of it. -/
structure CutAt (error kept : String) (byte : Nat) : Prop where
  /-- the byte stands between two characters, none is torn apart -/
  boundary : (String.Pos.Raw.mk byte).IsValid error
  /-- the text does not end before -/
  inside : byte < error.utf8ByteSize
  /-- the bytes before the cut are left -/
  before : kept.toByteArray = error.toByteArray.extract 0 byte

/-- **What is kept of an error**: its first 2000 characters. -/
structure ErrorKept (error kept : String) : Prop where
  /-- where the walk over the characters stops, the error can be cut -/
  cutAt : ∀ byte, Text.startOf? maxErrorChars error = some byte → CutAt error kept byte
  /-- an error is cut only if it is too long -/
  tooLong : (∃ byte, Text.startOf? maxErrorChars error = some byte) ↔ 2000 < error.length
  /-- the error starts with what is kept -/
  start : ∃ rest, kept ++ rest = error
  /-- no more is cut off than has to be -/
  length : kept.length = min 2000 error.length
  /-- an error that is short enough is kept as it is -/
  whole : error.length ≤ 2000 → kept = error
  /-- what is kept is not cut again -/
  fixed : truncateError kept = kept
  /-- the same is kept of two errors exactly if they agree on their first 2000 characters -/
  agree : ∀ other : String,
    truncateError other = kept ↔ ∀ k < 2000, other.toList[k]? = error.toList[k]?

/-- **Errors are cut between characters, and no shorter than they have to be.** -/
theorem truncateError_kept (error : String) : ErrorKept error (truncateError error) where
  cutAt _ found :=
    { boundary := Text.isValid_of_startOf? found
      inside := Text.lt_utf8ByteSize_of_startOf? found
      before := Text.toByteArray_keepChars found }
  tooLong := Text.exists_startOf?_iff
  start := Text.exists_keepChars_append maxErrorChars error
  length := Text.length_keepChars maxErrorChars error
  whole := Text.keepChars_of_length_le
  fixed := Text.keepChars_keepChars maxErrorChars error
  agree _ := Text.keepChars_eq_keepChars_iff

end MaintenanceOutbox
