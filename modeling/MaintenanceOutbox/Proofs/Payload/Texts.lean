import MaintenanceOutbox.Identity.Id
import MaintenanceOutbox.Time.Rfc3339
import Mathlib.Algebra.Ring.Nat
import Mathlib.Data.List.TakeWhile

set_option autoImplicit false

/-! # Names and timestamps survive being written

What is written is read back as it was: the text of an identifier spells that identifier
(`Uuid.parse_toText`), and the text of a timestamp denotes that timestamp
(`Timestamp.parse_toText`), in every year, with a leap second, and to the nanosecond.

The parts of a timestamp are read one after the other, each from the front of what the one before it
left. So every part has a law of the form `part (text ++ rest) = .ok (value, rest)`.
-/

namespace MaintenanceOutbox

/-! ## Identifiers -/

namespace Uuid

theorem hexValue?_digitChar : ∀ n < 16, hexValue? (Nat.digitChar n) = some n := by decide

theorem digitChar_ne_hyphen : ∀ n < 16, Nat.digitChar n ≠ '-' := by decide

/-- Digits denote the number that they were taken from, as far as there are enough of them. -/
theorem hexNumber?_hexDigits (width n : Nat) :
    hexNumber? (hexDigits width n) = some (n % 16 ^ width) := by
  induction width generalizing n with
  | zero => rw [Nat.pow_zero, Nat.mod_one]; rfl
  | succ width ih =>
      have last : n % 16 < 16 := Nat.mod_lt n (by decide)
      have digits : n / 16 % 16 ^ width * 16 + n % 16 = n % 16 ^ (width + 1) := by
        rw [Nat.pow_succ', Nat.mod_mul]
        omega
      rw [hexDigits, hexNumber?, List.foldlM_append]
      show (hexNumber? (hexDigits width (n / 16))).bind _ = _
      rw [ih, Option.bind_some, List.foldlM_cons, hexValue?_digitChar _ last, ← digits]
      rfl

/-- There is no hyphen among the digits. -/
theorem ne_hyphen_of_mem_hexDigits {width n : Nat} {c : Char} (h : c ∈ hexDigits width n) :
    c ≠ '-' := by
  induction width generalizing n with
  | zero => cases h
  | succ width ih =>
      rcases List.mem_append.mp h with before | last
      · exact ih before
      · rw [List.mem_singleton.mp last]
        exact digitChar_ne_hyphen _ (Nat.mod_lt n (by decide))

/-- The five groups make up the digits. -/
theorem groups_append (digits : List Char) :
    digits.take 8 ++ ((digits.drop 8).take 4 ++ ((digits.drop 12).take 4 ++
      ((digits.drop 16).take 4 ++ digits.drop 20))) = digits := by
  rw [show digits.drop 20 = (digits.drop 16).drop 4 by rw [List.drop_drop],
    List.take_append_drop, show digits.drop 16 = (digits.drop 12).drop 4 by rw [List.drop_drop],
    List.take_append_drop, show digits.drop 12 = (digits.drop 8).drop 4 by rw [List.drop_drop],
    List.take_append_drop, List.take_append_drop]

/-- Grouping puts hyphens between the digits, and nothing else. -/
theorem filter_grouped {digits : List Char} (plain : ∀ c ∈ digits, c ≠ '-') :
    (grouped digits).filter (· ≠ '-') = digits := by
  have hyphens : (grouped digits).filter (· ≠ '-') = (digits.take 8 ++ ((digits.drop 8).take 4 ++
      ((digits.drop 12).take 4 ++ ((digits.drop 16).take 4 ++ digits.drop 20)))).filter
        (· ≠ '-') := by
    simp only [grouped, List.append_assoc, List.cons_append, List.filter_append, List.filter_cons,
      ne_eq, not_true_eq_false, decide_false, Bool.false_eq_true, if_false]
  rw [hyphens, groups_append]
  exact List.filter_eq_self.mpr fun c hc => decide_eq_true (plain c hc)

theorem length_grouped {digits : List Char} (all : digits.length = 32) :
    (grouped digits).length = 36 := by
  simp [grouped, all]

theorem ofNat_value (u : Uuid) : ofNat u.value = u := by
  obtain ⟨value, value_lt⟩ := u
  simp only [ofNat, Nat.mod_eq_of_lt value_lt]

/-- The digits of an identifier are those of no other. -/
theorem ofDigits?_digits (u : Uuid) : ofDigits? u.digits = some u := by
  have length : u.digits.length = 32 := length_hexDigits 32 u.value
  have value : u.value % 16 ^ 32 = u.value := Nat.mod_eq_of_lt u.value_lt
  have number : hexNumber? u.digits = some u.value := by
    rw [digits, hexNumber?_hexDigits, value]
  rw [ofDigits?, if_pos length, number, Option.map_some, ofNat_value]

/-- **The text of an identifier** spells it. -/
theorem parse_toText (u : Uuid) : parse u.toText = .ok u := by
  have length : u.digits.length = 32 := length_hexDigits 32 u.value
  have filtered : (grouped u.digits).filter (· ≠ '-') = u.digits :=
    filter_grouped fun _ => ne_hyphen_of_mem_hexDigits
  have long : ofDigits? (grouped u.digits) = none := by
    rw [ofDigits?, length_grouped length]
    rfl
  have spelled : ofGrouped? (grouped u.digits) = some u := by
    rw [ofGrouped?, filtered, if_pos rfl, ofDigits?_digits]
  rw [parse, toText, String.toList_ofList, ofChars?, long, spelled]
  rfl

end Uuid

theorem AggregateId.reader_toJson (id : AggregateId) : reader id.toJson = .ok id := by
  have read : Uuid.reader id.toJson = .ok id.uuid := by
    rw [Uuid.reader, toJson, Reader.parsed, toText, Uuid.parse_toText]
    rfl
  rw [reader, read]
  rfl

/-! ## Numbers -/

namespace Timestamp

theorem digitsValue_eq (cs : List Char) : digitsValue cs = Nat.ofDigitChars 10 cs 0 := by
  simp only [digitsValue, Nat.ofDigitChars_eq_foldl, Nat.mul_comm 10]
  rfl

/-- A number that is padded with zeros is the same number. -/
theorem digitsValue_padded (width n : Nat) : digitsValue (padded width n) = n := by
  rw [digitsValue_eq, padded, Nat.ofDigitChars_append, Nat.ofDigitChars_replicate_zero,
    Nat.mul_zero, Nat.ofDigitChars_ten_toDigits]

theorem isDigit_of_mem_padded {width n : Nat} {c : Char} (h : c ∈ padded width n) :
    c.isDigit = true := by
  rcases List.mem_append.mp h with zero | digit
  · rw [List.eq_of_mem_replicate zero]
    rfl
  · exact Nat.isDigit_of_mem_toDigits (by decide) (by decide) digit

theorem length_padded {width n : Nat} (some : 0 < width) (fits : n < 10 ^ width) :
    (padded width n).length = width := by
  have short : (Nat.toDigits 10 n).length ≤ width :=
    (Nat.length_toDigits_le_iff (by decide) some).mpr fits
  rw [padded, List.length_append, List.length_replicate]
  omega

/-- A padded number begins with a digit. -/
theorem padded_eq_cons (width n : Nat) : ∃ c cs, padded width n = c :: cs ∧ c.isDigit = true := by
  cases h : padded width n with
  | nil =>
      have none : Nat.toDigits 10 n = [] := (List.append_eq_nil_iff.mp h).2
      exact absurd none Nat.toDigits_ne_nil
  | cons c cs => exact ⟨c, cs, rfl, isDigit_of_mem_padded (h ▸ List.mem_cons_self)⟩

theorem not_isBlankChar_of_isDigit {c : Char} (digit : c.isDigit = true) :
    Text.isBlankChar c = false := by
  obtain ⟨low, high⟩ := Char.isDigit_iff_toNat.mp digit
  have low : 48 ≤ c.toNat := low
  have high : c.toNat ≤ 57 := high
  simp only [Text.isBlankChar, Bool.or_eq_false_iff, Bool.and_eq_false_iff, decide_eq_false_iff_not,
    beq_eq_false_iff_ne]
  omega

/-- There are no blanks to drop before a padded number. -/
theorem dropBlanks_padded (width n : Nat) (rest : List Char) :
    Text.dropBlanks (padded width n ++ rest) = padded width n ++ rest := by
  obtain ⟨c, cs, begins, digit⟩ := padded_eq_cons width n
  rw [begins, Text.dropBlanks, List.cons_append,
    List.dropWhile_cons_of_neg (by simp [not_isBlankChar_of_isDigit digit])]

/-- **A padded number is read as the number**, if the digits that are read are its digits. -/
theorem number_padded {most width n : Nat} {rest : List Char}
    (exactly : ((padded width n ++ rest).take most).takeWhile Char.isDigit = padded width n) :
    number most (padded width n ++ rest) = .ok (n, rest) := by
  obtain ⟨c, cs, begins, digit⟩ := padded_eq_cons width n
  have first : number most (padded width n ++ rest) =
      .ok (digitsValue (((padded width n ++ rest).take most).takeWhile Char.isDigit),
        (padded width n ++ rest).drop
          (((padded width n ++ rest).take most).takeWhile Char.isDigit).length) := by
    rw [begins, List.cons_append, number]
    exact if_pos digit
  rw [first, exactly, digitsValue_padded, List.drop_left]

theorem takeWhile_padded (width n : Nat) :
    (padded width n).takeWhile Char.isDigit = padded width n :=
  List.takeWhile_eq_self_iff.mpr fun _ => isDigit_of_mem_padded

/-- A number of full width is read, whatever comes after it. -/
theorem number_padded_full {width n : Nat} (some : 0 < width) (fits : n < 10 ^ width)
    (rest : List Char) : number width (padded width n ++ rest) = .ok (n, rest) := by
  refine number_padded ?_
  rw [List.take_left' (length_padded some fits), takeWhile_padded]

/-- A number is read up to a character that is no digit. -/
theorem number_padded_before {most width n : Nat} {c : Char} (rest : List Char)
    (enough : (padded width n).length < most) (ends : c.isDigit = false) :
    number most (padded width n ++ c :: rest) = .ok (n, c :: rest) := by
  refine number_padded ?_
  obtain ⟨k, rfl⟩ : ∃ k, most = (padded width n).length + (k + 1) :=
    ⟨most - (padded width n).length - 1, by omega⟩
  rw [List.take_length_add_append, List.take_succ_cons, List.takeWhile_append,
    if_pos (by rw [takeWhile_padded])]
  simp [ends]

theorem numberIn_padded {low high n : Nat} (fits : n < 100) (inside : low ≤ n ∧ n ≤ high)
    (rest : List Char) : numberIn 2 low high (padded 2 n ++ rest) = .ok (n, rest) := by
  rw [numberIn, dropBlanks_padded, number_padded_full (by decide) fits]
  exact if_pos inside

/-! ## Timestamps -/

theorem separator_self {c : Char} (visible : Text.isBlankChar c = false) (rest : List Char) :
    separator c (c :: rest) = .ok rest := by
  rw [separator, Text.dropBlanks, List.dropWhile_cons_of_neg (by simp [visible])]
  exact if_pos rfl

/-- **A year** is read up to the hyphen after it. -/
theorem year_yearText {y : Int} (low : Date.firstYear ≤ y) (high : y ≤ Date.lastYear)
    (rest : List Char) : year (yearText y ++ '-' :: rest) = .ok (y, '-' :: rest) := by
  have low : -262143 ≤ y := low
  have high : y ≤ 262142 := high
  by_cases short : 0 ≤ y ∧ y ≤ 9999
  · -- four digits, which are no sign
    have fits : y.toNat < 10 ^ 4 := by omega
    have read := number_padded_full (by decide) fits ('-' :: rest)
    obtain ⟨c, cs, begins, digit⟩ := padded_eq_cons 4 y.toNat
    rw [yearText, if_pos short, year, dropBlanks_padded]
    rw [begins, List.cons_append] at read ⊢
    have unsigned : c ≠ '-' ∧ c ≠ '+' := by
      constructor <;> (rintro rfl; cases digit)
    split
    · next same => exact absurd (List.cons.inj same).1 unsigned.1
    · next same => exact absurd (List.cons.inj same).1 unsigned.2
    · rw [read]
      show Except.ok ((y.toNat : Int), _) = _
      rw [Int.toNat_of_nonneg short.1]
  · -- a sign, and as many digits as there are
    have signed : ∀ limit, 262144 ≤ limit →
        longNumber limit (padded 4 y.natAbs ++ '-' :: rest) = .ok (y.natAbs, '-' :: rest) := by
      intro limit enough
      have below : y.natAbs < limit := by omega
      have inside : (padded 4 y.natAbs).length < (padded 4 y.natAbs ++ '-' :: rest).length := by
        rw [List.length_append, List.length_cons]
        omega
      rw [longNumber, number_padded_before rest inside rfl]
      exact if_pos below
    rw [yearText, if_neg short]
    by_cases negative : y < 0
    · rw [if_pos negative]
      show longNumber (yearLimit + 1) (padded 4 y.natAbs ++ '-' :: rest) >>= _ = _
      rw [signed _ (by decide)]
      show Except.ok (-(y.natAbs : Int), _) = _
      rw [show -(y.natAbs : Int) = y by omega]
    · rw [if_neg negative]
      show longNumber yearLimit (padded 4 y.natAbs ++ '-' :: rest) >>= _ = _
      rw [signed _ (by decide)]
      show Except.ok ((y.natAbs : Int), _) = _
      rw [show (y.natAbs : Int) = y by omega]

theorem nanoseconds_padded {width n scale : Nat} (some : 0 < width) (atMost : width ≤ 9)
    (fits : n < 10 ^ width) (scaled : Nat.pow 10 (9 - width) = scale) :
    nanoseconds ('.' :: padded width n ++ ['Z']) = .ok (n * scale, ['Z']) := by
  have length := length_padded some fits
  have read : number 9 (padded width n ++ ['Z']) = .ok (n, ['Z']) := by
    by_cases full : width = 9
    · subst full
      exact number_padded_full some fits ['Z']
    · exact number_padded_before [] (by omega) rfl
  show number 9 (padded width n ++ ['Z']) >>= _ = _
  rw [read, ← scaled]
  show Except.ok (n * Nat.pow 10 (9 - ((padded width n ++ ['Z']).length - 1)), _) = _
  rw [List.length_append, length]
  rfl

/-- **The digits of the second**, in as many groups as there are. -/
theorem nanoseconds_fractionText {n : Nat} (fits : n < secondSize) :
    nanoseconds (fractionText n ++ ['Z']) = .ok (n, ['Z']) := by
  have fits : n < 1000000000 := fits
  rw [fractionText]
  split
  · next zero => rw [zero]; rfl
  · split
    · next millis =>
        rw [nanoseconds_padded (by decide) (by decide) (by omega) rfl]
        rw [show n / 1000000 * 1000000 = n by omega]
    · split
      · next micros =>
          rw [nanoseconds_padded (by decide) (by decide) (by omega) rfl]
          rw [show n / 1000 * 1000 = n by omega]
      · rw [nanoseconds_padded (by decide) (by decide) (by omega) rfl, Nat.mul_one]

/-- The point in time of clocks that show UTC. -/
theorem ofLocal?_zero (t : Timestamp) :
    ofLocal? t.date t.hour t.minute t.second t.nanosecond 0 = some t := by
  obtain ⟨hour, minute, -, -⟩ := t.ok
  have early : ¬ ((t.hour : Int) * 60 + t.minute - 0 < 0) := by omega
  have late : (t.hour : Int) * 60 + t.minute - 0 < 24 * 60 := by omega
  have ofDay : (((t.hour : Int) * 60 + t.minute - 0) % (24 * 60)).toNat =
      t.hour * 60 + t.minute := by omega
  rw [ofLocal?]
  dsimp only
  rw [if_neg early, if_pos late, ofDay, show (t.hour * 60 + t.minute) / 60 = t.hour by omega,
    show (t.hour * 60 + t.minute) % 60 = t.minute by omega]
  exact dif_pos t.ok

/-- **The text of a timestamp** denotes it. -/
theorem parse_toText (t : Timestamp) : parse t.toText = .ok t := by
  obtain ⟨firstYear, lastYear, month, month', day, day'⟩ := t.date.ok
  obtain ⟨hour, minute, second, nanosecond⟩ := t.ok
  have days : t.date.day ≤ 31 := day'.trans (Date.daysInMonth_le _ _)
  -- the parts, each up to the next one
  have readMonth : ∀ rest, numberIn 2 1 12 (padded 2 t.date.month ++ rest) =
      .ok (t.date.month, rest) := numberIn_padded (by omega) ⟨month, month'⟩
  have readDay : ∀ rest, numberIn 2 1 31 (padded 2 t.date.day ++ rest) =
      .ok (t.date.day, rest) := numberIn_padded (by omega) ⟨day, days⟩
  have readHour : ∀ rest, numberIn 2 0 23 (padded 2 t.hour ++ rest) = .ok (t.hour, rest) :=
    numberIn_padded (by omega) ⟨Nat.zero_le _, by omega⟩
  have readMinute : ∀ rest, numberIn 2 0 59 (padded 2 t.minute ++ rest) = .ok (t.minute, rest) :=
    numberIn_padded (by omega) ⟨Nat.zero_le _, by omega⟩
  have readSecond : ∀ rest, numberIn 2 0 60 (padded 2 t.second ++ rest) = .ok (t.second, rest) :=
    numberIn_padded (by omega) ⟨Nat.zero_le _, by omega⟩
  have hyphen : ∀ rest, separator '-' ('-' :: rest) = .ok rest := separator_self rfl
  have colon : ∀ rest, separator ':' (':' :: rest) = .ok rest := separator_self rfl
  have dayOver : ∀ rest, dayEnd ('T' :: rest) = .ok rest := fun _ => rfl
  have zulu : zone ['Z'] = .ok (0, []) := rfl
  have exists' : Date.ofNumbers? t.date.year t.date.month t.date.day = some t.date :=
    dif_pos t.date.ok
  rw [parse, toText, String.toList_ofList, toChars, ofChars]
  simp only [List.append_assoc, List.cons_append]
  rw [year_yearText firstYear lastYear]
  simp only [bind, Except.bind, hyphen, colon, readMonth, readDay, dayOver, readHour, readMinute,
    readSecond, nanoseconds_fractionText nanosecond, zulu, exists', ofLocal?_zero]
  rfl

theorem reader_toJson (t : Timestamp) : reader t.toJson = .ok t := by
  rw [reader, toJson, Reader.parsed, parse_toText]
  rfl

end Timestamp

end MaintenanceOutbox
