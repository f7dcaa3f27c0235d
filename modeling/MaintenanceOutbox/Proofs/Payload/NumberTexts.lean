import MaintenanceOutbox.Json.Text
import MaintenanceOutbox.Proofs.Number.Shortest
import Mathlib.Data.List.DropRight

set_option autoImplicit false

/-! # Numbers as texts

A number is read part by part: whole digits, places behind the point, an exponent
(`Json.number?_parts`). An integer is read as it was written (`Json.number?_toDigits`). Of a
floating-point number a decimal is shown (`Binary64.shown`), and what is read is the number that
this decimal denotes (`Binary64.number?_magnitudeText`).

That is not always the number that was written, although the decimal stands for it: digits and power
of ten are rounded before they are put together. Where neither has to be, because the digits are few
and the power is moderate, the number comes back (`Binary64.Short.reread?_eq`).
-/

namespace MaintenanceOutbox

open Json

namespace Json

/-- **Where a value may end**: before a comma or a closing bracket, or with the text. -/
inductive Ends : List Char → Prop where
  | nil : Ends []
  | comma (tail : List Char) : Ends (',' :: tail)
  | bracket (tail : List Char) : Ends (']' :: tail)
  | brace (tail : List Char) : Ends ('\x7d' :: tail)

variable {tail rest whole places cs : List Char} {negative : Bool} {exponent : Option Int}

/-! ## Parts -/

/-- Neither a digit nor a point is next. -/
def Stops (cs : List Char) : Prop :=
  ∀ c ∈ cs.head?, c.isDigit = false ∧ c ≠ '.'

theorem Ends.stops (ends : Ends tail) : Stops tail := by
  cases ends <;> simp [Stops]

/-- Every character is a digit. -/
def Digits (cs : List Char) : Prop :=
  ∀ c ∈ cs, c.isDigit = true

theorem Digits.append (first : Digits whole) (second : Digits places) : Digits (whole ++ places) :=
  List.forall_mem_append.mpr ⟨first, second⟩

theorem digits_zeros (k : Nat) : Digits (List.replicate k '0') := by
  intro c hc
  rw [List.eq_of_mem_replicate hc]
  rfl

theorem digits_toDigits (n : Nat) : Digits (Nat.toDigits 10 n) := fun _ hc =>
  Nat.isDigit_of_mem_toDigits (by decide) (by decide) hc

theorem spanDigits_append (digits : Digits whole) (stops : ∀ c ∈ tail.head?, c.isDigit = false) :
    spanDigits (whole ++ tail) = (whole, tail) := by
  have next : tail.takeWhile Char.isDigit = [] ∧ tail.dropWhile Char.isDigit = tail := by
    cases tail with
    | nil => exact ⟨rfl, rfl⟩
    | cons c tail => simp [stops c rfl]
  rw [spanDigits, List.takeWhile_append_of_pos digits, List.dropWhile_append_of_pos digits, next.1,
    next.2, List.append_nil]

/-- The places of a number behind the point, and the point in front of them. -/
def pointText (places : List Char) : List Char :=
  if places.isEmpty then [] else '.' :: places

theorem pointText_eq (some : places ≠ []) : pointText places = '.' :: places := by
  rw [pointText, if_neg (by rwa [List.isEmpty_iff])]

theorem pointDigits?_pointText (digits : Digits places) (stops : Stops tail) :
    pointDigits? (pointText places ++ tail) = some (places, tail) := by
  cases places with
  | nil =>
      cases tail with
      | nil => rfl
      | cons c tail => exact pointDigits?.eq_2 _ fun _ eq => (stops c rfl).2 (List.cons.inj eq).1
  | cons c places =>
      show pointDigits? ('.' :: (c :: places ++ tail)) = _
      rw [pointDigits?, spanDigits_append digits fun c hc => (stops c hc).1]
      rfl

theorem head?_pointText (stops : Stops tail) :
    (pointText places ++ tail).head? = some '.' ↔ places ≠ [] := by
  cases places with
  | nil =>
      simp only [ne_eq, not_true, iff_false]
      exact fun point => (stops '.' point).2 rfl
  | cons c places => simp [pointText]

/-- Digits that a number may begin with. -/
def Leads (whole : List Char) : Prop :=
  whole ≠ [] ∧ (whole.head? = some '0' → whole.length ≤ 1)

theorem leads_iff : Leads whole ↔
    ¬ (whole.isEmpty || (whole.length > 1 && whole.head? = some '0')) := by
  simp only [Leads, Bool.or_eq_true, Bool.and_eq_true, List.isEmpty_iff, decide_eq_true_eq, not_or,
    not_and', Nat.not_lt, gt_iff_lt]

/-- The number with the given parts. -/
def ofParts? (negative pointed : Bool) (whole places : List Char) (exponent : Option Int) :
    Option Json :=
  match word? negative (digitsValue whole), pointed || exponent.isSome with
  | some n, false => some (.int n)
  | _, _ =>
    let (digits, zeros) := appendDigits 0 whole
    let (digits, unread) := appendDigits digits places
    let shift : Int := zeros - (places.length - unread)
    (Binary64.ofDecimal? negative digits (exponent.getD 0 + shift)).map .float

theorem number?_eq : number? negative cs =
    if (spanDigits cs).1.isEmpty ||
      ((spanDigits cs).1.length > 1 && (spanDigits cs).1.head? = some '0') then none
    else (pointDigits? (spanDigits cs).2).bind fun (places, after) =>
      (exponent? after).bind fun (exponent, rest) =>
        (ofParts? negative ((spanDigits cs).2.head? = some '.') (spanDigits cs).1 places
          exponent).map fun v => (v, rest) := by
  rw [number?]
  dsimp only
  split
  · rfl
  · refine congrArg (Option.bind _) (funext fun (places, after) => ?_)
    refine congrArg (Option.bind _) (funext fun (exponent, rest) => ?_)
    have float (x : Option Binary64) :
        (do let value ← x; pure (Json.float value, rest)) =
          (x.map Json.float).map fun v => (v, rest) := by
      cases x <;> rfl
    -- a number is an integer only if it fits and has neither a point nor an exponent
    unfold ofParts?
    dsimp only
    generalize word? negative (digitsValue (spanDigits cs).1) = word
    generalize (decide ((spanDigits cs).2.head? = some '.') || exponent.isSome) = inexact
    match word, inexact with
    | some n, false => rfl
    | some n, true => exact float _
    | none, _ => exact float _

/-- **A number is read part by part**: whole digits, places behind the point, an exponent. -/
theorem number?_parts (negative : Bool) (leads : Leads whole) (digits : Digits whole)
    (digits' : Digits places) (stops : Stops tail)
    (last : exponent? tail = some (exponent, rest)) :
    number? negative (whole ++ (pointText places ++ tail)) =
      (ofParts? negative (decide (places ≠ [])) whole places exponent).map fun v => (v, rest) := by
  have next : ∀ c ∈ (pointText places ++ tail).head?, c.isDigit = false := by
    cases places with
    | nil => exact fun c hc => (stops c hc).1
    | cons => simp [pointText]
  rw [number?_eq, spanDigits_append digits next]
  dsimp only
  rw [if_neg (leads_iff.mp leads), pointDigits?_pointText digits' stops, Option.bind_some, last,
    Option.bind_some]
  simp only [head?_pointText stops]

/-! ## Exponents -/

/-- The sign of an exponent, and what follows it. -/
def exponentSign : List Char → Bool × List Char
  | '-' :: rest => (true, rest)
  | '+' :: rest => (false, rest)
  | rest => (false, rest)

theorem exponent?_mark (cs : List Char) : exponent? ('e' :: cs) =
    let (digits, rest) := spanDigits (exponentSign cs).2
    if digits.isEmpty then none
    else
      let n : Int := digitsValue digits
      some (some (if (exponentSign cs).1 then -n else n), rest) := by
  rw [exponent?.eq_def]
  rfl

/-- An exponent with its sign. -/
def exponentText (e : Int) : List Char :=
  'e' :: (if e < 0 then '-' else '+') :: Nat.toDigits 10 e.natAbs

theorem Ends.exponent? (ends : Ends tail) : Json.exponent? tail = some (none, tail) := by
  cases ends <;> rfl

theorem digitsValue_toDigits (n : Nat) : digitsValue (Nat.toDigits 10 n) = n := by
  have same : digitsValue (Nat.toDigits 10 n) = Nat.ofDigitChars 10 (Nat.toDigits 10 n) 0 := by
    simp only [digitsValue, Nat.ofDigitChars_eq_foldl, Nat.mul_comm 10]
    rfl
  rw [same, Nat.ofDigitChars_ten_toDigits]

theorem Ends.exponent?_append (ends : Ends tail) (e : Int) :
    Json.exponent? (exponentText e ++ tail) = some (some e, tail) := by
  have sign : exponentSign ((if e < 0 then '-' else '+') :: Nat.toDigits 10 e.natAbs ++ tail) =
      (decide (e < 0), Nat.toDigits 10 e.natAbs ++ tail) := by
    by_cases less : e < 0
    · rw [if_pos less, decide_eq_true less]
      rfl
    · rw [if_neg less, decide_eq_false less]
      rfl
  rw [exponentText, List.cons_append, exponent?_mark, sign]
  dsimp only
  rw [spanDigits_append (digits_toDigits _) fun c hc => (ends.stops c hc).1]
  dsimp only
  rw [if_neg (by simp [Nat.toDigits_ne_nil]), digitsValue_toDigits]
  have value : (if decide (e < 0) = true then -(e.natAbs : Int) else e.natAbs) = e := by
    simp only [decide_eq_true_eq]
    split <;> omega
  rw [value]

theorem stops_exponentText (e : Int) : Stops (exponentText e ++ tail) := by
  intro c hc
  cases hc
  decide

/-! ## Integers -/

theorem eq_zero_of_head?_toDigits (n : Nat) (zero : (Nat.toDigits 10 n).head? = some '0') :
    n = 0 := by
  induction n using Nat.strongRecOn with
  | ind n ih =>
      rcases Nat.lt_or_ge n 10 with small | large
      · have digit : ∀ d < 10, Nat.digitChar d = '0' → d = 0 := by decide
        rw [Nat.toDigits_of_lt_base small] at zero
        exact digit n small (Option.some.inj zero)
      · rw [Nat.toDigits_of_base_le (by decide) large,
          List.head?_append_of_ne_nil _ Nat.toDigits_ne_nil] at zero
        have := ih (n / 10) (by omega) zero
        omega

theorem leads_toDigits (n : Nat) : Leads (Nat.toDigits 10 n) := by
  refine ⟨Nat.toDigits_ne_nil, fun zero => ?_⟩
  rw [eq_zero_of_head?_toDigits n zero]
  decide

/-- An integer that fits in a word is read as it was written. -/
theorem number?_toDigits {n : Nat} {k : Int} (fits : word? negative n = some k)
    (ends : Ends tail) : number? negative (Nat.toDigits 10 n ++ tail) = some (.int k, tail) := by
  have none : Digits [] := fun _ hc => nomatch hc
  have parts := number?_parts negative (leads_toDigits n) (digits_toDigits n) none ends.stops
    ends.exponent?
  rw [ofParts?, digitsValue_toDigits, fits] at parts
  exact parts

/-! ## Digits -/

theorem foldl_digits (n : Nat) (cs : List Char) :
    cs.foldl (fun n c => n * 10 + digitValue c) n = n * 10 ^ cs.length + digitsValue cs := by
  induction cs generalizing n with
  | nil => simp [digitsValue]
  | cons c cs ih =>
      rw [digitsValue, List.foldl_cons, List.foldl_cons, ih, ih (0 * 10 + _), List.length_cons]
      ring

theorem digitsValue_append (cs ds : List Char) :
    digitsValue (cs ++ ds) = digitsValue cs * 10 ^ ds.length + digitsValue ds := by
  rw [digitsValue, List.foldl_append, foldl_digits]
  rfl

theorem digitsValue_zeros (k : Nat) : digitsValue (List.replicate k '0') = 0 := by
  induction k with
  | zero => rfl
  | succ k ih => rw [List.replicate_succ', digitsValue_append, ih]; rfl

theorem digitsValue_lt (digits : Digits cs) : digitsValue cs < 10 ^ cs.length := by
  induction cs using List.reverseRecOn with
  | nil => exact Nat.one_pos
  | append_singleton cs c ih =>
      have digit : digitValue c < 10 := by
        have := digits c (List.mem_append_right _ List.mem_cons_self)
        simp only [Char.isDigit, Bool.and_eq_true, decide_eq_true_eq] at this
        have high : c.toNat ≤ '9'.toNat := this.2
        have zero : '0'.toNat = 48 := rfl
        have nine : '9'.toNat = 57 := rfl
        rw [digitValue]
        omega
      have first := ih fun c hc => digits c (List.mem_append_left _ hc)
      have last : digitsValue [c] = digitValue c := by simp [digitsValue]
      rw [digitsValue_append, last, List.length_append, Nat.pow_add]
      simp only [List.length_cons, List.length_nil, Nat.zero_add, Nat.pow_one]
      omega

/-- No digit is left over where all fit in a word. -/
theorem appendDigits_eq {n : Nat} (fits : n * 10 ^ cs.length + digitsValue cs < UInt64.size) :
    appendDigits n cs = (n * 10 ^ cs.length + digitsValue cs, 0) := by
  induction cs generalizing n with
  | nil => simp [appendDigits, digitsValue]
  | cons c cs ih =>
      have step : n * 10 ^ (c :: cs).length + digitsValue (c :: cs) =
          (n * 10 + digitValue c) * 10 ^ cs.length + digitsValue cs := by
        rw [← foldl_digits, ← foldl_digits, List.foldl_cons]
      rw [step] at fits ⊢
      have next : n * 10 + digitValue c < UInt64.size :=
        lt_of_le_of_lt ((Nat.le_mul_of_pos_right _ (by positivity)).trans (Nat.le_add_right _ _))
          fits
      rw [appendDigits, if_pos next, ih fits]

/-- **A number with a point or an exponent** is a decimal, if its digits fit in a word. -/
theorem number?_decimal (negative : Bool) (leads : Leads whole) (digits : Digits whole)
    (digits' : Digits places) (stops : Stops tail)
    (last : exponent? tail = some (exponent, rest))
    (inexact : places ≠ [] ∨ exponent.isSome = true)
    (fits : digitsValue (whole ++ places) < UInt64.size) :
    number? negative (whole ++ (pointText places ++ tail)) =
      (Binary64.ofDecimal? negative (digitsValue (whole ++ places))
        (exponent.getD 0 - places.length)).map fun x => (.float x, rest) := by
  have first : appendDigits 0 whole = (digitsValue whole, 0) := by
    have less : digitsValue whole < UInt64.size := by
      rw [digitsValue_append] at fits
      exact lt_of_le_of_lt ((Nat.le_mul_of_pos_right _ (by positivity)).trans
        (Nat.le_add_right _ _)) fits
    have fits₀ : 0 * 10 ^ whole.length + digitsValue whole < UInt64.size := by omega
    have appended := appendDigits_eq fits₀
    rwa [Nat.zero_mul, Nat.zero_add] at appended
  have second : appendDigits (digitsValue whole) places = (digitsValue (whole ++ places), 0) := by
    rw [digitsValue_append] at fits ⊢
    exact appendDigits_eq fits
  -- with a point or an exponent it is no integer, even if its whole digits fit in a word
  have noInteger : (decide (places ≠ []) || exponent.isSome) = true := by
    rwa [Bool.or_eq_true, decide_eq_true_eq]
  rw [number?_parts negative leads digits digits' stops last, ofParts?, noInteger]
  simp only [first, second]
  have shift : exponent.getD 0 + (((0 : ℕ) : Int) - (places.length - ((0 : ℕ) : Int))) =
      exponent.getD 0 - places.length := by
    push_cast
    ring
  rw [shift]
  cases word? negative (digitsValue whole) <;> exact Option.map_map ..

theorem leads_of_head? (some : whole ≠ []) (head : whole.head? ≠ Option.some '0') : Leads whole :=
  ⟨some, fun zero => absurd zero head⟩

end Json

/-! ## Shown decimals -/

namespace Decimal

variable {d : Decimal}

/-- The digits of a decimal without the zeros at their end. -/
def kept (d : Decimal) : List Char :=
  (Nat.toDigits 10 d.digits).rdropWhile (· = '0')

/-- How many digits of a decimal stand before the point. -/
def point (d : Decimal) : Int :=
  d.exponent + Binary64.digitCount d.digits

/-- **The decimal that is shown**: zeros at the end of its digits are left out, but a whole number
that is not too great is written out, with a zero behind the point. -/
def shown (d : Decimal) : Decimal :=
  let exponent := d.point - d.kept.length
  if 0 ≤ exponent ∧ d.point ≤ 16 then ⟨digitsValue d.kept * 10 ^ (exponent.toNat + 1), -1⟩
  else ⟨digitsValue d.kept, exponent⟩

/-- The digits are those that are kept, and zeros. -/
theorem toDigits_eq (d : Decimal) :
    ∃ zeros, Nat.toDigits 10 d.digits = d.kept ++ List.replicate zeros '0' := by
  refine ⟨((Nat.toDigits 10 d.digits).rtakeWhile (· = '0')).length, ?_⟩
  have zero : ∀ c ∈ (Nat.toDigits 10 d.digits).rtakeWhile (· = '0'), c = '0' := fun c hc => by
    simpa using List.mem_rtakeWhile_imp hc
  rw [← List.eq_replicate_of_mem zero, kept, List.rdropWhile_append_rtakeWhile]

theorem digits_kept (d : Decimal) : Digits d.kept := fun c hc =>
  digits_toDigits d.digits c ((List.rdropWhile_prefix _ _).subset hc)

theorem kept_ne_nil (hd : 0 < d.digits) : d.kept ≠ [] := by
  intro none
  rw [kept, List.rdropWhile_eq_nil_iff] at none
  refine hd.ne' (eq_zero_of_head?_toDigits d.digits ?_)
  obtain ⟨c, cs, eq⟩ := List.exists_cons_of_ne_nil (Nat.toDigits_ne_nil (b := 10) (n := d.digits))
  rw [eq] at none ⊢
  rw [List.head?_cons, of_decide_eq_true (none c List.mem_cons_self)]

theorem head?_kept (hd : 0 < d.digits) : d.kept.head? ≠ some '0' := by
  intro zero
  obtain ⟨zeros, eq⟩ := d.toDigits_eq
  refine hd.ne' (eq_zero_of_head?_toDigits d.digits ?_)
  rw [eq, List.head?_append_of_ne_nil _ (kept_ne_nil hd), zero]

theorem digits_eq {zeros : Nat}
    (eq : Nat.toDigits 10 d.digits = d.kept ++ List.replicate zeros '0') :
    d.digits = digitsValue d.kept * 10 ^ zeros := by
  calc d.digits = digitsValue (Nat.toDigits 10 d.digits) := (digitsValue_toDigits _).symm
    _ = _ := by
      rw [eq, digitsValue_append, digitsValue_zeros, List.length_replicate, Nat.add_zero]

theorem digitsValue_kept_le (d : Decimal) : digitsValue d.kept ≤ d.digits := by
  obtain ⟨zeros, eq⟩ := d.toDigits_eq
  rw [digits_eq eq]
  exact Nat.le_mul_of_pos_right _ (by positivity)

/-- What is shown denotes the same. -/
theorem value_shown (d : Decimal) : d.shown.value = d.value := by
  obtain ⟨zeros, eq⟩ := d.toDigits_eq
  have count : Binary64.digitCount d.digits = d.kept.length + zeros := by
    rw [Binary64.digitCount, eq, List.length_append, List.length_replicate]
  have exponent : d.point - d.kept.length = d.exponent + zeros := by
    rw [point, count]
    omega
  have ten : (10 : ℚ) ≠ 0 := by norm_num
  have same : (digitsValue d.kept : ℚ) * 10 ^ (d.exponent + zeros) = d.value := by
    rw [value, digits_eq eq, zpow_add₀ ten, zpow_natCast]
    push_cast
    ring
  rw [shown, exponent]
  split
  · next whole =>
      rw [value, ← same]
      dsimp only
      obtain ⟨k, hk⟩ := Int.eq_ofNat_of_zero_le whole.1
      rw [hk, Int.toNat_natCast]
      push_cast
      rw [zpow_natCast, pow_succ, zpow_neg_one]
      field_simp
  · exact same

end Decimal

namespace Binary64

/-! ## Texts of decimals -/

/-- **Digits that are written**: they fit in a word, and there is no zero in front of them. -/
structure Written (cs : List Char) : Prop where
  digits : Digits cs
  nonempty : cs ≠ []
  head : cs.head? ≠ some '0'
  fits : digitsValue cs < UInt64.size

theorem written_kept {d : Decimal} (hd : 0 < d.digits) (few : d.digits < UInt64.size) :
    Written d.kept where
  digits := d.digits_kept
  nonempty := Decimal.kept_ne_nil hd
  head := Decimal.head?_kept hd
  fits := lt_of_le_of_lt d.digitsValue_kept_le few

namespace Written

variable {cs tail : List Char} (written : Written cs) (negative : Bool)
include written

theorem leads_append (ds : List Char) : Leads (cs ++ ds) := by
  refine leads_of_head? (List.append_ne_nil_of_left_ne_nil written.nonempty ds) ?_
  rw [List.head?_append_of_ne_nil _ written.nonempty]
  exact written.head

theorem leads_take {count : Nat} (pos : 0 < count) : Leads (cs.take count) := by
  refine leads_of_head? ?_ ?_
  · rw [ne_eq, List.take_eq_nil_iff, not_or]
    exact ⟨pos.ne', written.nonempty⟩
  · rw [List.head?_take, if_neg pos.ne']
    exact written.head

theorem digits_take (count : Nat) : Digits (cs.take count) :=
  fun c hc => written.digits c (List.mem_of_mem_take hc)

theorem digits_drop (count : Nat) : Digits (cs.drop count) :=
  fun c hc => written.digits c (List.mem_of_mem_drop hc)

theorem fits_parts (count : Nat) :
    digitsValue (cs.take count ++ cs.drop count) < UInt64.size := by
  rw [List.take_append_drop]
  exact written.fits

/-- Zeros may stand between the point and the digits. -/
theorem number?_below {point : Int} (below : point ≤ 0) (ends : Ends tail) :
    number? negative (['0', '.'] ++ List.replicate point.natAbs '0' ++ cs ++ tail) =
      (ofDecimal? negative (digitsValue cs) (point - cs.length)).map fun x => (.float x, tail) := by
  have places : List.replicate point.natAbs '0' ++ cs ≠ [] :=
    List.append_ne_nil_of_right_ne_nil _ written.nonempty
  have value : digitsValue (['0'] ++ (List.replicate point.natAbs '0' ++ cs)) = digitsValue cs := by
    rw [digitsValue_append, digitsValue_append, digitsValue_zeros, Nat.zero_mul, Nat.zero_add]
    exact (congrArg (· + _) (Nat.zero_mul _)).trans (Nat.zero_add _)
  have shift : (0 : Int) - (List.replicate point.natAbs '0' ++ cs).length = point - cs.length := by
    rw [List.length_append, List.length_replicate]
    omega
  have read := number?_decimal negative ⟨List.cons_ne_nil '0' [], fun _ => Nat.le_refl 1⟩
    (digits_zeros 1) ((digits_zeros point.natAbs).append written.digits) ends.stops ends.exponent?
    (.inl places) (value.symm ▸ written.fits)
  rw [pointText_eq places, Option.getD_none, shift] at read
  refine Eq.trans ?_ (read.trans ?_)
  · simp
  · exact congrArg (fun n => (ofDecimal? negative n _).map _) value

/-- Zeros may stand between the digits and the point. -/
theorem number?_whole {count : Nat} (whole : cs.length ≤ count) (few : count ≤ 16)
    (ends : Ends tail) :
    number? negative (cs ++ List.replicate (count - cs.length) '0' ++ ['.', '0'] ++ tail) =
      (ofDecimal? negative (digitsValue cs * 10 ^ (count - cs.length + 1)) (-1)).map
        fun x => (.float x, tail) := by
  have value : digitsValue (cs ++ List.replicate (count - cs.length) '0' ++ ['0']) =
      digitsValue cs * 10 ^ (count - cs.length + 1) := by
    rw [List.append_assoc, digitsValue_append, ← List.replicate_succ', digitsValue_zeros,
      List.length_replicate, Nat.add_zero]
  have small : digitsValue cs * 10 ^ (count - cs.length + 1) < UInt64.size := by
    calc _ < 10 ^ cs.length * 10 ^ (count - cs.length + 1) :=
          Nat.mul_lt_mul_of_pos_right (digitsValue_lt written.digits) (by positivity)
      _ ≤ 10 ^ 17 := by
          rw [← Nat.pow_add]
          exact Nat.pow_le_pow_right (by decide) (by omega)
      _ < UInt64.size := by decide
  have read := number?_decimal negative (written.leads_append _)
    (written.digits.append (digits_zeros _)) (digits_zeros 1) ends.stops ends.exponent?
    (.inl (List.cons_ne_nil '0' [])) (value.symm ▸ small)
  refine Eq.trans ?_ (read.trans ?_)
  · simp [pointText]
  · exact congrArg (fun n => (ofDecimal? negative n (-1)).map _) value

/-- The point may stand among the digits. -/
theorem number?_among {count : Nat} (pos : 0 < count) (among : count < cs.length)
    (ends : Ends tail) :
    number? negative (cs.take count ++ ['.'] ++ cs.drop count ++ tail) =
      (ofDecimal? negative (digitsValue cs) (count - cs.length)).map
        fun x => (.float x, tail) := by
  have places : cs.drop count ≠ [] := by
    rw [ne_eq, List.drop_eq_nil_iff]
    exact not_le.mpr among
  have shift : (0 : Int) - (cs.drop count).length = count - cs.length := by
    rw [List.length_drop]
    omega
  have read := number?_decimal negative (written.leads_take pos) (written.digits_take count)
    (written.digits_drop count) ends.stops ends.exponent? (.inl places) (written.fits_parts count)
  rw [List.take_append_drop, Option.getD_none, shift, pointText_eq places] at read
  rw [← read]
  simp

/-- There may be an exponent behind the first digit and the others. -/
theorem number?_scientific (point : Int) (ends : Ends tail) :
    number? negative (scientific cs point ++ tail) =
      (ofDecimal? negative (digitsValue cs) (point - cs.length)).map
        fun x => (.float x, tail) := by
  have length : 0 < cs.length := List.length_pos_of_ne_nil written.nonempty
  have shift : point - 1 - ((cs.drop 1).length : Int) = point - cs.length := by
    rw [List.length_drop]
    omega
  have read := number?_decimal negative (written.leads_take Nat.one_pos) (written.digits_take 1)
    (written.digits_drop 1) (stops_exponentText (point - 1)) (ends.exponent?_append (point - 1))
    (.inr rfl) (written.fits_parts 1)
  rw [List.take_append_drop, Option.getD_some, shift] at read
  rw [← read]
  simp [scientific, exponentText, pointText]

end Written

variable {x : Binary64} {tail : List Char}

/-- The text of a number without its sign. -/
def magnitudeText (x : Binary64) : List Char :=
  if x.significand = 0 then ['0', '.', '0'] else decimalText x.shortest

theorem toList_toText (x : Binary64) : x.toText.toList =
    if x.negative then '-' :: x.magnitudeText else x.magnitudeText :=
  String.toList_ofList

theorem decimalText_eq (d : Decimal) : decimalText d =
    if -5 < d.point ∧ d.point ≤ 16 then positional d.kept d.point
    else scientific d.kept d.point := rfl

/-- **A decimal is read as it is shown.** -/
theorem number?_decimalText (negative : Bool) {d : Decimal} (hd : 0 < d.digits)
    (few : d.digits < UInt64.size) (ends : Ends tail) :
    number? negative (decimalText d ++ tail) =
      (ofDecimal? negative d.shown.digits d.shown.exponent).map fun x => (.float x, tail) := by
  have written := written_kept hd few
  have length : 0 < d.kept.length := List.length_pos_of_ne_nil written.nonempty
  rw [decimalText_eq, Decimal.shown]
  split
  · next near =>
    rw [positional]
    split
    · next below =>
      -- in front of all digits
      rw [if_neg (by omega)]
      exact written.number?_below negative below ends
    · next above =>
      -- among the digits, or behind them and some zeros
      obtain ⟨count, counted⟩ := Int.eq_ofNat_of_zero_le (not_le.mp above).le
      rw [counted, Int.toNat_natCast]
      rw [counted] at above near
      rcases Nat.lt_or_ge count d.kept.length with among | whole
      · rw [if_neg (not_le.mpr among), if_neg (by omega)]
        exact written.number?_among negative (by omega) among ends
      · have zeros : ((count : Int) - d.kept.length).toNat = count - d.kept.length := by omega
        rw [if_pos whole, if_pos (by omega), zeros]
        exact written.number?_whole negative whole (by omega) ends
  · rw [if_neg (by omega)]
    exact written.number?_scientific negative d.point ends

/-- The text of a number begins with a digit. -/
theorem magnitudeText_cons (hx : x.Canonical) :
    ∃ c cs, x.magnitudeText = c :: cs ∧ c.isDigit = true := by
  rw [magnitudeText]
  split
  · exact ⟨_, _, rfl, rfl⟩
  · next some =>
    obtain ⟨nearest, few⟩ := shortest_spec hx some
    have written := written_kept (digits_pos_of_isNearestTo some nearest)
      (lt_of_le_of_lt few (by decide))
    obtain ⟨c, cs, eq⟩ := List.exists_cons_of_ne_nil written.nonempty
    have digit : c.isDigit = true := written.digits c (eq ▸ List.mem_cons_self)
    rw [decimalText_eq]
    split
    · rw [positional]
      split
      · exact ⟨_, _, rfl, rfl⟩
      · next above =>
        obtain ⟨count, counted⟩ := Nat.exists_eq_add_one_of_ne_zero
          (by omega : x.shortest.point.toNat ≠ 0)
        rw [eq, counted]
        dsimp only
        split
        · exact ⟨c, _, rfl, digit⟩
        · exact ⟨c, _, rfl, digit⟩
    · rw [scientific, eq]
      exact ⟨c, _, rfl, digit⟩

/-- The decimal that the text of a number shows. -/
def shown (x : Binary64) : Decimal :=
  if x.significand = 0 then ⟨0, -1⟩ else x.shortest.shown

/-- **The number that the text of a number is read as**, unless that is too great for the format. -/
def reread? (x : Binary64) : Option Binary64 :=
  ofDecimal? x.negative x.shown.digits x.shown.exponent

/-- **A number is read as the decimal that is shown.** -/
theorem number?_magnitudeText (hx : x.Canonical) (ends : Ends tail) :
    number? x.negative (x.magnitudeText ++ tail) = x.reread?.map fun y => (.float y, tail) := by
  rw [magnitudeText, reread?, shown]
  split
  · have leads : Leads ['0'] := ⟨List.cons_ne_nil _ _, fun _ => Nat.le_refl 1⟩
    have zero : Digits ['0'] := digits_zeros 1
    have value : digitsValue (['0'] ++ ['0']) = 0 := rfl
    have shift : (none : Option Int).getD 0 - (['0'].length : Int) = -1 := rfl
    have read := number?_decimal x.negative leads zero zero ends.stops ends.exponent?
      (.inl (List.cons_ne_nil _ _)) (value.symm ▸ (by decide))
    rw [value, shift] at read
    exact read
  · next some =>
    obtain ⟨nearest, few⟩ := shortest_spec hx some
    exact number?_decimalText x.negative (digits_pos_of_isNearestTo some nearest)
      (lt_of_le_of_lt few (by decide)) ends

/-- **A number with a short text**: few digits are shown, and a moderate power of ten. -/
structure Short (x : Binary64) : Prop where
  few : x.shown.digits < significandLimit
  moderate : x.shown.exponent.natAbs ≤ 22

theorem short_iff : x.Short ↔ x.shown.digits < significandLimit ∧ x.shown.exponent.natAbs ≤ 22 :=
  ⟨fun short => ⟨short.few, short.moderate⟩, fun both => ⟨both.1, both.2⟩⟩

instance : DecidablePred Short := fun _ => decidable_of_iff' _ short_iff

/-- **A number with a short text comes back.** -/
theorem Short.reread?_eq (short : x.Short) (hx : x.Canonical) : x.reread? = some x := by
  rw [reread?, ofDecimal?_eq_nearest? x.negative short.few short.moderate, shown]
  split
  · next none =>
    rw [Nat.zero_mul, nearest?_zero, zero]
    have least : x.exponent = leastExponent := by
      refine hx.full.resolve_left fun full => ?_
      rw [none] at full
      exact absurd full (by decide)
    rw [← none, ← least]
  · next some =>
    obtain ⟨nearest, -⟩ := shortest_spec hx some
    rw [← isNearestTo_iff.mp nearest]
    have ten := power_pos (by decide : 0 < 10)
    refine nearest?_congr (ten _) (ten _) ?_
    rw [scaled_up (by decide), scaled_up (by decide)]
    exact x.shortest.value_shown

example : Short ⟨true, 0x18000000000000, -52⟩ := by decide +kernel

end Binary64

end MaintenanceOutbox
