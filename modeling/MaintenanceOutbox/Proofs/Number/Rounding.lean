import MaintenanceOutbox.Number.Binary64
import Mathlib.Algebra.Order.Field.Power
import Mathlib.Algebra.Order.Floor.Semifield
import Mathlib.Data.Int.Log
import Mathlib.Data.Rat.Floor
import Mathlib.Tactic.FieldSimp
import Mathlib.Tactic.Linarith
import Mathlib.Tactic.NormNum
import Mathlib.Tactic.Positivity
import Mathlib.Tactic.Ring

set_option autoImplicit false

/-! # What numbers are rounded to

`Binary64.nearest?` depends on the ratio only that it is given (`nearest?_congr`), and finds the
number that is less than half a place away from it (`nearest?_eq`). Below a power of two places are
half as far apart, so a ratio below one has to be twice as near.

A decimal with few digits and a moderate power of ten is read without any error in between: digits
and power of ten are numbers of the format, and so one rounding is left (`ofDecimal?_eq_nearest?`).
-/

namespace MaintenanceOutbox.Binary64

/-- The magnitude of a number. -/
def value (x : Binary64) : ℚ :=
  x.significand * 2 ^ x.exponent

/-- **The one form of a number**: its significand has 53 bits, or its exponent is the least. -/
structure Canonical (x : Binary64) : Prop where
  bits : x.significand < significandLimit
  full : leastFull ≤ x.significand ∨ x.exponent = leastExponent
  least : leastExponent ≤ x.exponent
  greatest : x.exponent ≤ greatestExponent

/-! ## Ratios -/

theorem power_pos {b : Nat} (hb : 0 < b) (e : Int) : 0 < power b e :=
  Nat.pow_pos hb

/-- A power is split between the two sides of a ratio. -/
theorem power_div_power {b : Nat} (hb : 0 < b) (e : Int) :
    (power b e : ℚ) / power b (-e) = (b : ℚ) ^ e := by
  have some : (b : ℚ) ≠ 0 := by exact_mod_cast hb.ne'
  have cast (k : Int) : (power b k : ℚ) = (b : ℚ) ^ (k.toNat : Int) := by
    rw [power, zpow_natCast]
    exact Nat.cast_pow b k.toNat
  rw [cast, cast, ← zpow_sub₀ some, Int.toNat_sub_toNat_neg]

theorem scaled_down {b : Nat} (hb : 0 < b) (e : Int) (n d : Nat) :
    ((n * power b (-e) : ℕ) : ℚ) / (d * power b e : ℕ) = n / d / (b : ℚ) ^ e := by
  have high : (power b e : ℚ) ≠ 0 := by exact_mod_cast (power_pos hb e).ne'
  have low : (power b (-e) : ℚ) ≠ 0 := by exact_mod_cast (power_pos hb (-e)).ne'
  rw [← power_div_power hb e]
  push_cast
  field_simp

theorem scaled_up {b : Nat} (hb : 0 < b) (e : Int) (n : Nat) :
    ((n * power b e : ℕ) : ℚ) / (power b (-e) : ℕ) = n * (b : ℚ) ^ e := by
  rw [← power_div_power hb e]
  push_cast
  ring

theorem numerator_div_denominator (x : Binary64) :
    (x.numerator : ℚ) / x.denominator = x.value :=
  scaled_up Nat.two_pos x.exponent x.significand

theorem denominator_pos (x : Binary64) : 0 < x.denominator :=
  power_pos Nat.two_pos _

/-! ## Whole numbers -/

theorem nearestNat_mul_left {c : Nat} (hc : 0 < c) (n d : Nat) :
    nearestNat (c * n) (c * d) = nearestNat n d := by
  have double (m : Nat) : 2 * (c * m) = c * (2 * m) := Nat.mul_left_comm 2 c m
  simp only [nearestNat, Nat.mul_mod_mul_left, Nat.mul_div_mul_left n d hc, double,
    Nat.mul_lt_mul_left hc]

/-- Equal ratios are rounded alike. -/
theorem nearestNat_congr {n d n' d' : Nat} (hd : 0 < d) (hd' : 0 < d') (same : n * d' = n' * d) :
    nearestNat n d = nearestNat n' d' := by
  rw [← nearestNat_mul_left hd' n d, ← nearestNat_mul_left hd n' d', Nat.mul_comm d' n, same,
    Nat.mul_comm n' d, Nat.mul_comm d' d]

/-- What is less than a half away from `s` is rounded to `s`. -/
theorem nearestNat_eq {n d s : Nat} (hd : 0 < d) (near : |(n : ℚ) / d - s| < 1 / 2) :
    nearestNat n d = s := by
  have pos : (0 : ℚ) < d := by exact_mod_cast hd
  obtain ⟨above, below⟩ := nearestNat_within_half n d hd
  have above' : (2 * n : ℚ) ≤ 2 * (d * nearestNat n d) + d := by exact_mod_cast above
  have below' : (2 * (d * nearestNat n d) : ℚ) ≤ 2 * n + d := by exact_mod_cast below
  have whole : (n : ℚ) = d * (n / d) := by field_simp
  rw [abs_lt] at near
  -- both are at most a half away from the ratio, one of them less
  have less : (nearestNat n d : ℚ) < s + 1 := by
    by_contra! far
    nlinarith
  have more : (s : ℚ) < nearestNat n d + 1 := by
    by_contra! far
    nlinarith
  have less' : nearestNat n d < s + 1 := by exact_mod_cast less
  have more' : s < nearestNat n d + 1 := by exact_mod_cast more
  omega

theorem nearestNat_eq_or (n d : Nat) : nearestNat n d = n / d ∨ nearestNat n d = n / d + 1 := by
  unfold nearestNat
  split_ifs <;> simp

/-! ## Exponents -/

theorem zpow_two_le_iff {q : ℚ} (pos : 0 < q) (e : Int) : 2 ^ e ≤ q ↔ e ≤ Int.log 2 q := by
  rw [← Int.zpow_le_iff_le_log one_lt_two pos, Nat.cast_ofNat]

theorem lt_zpow_two_iff {q : ℚ} (pos : 0 < q) (e : Int) : q < 2 ^ e ↔ Int.log 2 q < e := by
  rw [← Int.lt_zpow_iff_log_lt one_lt_two pos, Nat.cast_ofNat]

/-- A ratio lies between powers of two, one apart if the right one of two guesses is taken. -/
theorem log_guess {n d : Nat} (hn : 0 < n) (hd : 0 < d) :
    Int.log 2 ((n : ℚ) / d) =
      if (n : ℚ) / d < 2 ^ ((n.log2 : Int) - d.log2) then (n.log2 : Int) - d.log2 - 1
      else n.log2 - d.log2 := by
  have positive : (0 : ℚ) < d := by exact_mod_cast hd
  have pos : (0 : ℚ) < (n : ℚ) / d := by positivity
  have two : (2 : ℚ) ≠ 0 := two_ne_zero
  -- the exponents of the two sides leave two exponents for their ratio
  have n₁ : (2 : ℚ) ^ n.log2 ≤ n := by exact_mod_cast Nat.log2_self_le hn.ne'
  have n₂ : (n : ℚ) < 2 ^ (n.log2 + 1) := by exact_mod_cast Nat.lt_log2_self
  have d₁ : (2 : ℚ) ^ d.log2 ≤ d := by exact_mod_cast Nat.log2_self_le hd.ne'
  have d₂ : (d : ℚ) < 2 ^ (d.log2 + 1) := by exact_mod_cast Nat.lt_log2_self
  have low : (2 : ℚ) ^ ((n.log2 : Int) - d.log2 - 1) ≤ n / d := by
    have split : (2 : ℚ) ^ ((n.log2 : Int) - d.log2 - 1) = 2 ^ n.log2 / 2 ^ (d.log2 + 1) := by
      rw [sub_sub, zpow_sub₀ two, zpow_natCast]
      norm_cast
    rw [split, div_le_div_iff₀ (by positivity) positive]
    gcongr
  have high : (n : ℚ) / d < 2 ^ ((n.log2 : Int) - d.log2 + 1) := by
    have split : (2 : ℚ) ^ ((n.log2 : Int) - d.log2 + 1) = 2 ^ (n.log2 + 1) / 2 ^ d.log2 := by
      rw [sub_add_eq_add_sub, zpow_sub₀ two, zpow_natCast]
      norm_cast
    rw [split, div_lt_div_iff₀ positive (by positivity)]
    calc (n : ℚ) * 2 ^ d.log2 < 2 ^ (n.log2 + 1) * 2 ^ d.log2 := by gcongr
      _ ≤ 2 ^ (n.log2 + 1) * d := by gcongr
  rw [zpow_two_le_iff pos] at low
  rw [lt_zpow_two_iff pos] at high
  split
  · next less =>
      rw [lt_zpow_two_iff pos] at less
      omega
  · next more =>
      rw [not_lt, zpow_two_le_iff pos] at more
      omega

/-- **The exponent of a ratio** is given by the power of two below it. -/
theorem exponentFor_eq_log {n d : Nat} (hn : 0 < n) (hd : 0 < d) :
    exponentFor n d = max leastExponent (Int.log 2 ((n : ℚ) / d) - 52) := by
  have positive : (0 : ℚ) < d := by exact_mod_cast hd
  -- what is compared, without its denominators, is whether the ratio is below a power of two
  have guess (e : Int) : n * power 2 (-e) < leastFull * d * power 2 e ↔
      (n : ℚ) / d < 2 ^ (e + 52) := by
    have full : (2 : ℚ) ^ (e + 52) = leastFull * 2 ^ e := by
      rw [zpow_add₀ two_ne_zero, mul_comm]
      congr 1
    have scale := scaled_down Nat.two_pos e n d
    have below : (0 : ℚ) < (d * power 2 e : ℕ) := by
      exact_mod_cast Nat.mul_pos hd (power_pos Nat.two_pos e)
    have two : (0 : ℚ) < (2 : ℕ) ^ e := by positivity
    rw [full, ← div_lt_iff₀ (by positivity : (0 : ℚ) < 2 ^ e)]
    rw [show (2 : ℚ) ^ e = ((2 : ℕ) : ℚ) ^ e by norm_num, ← scale, div_lt_iff₀ below]
    rw [Nat.mul_assoc]
    exact_mod_cast Iff.rfl
  have clip (e : Int) : (if e < leastExponent then leastExponent else e) = max leastExponent e := by
    rw [max_def]
    split_ifs <;> omega
  have same : ((n.log2 : Int) - d.log2 - 52) + 52 = n.log2 - d.log2 := sub_add_cancel _ _
  simp only [exponentFor, guess, clip, same, log_guess hn hd]
  split_ifs
  · rw [sub_right_comm]
  · rfl

/-- **Equal ratios are rounded to the same number.** -/
theorem nearest?_congr {negative : Bool} {n d n' d' : Nat} (hd : 0 < d) (hd' : 0 < d')
    (same : (n : ℚ) / d = n' / d') : nearest? negative n d = nearest? negative n' d' := by
  have some : (d : ℚ) ≠ 0 := by exact_mod_cast hd.ne'
  have some' : (d' : ℚ) ≠ 0 := by exact_mod_cast hd'.ne'
  have cross : n * d' = n' * d := by
    rw [div_eq_div_iff some some'] at same
    exact_mod_cast same
  by_cases nothing : n = 0
  · subst nothing
    have nothing' : n' = 0 := by
      rw [Nat.zero_mul] at cross
      exact (Nat.mul_eq_zero.mp cross.symm).resolve_right hd.ne'
    rw [nothing', nearest?, nearest?, if_pos rfl, if_pos rfl]
  · have hn' : n' ≠ 0 := by
      rintro rfl
      rw [Nat.zero_mul] at cross
      exact nothing ((Nat.mul_eq_zero.mp cross).resolve_right hd'.ne')
    have exponent : exponentFor n d = exponentFor n' d' := by
      rw [exponentFor_eq_log (Nat.pos_of_ne_zero nothing) hd,
        exponentFor_eq_log (Nat.pos_of_ne_zero hn') hd', same]
    have significand (e : Int) : nearestNat (n * power 2 (-e)) (d * power 2 e) =
        nearestNat (n' * power 2 (-e)) (d' * power 2 e) := by
      have two := power_pos Nat.two_pos e
      refine nearestNat_congr (Nat.mul_pos hd two) (Nat.mul_pos hd' two) ?_
      rw [Nat.mul_mul_mul_comm, cross, Nat.mul_mul_mul_comm]
    simp only [nearest?, if_neg nothing, if_neg hn', exponent, significand]

/-! ## The number nearest to a ratio -/

theorem exponentFor_eq {n d : Nat} {e : Int} (hn : 0 < n) (hd : 0 < d) (least : leastExponent ≤ e)
    (low : (leastFull : ℚ) * 2 ^ e ≤ n / d ∨ e = leastExponent)
    (high : (n : ℚ) / d < significandLimit * 2 ^ e) : exponentFor n d = e := by
  have pos : (0 : ℚ) < (n : ℚ) / d := by
    have : (0 : ℚ) < d := by exact_mod_cast hd
    positivity
  have limit : (significandLimit : ℚ) * 2 ^ e = 2 ^ (53 + e) := by
    rw [zpow_add₀ two_ne_zero]
    congr 1
  rw [limit, lt_zpow_two_iff pos] at high
  rw [exponentFor_eq_log hn hd]
  rcases low with low | rfl
  · have full : (leastFull : ℚ) * 2 ^ e = 2 ^ (52 + e) := by
      rw [zpow_add₀ two_ne_zero]
      congr 1
    rw [full, zpow_two_le_iff pos] at low
    omega
  · omega

/-- The significand at a given exponent. -/
theorem nearestNat_scaled {n d s : Nat} {e : Int} (hd : 0 < d)
    (near : |(n : ℚ) / d - s * 2 ^ e| < 2 ^ e / 2) :
    nearestNat (n * power 2 (-e)) (d * power 2 e) = s := by
  refine nearestNat_eq (Nat.mul_pos hd (power_pos Nat.two_pos e)) ?_
  have pos : (0 : ℚ) < 2 ^ e := by positivity
  have scale := scaled_down Nat.two_pos e n d
  rw [Nat.cast_ofNat] at scale
  have whole : (n : ℚ) / d / 2 ^ e - s = (n / d - s * 2 ^ e) / 2 ^ e := by field_simp
  rw [scale, whole, abs_div, abs_of_pos pos, div_lt_iff₀ pos]
  linarith

/-- A number is found from a ratio with the same exponent, less than half a place away. -/
theorem nearest?_of_exponent (negative : Bool) {n d s : Nat} {e : Int} (hn : 0 < n) (hd : 0 < d)
    (least : leastExponent ≤ e) (greatest : e ≤ greatestExponent) (bits : s < significandLimit)
    (low : (leastFull : ℚ) * 2 ^ e ≤ n / d ∨ e = leastExponent)
    (near : |(n : ℚ) / d - s * 2 ^ e| < 2 ^ e / 2) :
    nearest? negative n d = some ⟨negative, s, e⟩ := by
  have pos : (0 : ℚ) < 2 ^ e := by positivity
  have bounds := abs_lt.mp near
  have bits' : (s : ℚ) + 1 ≤ significandLimit := by exact_mod_cast bits
  have high : (n : ℚ) / d < significandLimit * 2 ^ e := by nlinarith
  rw [nearest?, if_neg hn.ne', exponentFor_eq hn hd least low high]
  simp only [nearestNat_scaled hd near, if_neg bits.ne]
  exact if_neg (not_lt.mpr greatest)

/-- A power of two is found from a ratio below it, less than a quarter of a place away. -/
theorem nearest?_below (negative : Bool) {n d : Nat} {e : Int} (hn : 0 < n) (hd : 0 < d)
    (least : leastExponent < e) (greatest : e ≤ greatestExponent)
    (less : (n : ℚ) / d < leastFull * 2 ^ e)
    (near : (leastFull : ℚ) * 2 ^ e - n / d < 2 ^ e / 4) :
    nearest? negative n d = some ⟨negative, leastFull, e⟩ := by
  have half : (2 : ℚ) ^ e = 2 * 2 ^ (e - 1) := by
    rw [zpow_sub_one₀ two_ne_zero]
    ring
  have limit : (significandLimit : ℚ) = 2 * leastFull := by
    rw [significandLimit, leastFull]
    norm_num
  have pos : (0 : ℚ) < 2 ^ (e - 1) := by positivity
  have one : (1 : ℚ) ≤ leastFull := by
    rw [leastFull]
    norm_num
  rw [half] at less near
  -- the ratio has one exponent less, and there the number has the significand that is one too large
  have near' : |(n : ℚ) / d - significandLimit * 2 ^ (e - 1)| < 2 ^ (e - 1) / 2 := by
    rw [limit, abs_lt]
    constructor <;> linarith
  have high : (n : ℚ) / d < significandLimit * 2 ^ (e - 1) := by
    rw [limit]
    linarith
  have low : (leastFull : ℚ) * 2 ^ (e - 1) ≤ n / d := by nlinarith
  rw [nearest?, if_neg hn.ne', exponentFor_eq hn hd (by omega) (.inl low) high]
  simp only [nearestNat_scaled hd near', if_pos trivial, sub_add_cancel]
  exact if_neg (not_lt.mpr greatest)

/-- **A number is found from whatever is near to it**: less than half a place away, or a quarter
below a power of two. -/
theorem nearest?_eq {x : Binary64} (hx : x.Canonical) {n d : Nat} (hn : 0 < n) (hd : 0 < d)
    (near : |(n : ℚ) / d - x.value| < 2 ^ x.exponent / 2)
    (below : x.significand = leastFull → x.value - n / d < 2 ^ x.exponent / 4) :
    nearest? x.negative n d = some x := by
  obtain ⟨negative, s, e⟩ := x
  have least : leastExponent ≤ e := hx.least
  rw [value] at near below
  dsimp only at near below ⊢
  by_cases low : (leastFull : ℚ) * 2 ^ e ≤ n / d ∨ e = leastExponent
  · exact nearest?_of_exponent negative hn hd least hx.greatest hx.bits low near
  · -- only a power of two has a ratio of another exponent near to it
    obtain ⟨less, more⟩ := not_or.mp low
    have less' := not_le.mp less
    have power : s = leastFull := by
      have full : leastFull ≤ s := hx.full.resolve_right more
      have pos : (0 : ℚ) < 2 ^ e := by positivity
      have bounds := abs_lt.mp near
      have bound : (s : ℚ) < leastFull + 1 := by nlinarith
      have bound' : s < leastFull + 1 := by exact_mod_cast bound
      omega
    subst power
    exact nearest?_below negative hn hd (by omega) hx.greatest less' (below rfl)

/-! ## Decimals with few digits -/

theorem nearest?_zero (negative : Bool) (d : Nat) : nearest? negative 0 d = some (zero negative) :=
  if_pos rfl

/-- Small numbers, multiplied by small powers of two, belong to the format. -/
theorem exists_canonical (negative : Bool) {m k : Nat} (hm : 0 < m) (few : m < significandLimit)
    (hk : k ≤ 22) : ∃ x : Binary64, x.Canonical ∧ x.negative = negative ∧ x.value = m * 2 ^ k := by
  have log : m.log2 ≤ 52 := by
    have : m.log2 < 53 := (Nat.log2_lt hm.ne').mpr few
    omega
  have full : leastFull ≤ m * 2 ^ (52 - m.log2) := by
    calc leastFull = 2 ^ m.log2 * 2 ^ (52 - m.log2) := by
          rw [← Nat.pow_add, Nat.add_sub_cancel' log]
          rfl
      _ ≤ _ := Nat.mul_le_mul_right _ (Nat.log2_self_le hm.ne')
  have bits : m * 2 ^ (52 - m.log2) < significandLimit := by
    calc m * 2 ^ (52 - m.log2) < 2 ^ (m.log2 + 1) * 2 ^ (52 - m.log2) :=
          Nat.mul_lt_mul_of_pos_right Nat.lt_log2_self (by positivity)
      _ = significandLimit := by
          rw [← Nat.pow_add, (by omega : m.log2 + 1 + (52 - m.log2) = 53)]
          rfl
  refine ⟨⟨negative, m * 2 ^ (52 - m.log2), k - (52 - m.log2 : ℕ)⟩, ⟨bits, .inl full, ?_, ?_⟩, rfl,
    ?_⟩
  · show (-1074 : Int) ≤ _
    dsimp only
    omega
  · show _ ≤ (971 : Int)
    dsimp only
    omega
  · rw [value]
    dsimp only
    rw [zpow_sub₀ two_ne_zero, zpow_natCast, zpow_natCast]
    push_cast
    field_simp

/-- They are rounded to themselves. -/
theorem nearest?_exact (negative : Bool) {m k : Nat} (hm : 0 < m) (few : m < significandLimit)
    (hk : k ≤ 22) : ∃ x : Binary64, nearest? negative (m * 2 ^ k) 1 = some x ∧
      x.negative = negative ∧ x.value = m * 2 ^ k := by
  obtain ⟨x, canonical, rfl, same⟩ := exists_canonical negative hm few hk
  have pos : (0 : ℚ) < 2 ^ x.exponent := by positivity
  have nothing : ((m * 2 ^ k : ℕ) : ℚ) / (1 : ℕ) - x.value = 0 := by
    rw [same]
    push_cast
    ring
  refine ⟨x, nearest?_eq canonical (by positivity) Nat.one_pos ?_ fun _ => ?_, rfl, same⟩
  · rw [nothing, abs_zero]
    positivity
  · rw [← neg_sub, nothing, neg_zero]
    positivity

/-- The powers of ten up to the twenty-second belong to the format. -/
theorem powerOfTen?_exact {k : Nat} (hk : k ≤ 22) :
    ∃ y : Binary64, powerOfTen? k = some y ∧ y.value = 10 ^ k := by
  have few : 5 ^ k < significandLimit := by
    calc 5 ^ k ≤ 5 ^ 22 := Nat.pow_le_pow_right (by decide) hk
      _ < significandLimit := by decide
  obtain ⟨y, exact, -, same⟩ := nearest?_exact false (by positivity : 0 < 5 ^ k) few hk
  refine ⟨y, ?_, ?_⟩
  · rw [powerOfTen?, ← exact, ← Nat.mul_pow]
    rfl
  · rw [same]
    push_cast
    rw [← mul_pow]
    norm_num

theorem numerator_cast (x : Binary64) : (x.numerator : ℚ) = x.value * x.denominator := by
  have some : (x.denominator : ℚ) ≠ 0 := by exact_mod_cast x.denominator_pos.ne'
  rw [← x.numerator_div_denominator]
  field_simp

/-- A whole number with few digits belongs to the format. -/
theorem nearest?_whole (negative : Bool) {m : Nat} (few : m < significandLimit) :
    ∃ x : Binary64, nearest? negative m 1 = some x ∧ x.negative = negative ∧ x.value = m := by
  rcases Nat.eq_zero_or_pos m with rfl | some
  · exact ⟨zero negative, nearest?_zero negative 1, rfl, by simp [value, zero]⟩
  · obtain ⟨x, exact, sign, same⟩ := nearest?_exact negative some few (Nat.zero_le 22)
    rw [Nat.pow_zero, Nat.mul_one] at exact
    rw [pow_zero, mul_one] at same
    exact ⟨x, exact, sign, same⟩

/-- A division by a moderate power of ten is rounded once. -/
theorem shiftedDown?_eq (x : Binary64) {k n d : Nat} (hk : k ≤ 22) (hd : 0 < d)
    (ratio : (n : ℚ) / d = x.value / 10 ^ k) : x.shiftedDown? k = nearest? x.negative n d := by
  have most : k ≤ greatestPowerOfTen := hk.trans (by decide)
  obtain ⟨y, powerOfTen, y_eq⟩ := powerOfTen?_exact hk
  have x_den : (x.denominator : ℚ) ≠ 0 := by exact_mod_cast x.denominator_pos.ne'
  have y_den : (0 : ℚ) < y.denominator := by exact_mod_cast y.denominator_pos
  have y_num : 0 < y.numerator := by
    have positive : (0 : ℚ) < y.numerator := by
      rw [numerator_cast, y_eq]
      positivity
    exact_mod_cast positive
  rw [shiftedDown?, if_pos most, powerOfTen, Option.bind_eq_bind, Option.bind_some, over?]
  refine nearest?_congr (Nat.mul_pos x.denominator_pos y_num) hd ?_
  rw [ratio]
  push_cast
  rw [numerator_cast, numerator_cast, y_eq]
  field_simp

/-- A multiplication by a moderate power of ten is rounded once. -/
theorem shiftedUp?_eq {x : Binary64} (some : x.significand ≠ 0) {k n d : Nat} (hk : k ≤ 22)
    (hd : 0 < d) (ratio : (n : ℚ) / d = x.value * 10 ^ k) :
    x.shiftedUp? k = nearest? x.negative n d := by
  have most : k ≤ greatestPowerOfTen := hk.trans (by decide)
  obtain ⟨y, powerOfTen, y_eq⟩ := powerOfTen?_exact hk
  have x_den : (x.denominator : ℚ) ≠ 0 := by exact_mod_cast x.denominator_pos.ne'
  have y_den : (y.denominator : ℚ) ≠ 0 := by exact_mod_cast y.denominator_pos.ne'
  rw [shiftedUp?, if_neg some, if_pos most, powerOfTen, Option.bind_eq_bind, Option.bind_some,
    times?]
  refine nearest?_congr (Nat.mul_pos x.denominator_pos y.denominator_pos) hd ?_
  rw [ratio]
  push_cast
  rw [numerator_cast, numerator_cast, y_eq]
  field_simp

/-- **A decimal with few digits and a moderate power of ten is rounded once**, to the nearest
number. -/
theorem ofDecimal?_eq_nearest? (negative : Bool) {digits : Nat} {exponent : Int}
    (few : digits < significandLimit) (moderate : exponent.natAbs ≤ 22) :
    ofDecimal? negative digits exponent =
      nearest? negative (digits * power 10 exponent) (power 10 (-exponent)) := by
  have ten : 0 < power 10 (-exponent) := power_pos (by decide) _
  have ratio := scaled_up (by decide : 0 < 10) exponent digits
  rw [Nat.cast_ofNat] at ratio
  obtain ⟨x, exact, rfl, x_eq⟩ := nearest?_whole negative few
  rw [ofDecimal?, exact, Option.bind_eq_bind, Option.bind_some]
  split
  · next below =>
      refine shiftedDown?_eq x moderate ten ?_
      rw [ratio, x_eq, div_eq_mul_inv, ← zpow_natCast, ← zpow_neg,
        Int.ofNat_natAbs_of_nonpos below.le, neg_neg]
  · next above =>
      rcases Nat.eq_zero_or_pos digits with rfl | some
      · -- zero stays as it is
        rw [nearest?_zero] at exact
        have none : x.significand = 0 := congrArg significand (Option.some.inj exact).symm
        rw [shiftedUp?, if_pos none, Nat.zero_mul, nearest?_zero, exact]
      · have significand : x.significand ≠ 0 := by
          intro none
          rw [value, none, Nat.cast_zero, zero_mul] at x_eq
          exact some.ne (by exact_mod_cast x_eq)
        refine shiftedUp?_eq significand moderate ten ?_
        rw [ratio, x_eq, ← zpow_natCast, Int.natAbs_of_nonneg (not_lt.mp above)]

end MaintenanceOutbox.Binary64
