import MaintenanceOutbox.Number.Shortest
import MaintenanceOutbox.Proofs.Number.Rounding

set_option autoImplicit false

/-! # Shortest decimals stand for their numbers

Among decimals with seventeen digits there always is one that is nearer to a number than half a
place (`Binary64.exists_decimalOf?`): in units of the last digit the number is at least `10 ^ 16`,
in units of its own last place less than `2 ^ 53`, and `2 ^ 53` is less than `10 ^ 16`. So the
search for the shortest decimal of a number finds one, and it stands for that number
(`Binary64.shortest_spec`).
-/

namespace MaintenanceOutbox

/-- The number that a decimal denotes. -/
def Decimal.value (d : Decimal) : ℚ :=
  d.digits * 10 ^ d.exponent

namespace Binary64

variable {x : Binary64}

theorem isNearestTo_iff {d : Decimal} : x.isNearestTo d = true ↔
    nearest? x.negative (d.digits * power 10 d.exponent) (power 10 (-d.exponent)) = some x :=
  decide_eq_true_iff

/-- A decimal that is near to a number stands for it. -/
theorem isNearestTo_of_near (hx : x.Canonical) {d : Decimal} (hd : 0 < d.digits)
    (near : |d.value - x.value| < 2 ^ x.exponent / 2)
    (below : x.significand = leastFull → x.value - d.value < 2 ^ x.exponent / 4) :
    x.isNearestTo d = true := by
  have ten := power_pos (by decide : 0 < 10)
  have ratio : ((d.digits * power 10 d.exponent : ℕ) : ℚ) / (power 10 (-d.exponent) : ℕ) =
      d.value := by
    rw [scaled_up (by decide), Nat.cast_ofNat, Decimal.value]
  rw [isNearestTo_iff]
  refine nearest?_eq hx (Nat.mul_pos hd (ten _)) (ten _) ?_ ?_
  · rwa [ratio]
  · rwa [ratio]

/-- Zero stands for no other number. -/
theorem digits_pos_of_isNearestTo (some : x.significand ≠ 0) {d : Decimal}
    (nearest : x.isNearestTo d = true) : 0 < d.digits := by
  rw [isNearestTo_iff] at nearest
  refine Nat.pos_of_ne_zero fun none => some ?_
  rw [none, Nat.zero_mul, nearest?_zero] at nearest
  exact congrArg significand (Option.some.inj nearest).symm

/-! ## Magnitudes -/

theorem lt_pow_digitCount (n : Nat) : n < 10 ^ digitCount n :=
  (Nat.length_toDigits_le_iff (by decide) Nat.length_toDigits_pos).mp le_rfl

theorem pow_le_of_digitCount {n : Nat} (hn : 0 < n) : 10 ^ (digitCount n - 1) ≤ n := by
  by_contra! less
  rcases Nat.eq_zero_or_pos (digitCount n - 1) with one | more
  · rw [one] at less
    omega
  · have := (Nat.length_toDigits_le_iff (by decide) more).mpr less
    rw [digitCount] at this more
    omega

/-- The magnitude of a number is the power of ten above it. -/
theorem magnitude_spec (some : x.significand ≠ 0) :
    10 ^ (x.magnitude - 1) ≤ x.value ∧ x.value ≤ 10 ^ x.magnitude := by
  have n : 0 < x.numerator := Nat.mul_pos (Nat.pos_of_ne_zero some) (power_pos Nat.two_pos _)
  have d := x.denominator_pos
  have n' : (0 : ℚ) < x.numerator := by exact_mod_cast n
  have d' : (0 : ℚ) < x.denominator := by exact_mod_cast d
  -- the greater side over the smaller one, and how many digits that has
  have ratio {a b : Nat} (hb : 0 < b) (le : b ≤ a) :
      (10 : ℚ) ^ (digitCount (a / b) - 1 : Int) ≤ a / b ∧
        (a : ℚ) / b ≤ 10 ^ (digitCount (a / b) : Int) := by
    have hb' : (0 : ℚ) < b := by exact_mod_cast hb
    have count : 1 ≤ digitCount (a / b) := Nat.length_toDigits_pos
    have low : 10 ^ (digitCount (a / b) - 1) ≤ a / b := pow_le_of_digitCount (Nat.div_pos le hb)
    have high : a / b < 10 ^ digitCount (a / b) := lt_pow_digitCount _
    rw [Nat.le_div_iff_mul_le hb] at low
    rw [Nat.div_lt_iff_lt_mul hb] at high
    rw [← Nat.cast_one, ← Nat.cast_sub count, zpow_natCast, zpow_natCast]
    constructor
    · rw [le_div_iff₀ hb']
      exact_mod_cast low
    · rw [div_le_iff₀ hb']
      exact_mod_cast high.le
  rw [← x.numerator_div_denominator, magnitude]
  split
  · next whole => exact ratio d whole
  · next less =>
      obtain ⟨low, high⟩ := ratio n (not_le.mp less).le
      have inverse : (x.numerator : ℚ) / x.denominator = ((x.denominator : ℚ) / x.numerator)⁻¹ :=
        (inv_div _ _).symm
      rw [inverse]
      constructor
      · rw [sub_right_comm, sub_self, zero_sub, zpow_neg]
        exact inv_anti₀ (by positivity) high
      · rw [← neg_sub, zpow_neg]
        exact inv_anti₀ (by positivity) low

/-! ## Seventeen digits -/

/-- The whole units of the given power of ten in a number. -/
def digitsAt (x : Binary64) (exponent : Int) : Nat :=
  x.numerator * power 10 (-exponent) / (x.denominator * power 10 exponent)

theorem digitsAt_spec (x : Binary64) (exponent : Int) :
    x.digitsAt exponent * 10 ^ exponent ≤ x.value ∧
      x.value < (x.digitsAt exponent + 1) * 10 ^ exponent := by
  have scaled := scaled_down (by decide : 0 < 10) exponent x.numerator x.denominator
  rw [Nat.cast_ofNat, x.numerator_div_denominator] at scaled
  have ten : (0 : ℚ) < 10 ^ exponent := by positivity
  have pos : 0 < x.denominator * power 10 exponent :=
    Nat.mul_pos x.denominator_pos (power_pos (by decide) _)
  have low := Nat.div_mul_le_self (x.numerator * power 10 (-exponent))
    (x.denominator * power 10 exponent)
  have high := Nat.lt_div_mul_add (a := x.numerator * power 10 (-exponent)) pos
  rw [← digitsAt] at low high
  have pos' : (0 : ℚ) < (x.denominator * power 10 exponent : ℕ) := by exact_mod_cast pos
  constructor
  · rw [← le_div_iff₀ ten, ← scaled, le_div_iff₀ pos']
    exact_mod_cast low
  · rw [← div_lt_iff₀ ten, ← scaled, div_lt_iff₀ pos', add_mul, one_mul]
    exact_mod_cast high

/-- Of the two decimals next to a number one stands for it, if the last digit is small enough. -/
theorem isNearestTo_or (hx : x.Canonical) {f : Nat} {exponent : Int}
    (low : f * 10 ^ exponent ≤ x.value) (high : x.value < (f + 1) * 10 ^ exponent)
    (fine : 10 ^ exponent * 10 ^ 16 ≤ x.value) :
    x.isNearestTo ⟨f, exponent⟩ = true ∨ x.isNearestTo ⟨f + 1, exponent⟩ = true := by
  have ten : (0 : ℚ) < 10 ^ exponent := by positivity
  have place : (0 : ℚ) < 2 ^ x.exponent := by positivity
  have value : x.value = x.significand * 2 ^ x.exponent := rfl
  have bits : (x.significand : ℚ) ≤ 2 ^ 53 := by exact_mod_cast hx.bits.le
  have many : 0 < f := by
    have : (0 : ℚ) < f := by nlinarith
    exact_mod_cast this
  -- a unit of the last digit is less than a place, and half of that at a power of two
  have small : (10 : ℚ) ^ exponent < 2 ^ x.exponent := by nlinarith
  have smaller : x.significand = leastFull → (10 : ℚ) ^ exponent < 2 ^ x.exponent / 2 := by
    intro power
    have power' : (x.significand : ℚ) = 2 ^ 52 := by
      rw [power, leastFull]
      norm_num
    rw [value, power'] at fine
    nlinarith
  rcases le_total (x.value - f * 10 ^ exponent) (10 ^ exponent / 2) with nearer | nearer
  · refine Or.inl (isNearestTo_of_near hx many ?_ fun power => ?_)
    · rw [Decimal.value, abs_lt]
      constructor <;> linarith
    · rw [Decimal.value]
      linarith [smaller power]
  · refine Or.inr (isNearestTo_of_near hx (Nat.succ_pos f) ?_ fun _ => ?_)
    · rw [Decimal.value, abs_lt, Nat.cast_add, Nat.cast_one]
      constructor <;> linarith
    · rw [Decimal.value, Nat.cast_add, Nat.cast_one]
      linarith

theorem decimalOf?_eq (x : Binary64) (count : Nat) :
    x.decimalOf? count =
      let exponent := x.magnitude - count
      if x.isNearestTo ⟨x.digitsAt exponent, exponent⟩ then
        if x.isNearestTo ⟨x.digitsAt exponent + 1, exponent⟩ then
          some ⟨nearestNat (x.numerator * power 10 (-exponent)) (x.denominator * power 10 exponent),
            exponent⟩
        else some ⟨x.digitsAt exponent, exponent⟩
      else if x.isNearestTo ⟨x.digitsAt exponent + 1, exponent⟩ then
        some ⟨x.digitsAt exponent + 1, exponent⟩
      else none := rfl

/-- What is found is one of the two decimals next to the number, and stands for it. -/
theorem decimalOf?_spec {count : Nat} {d : Decimal} (found : x.decimalOf? count = some d) :
    x.isNearestTo d = true ∧ d.digits ≤ x.digitsAt (x.magnitude - count) + 1 := by
  have either : nearestNat _ _ = x.digitsAt (x.magnitude - count) ∨
      nearestNat _ _ = x.digitsAt (x.magnitude - count) + 1 := nearestNat_eq_or _ _
  rw [decimalOf?_eq] at found
  dsimp only at found
  split_ifs at found with below above above
  · obtain rfl := Option.some.inj found
    rcases either with eq | eq
    · exact ⟨eq.symm ▸ below, eq.le.trans (Nat.le_succ _)⟩
    · exact ⟨eq.symm ▸ above, eq.le⟩
  · obtain rfl := Option.some.inj found
    exact ⟨below, Nat.le_succ _⟩
  · obtain rfl := Option.some.inj found
    exact ⟨above, Nat.le_refl _⟩

/-- **Seventeen digits are enough.** -/
theorem exists_decimalOf? (hx : x.Canonical) (some : x.significand ≠ 0) :
    ∃ d, x.decimalOf? 17 = Option.some d := by
  obtain ⟨least, -⟩ := magnitude_spec some
  obtain ⟨low, high⟩ := x.digitsAt_spec (x.magnitude - 17)
  have fine : (10 : ℚ) ^ (x.magnitude - 17) * 10 ^ 16 ≤ x.value := by
    have unit : x.magnitude - 17 + (16 : ℕ) = x.magnitude - 1 := by omega
    rw [← zpow_natCast, ← zpow_add₀ (by norm_num), unit]
    exact least
  rw [decimalOf?_eq, Nat.cast_ofNat]
  dsimp only
  split_ifs with below above above
  · exact ⟨_, rfl⟩
  · exact ⟨_, rfl⟩
  · exact ⟨_, rfl⟩
  · rcases isNearestTo_or hx low high fine with yes | yes
    · exact absurd yes below
    · exact absurd yes above

/-- **The shortest decimal of a number stands for it**, and has few digits. -/
theorem shortest_spec (hx : x.Canonical) (some : x.significand ≠ 0) :
    x.isNearestTo x.shortest = true ∧ x.shortest.digits ≤ 10 ^ 17 + 1 := by
  obtain ⟨d, found⟩ : ∃ d,
      ((List.range 17).map (· + 1)).findSome? x.decimalOf? = Option.some d := by
    obtain ⟨d, seventeen⟩ := exists_decimalOf? hx some
    refine Option.isSome_iff_exists.mp (List.findSome?_isSome_iff.mpr ⟨17, by decide, ?_⟩)
    rw [seventeen]
    rfl
  have eq : x.shortest = d := by
    rw [shortest, found]
    rfl
  obtain ⟨count, mem, of_count⟩ := List.exists_of_findSome?_eq_some found
  obtain ⟨nearest, bound⟩ := decimalOf?_spec of_count
  have few : count ≤ 17 := by
    obtain ⟨k, hk, rfl⟩ := List.mem_map.mp mem
    exact List.mem_range.mp hk
  refine eq ▸ ⟨nearest, bound.trans (Nat.succ_le_succ ?_)⟩
  -- in units of its last digit the number is no more than its digits allow
  obtain ⟨-, most⟩ := magnitude_spec some
  obtain ⟨low, -⟩ := x.digitsAt_spec (x.magnitude - count)
  have units : (x.digitsAt (x.magnitude - count) : ℚ) ≤ 10 ^ count := by
    have ten : (0 : ℚ) < 10 ^ (x.magnitude - count) := by positivity
    rw [← mul_le_mul_iff_of_pos_right ten, ← zpow_natCast, ← zpow_add₀ (by norm_num),
      add_sub_cancel]
    exact low.trans most
  calc x.digitsAt (x.magnitude - count) ≤ 10 ^ count := by exact_mod_cast units
    _ ≤ 10 ^ 17 := Nat.pow_le_pow_right (by decide) few

end Binary64

end MaintenanceOutbox
