import Worksheet.Proofs.Number.Nearest

/-!
# Rounding to the nearest pattern

A decimal is rounded to the pattern whose size is nearest to it. Both are compared as rational
numbers of units. Infinity takes part with the size of the power of two that would follow the
greatest finite double, so that only decimals from halfway up to it are rounded to infinity.

* `units_patternBelow_le` and `lt_units_patternBelow_succ` put a size between two neighbouring
  patterns.
* `isNearestPattern_nearestPattern` says that the better of the two neighbours is taken, and
  `IsNearestPattern.unique` that there is only one nearest pattern.
* `Decimal.isNearestPattern_nearest` says that every decimal is rounded to the nearest pattern.
-/

namespace Worksheet.Number

/-! ## The patterns around a size -/

/-- The patterns of one exponent, with the first one of the next, are evenly spaced. -/
theorem units_shift {shift q : Nat} (hlow : patternsPerExponent ≤ q)
    (hhigh : q ≤ 2 * patternsPerExponent) :
    units (shift * patternsPerExponent + q) = q * 2 ^ shift := by
  by_cases hq : q < 2 * patternsPerExponent
  · have hsplit : shift * patternsPerExponent + q =
        (shift + 1) * patternsPerExponent + (q - patternsPerExponent) := by
      rw [Nat.succ_mul]
      omega
    rw [hsplit, units_of_exponent (by omega), Nat.add_sub_cancel' hlow]
  · have hsplit : shift * patternsPerExponent + q = (shift + 1 + 1) * patternsPerExponent + 0 := by
      rw [Nat.succ_mul, Nat.succ_mul]
      omega
    have hq' : q = patternsPerExponent * 2 := by omega
    rw [hsplit, units_of_exponent patternsPerExponent_pos, Nat.add_zero, Nat.pow_succ', hq',
      Nat.mul_assoc]

/-- A size is shifted until it has as many binary digits as the patterns of one exponent. -/
theorem exists_patternBelow_eq {size : Nat} (h : patternsPerExponent ≤ size) :
    ∃ shift, patternBelow size = shift * patternsPerExponent + size / 2 ^ shift ∧
      patternsPerExponent ≤ size / 2 ^ shift ∧ size / 2 ^ shift < 2 * patternsPerExponent := by
  have hsize : patternsPerExponent = 2 ^ 52 := rfl
  have hpos : size ≠ 0 := by
    have hpatterns := patternsPerExponent_pos
    omega
  have hlog : 52 ≤ size.log2 := (Nat.le_log2 hpos).mpr h
  refine ⟨size.log2 - 52, rfl, ?_, ?_⟩
  · rw [Nat.le_div_iff_mul_le (Nat.two_pow_pos _), hsize, ← Nat.pow_add, Nat.add_sub_cancel' hlog]
    exact Nat.log2_self_le hpos
  · rw [Nat.div_lt_iff_lt_mul (Nat.two_pow_pos _), hsize, ← Nat.pow_succ', ← Nat.pow_add]
    have hexponent : 52 + 1 + (size.log2 - 52) = size.log2 + 1 := by omega
    rw [hexponent]
    exact Nat.lt_log2_self

theorem patternBelow_of_lt {size : Nat} (h : size < patternsPerExponent) :
    patternBelow size = size := by
  have hlog : size.log2 ≤ 51 := log2_le_of_lt h
  have hshift : size.log2 - 52 = 0 := by omega
  simp only [patternBelow, hshift, Nat.zero_mul, Nat.zero_add]
  exact Nat.div_one size

theorem units_patternBelow_le (size : Nat) : units (patternBelow size) ≤ size := by
  by_cases hsmall : size < patternsPerExponent
  · rw [patternBelow_of_lt hsmall, units_of_lt hsmall]
  · obtain ⟨shift, hpattern, hlow, hhigh⟩ := exists_patternBelow_eq (Nat.not_lt.mp hsmall)
    rw [hpattern, units_shift hlow hhigh.le]
    exact Nat.div_mul_le_self _ _

theorem lt_units_patternBelow_succ (size : Nat) : size < units (patternBelow size + 1) := by
  by_cases hsmall : size < patternsPerExponent
  · have hnext := units_lt_units_succ size
    rw [units_of_lt hsmall] at hnext
    rwa [patternBelow_of_lt hsmall]
  · obtain ⟨shift, hpattern, hlow, hhigh⟩ := exists_patternBelow_eq (Nat.not_lt.mp hsmall)
    rw [hpattern, Nat.add_assoc, units_shift (by omega) (by omega)]
    exact (Nat.div_lt_iff_lt_mul (Nat.two_pow_pos _)).mp (Nat.lt_succ_self _)

/-! ## The nearest pattern -/

/-- Whether a pattern has the size nearest to a number of units. Of two patterns that are equally
near it is the one whose last bit is zero. -/
def IsNearestPattern (size : ℚ) (p : Nat) : Prop :=
  p ≤ infinityPattern ∧ ∀ other ≤ infinityPattern, other ≠ p →
    |size - units p| < |size - units other| ∨
      |size - units p| = |size - units other| ∧ p % 2 = 0

section

variable {size : ℚ} {p low : Nat}

theorem units_lt_units_iff {p other : Nat} : (units p : ℚ) < units other ↔ p < other := by
  rw [Nat.cast_lt, units_strictMono.lt_iff_lt]

theorem abs_sub_units_of_le (h : units p ≤ size) : |size - units p| = size - units p :=
  abs_of_nonneg (sub_nonneg.mpr h)

theorem abs_sub_units_of_lt (h : size < units p) : |size - units p| = units p - size := by
  rw [abs_sub_comm]
  exact abs_of_pos (sub_pos.mpr h)

/-- Of the patterns below a size, the greatest is the nearest. -/
theorem abs_sub_units_lt_of_lt_low {other : Nat} (hlow : units low ≤ size) (hother : other < low) :
    |size - units low| < |size - units other| := by
  have hless := units_lt_units_iff.mpr hother
  rw [abs_sub_units_of_le hlow, abs_sub_units_of_le (by linarith)]
  linarith

/-- Of the patterns above a size, the least is the nearest. -/
theorem abs_sub_units_lt_of_high_lt {high other : Nat} (hhigh : size < units high)
    (hother : high < other) : |size - units high| < |size - units other| := by
  have hmore := units_lt_units_iff.mpr hother
  rw [abs_sub_units_of_lt hhigh, abs_sub_units_of_lt (by linarith)]
  linarith

/-- What is better, or as good with an even last bit, is not worse. -/
theorem le_of_better {distance other : ℚ} {isEven : Prop}
    (h : distance < other ∨ distance = other ∧ isEven) : distance ≤ other :=
  h.elim le_of_lt fun hequal => hequal.1.le

/-- The lower neighbour of a size is nearest if the upper one is not better. -/
theorem isNearestPattern_low (hlow : units low ≤ size) (hhigh : size < units (low + 1))
    (hbound : low ≤ infinityPattern)
    (hbetter : |size - units low| < |size - units (low + 1)| ∨
      |size - units low| = |size - units (low + 1)| ∧ low % 2 = 0) :
    IsNearestPattern size low := by
  refine ⟨hbound, fun other _ hother => ?_⟩
  rcases Nat.lt_or_gt_of_ne hother with hbelow | habove
  · exact Or.inl (abs_sub_units_lt_of_lt_low hlow hbelow)
  · rcases Nat.eq_or_lt_of_le habove with rfl | habove
    · exact hbetter
    · have hfar := abs_sub_units_lt_of_high_lt hhigh habove
      exact Or.inl ((le_of_better hbetter).trans_lt hfar)

/-- The upper neighbour of a size is nearest if the lower one is not better. -/
theorem isNearestPattern_high (hlow : units low ≤ size) (hhigh : size < units (low + 1))
    (hbound : low + 1 ≤ infinityPattern)
    (hbetter : |size - units (low + 1)| < |size - units low| ∨
      |size - units (low + 1)| = |size - units low| ∧ (low + 1) % 2 = 0) :
    IsNearestPattern size (low + 1) := by
  refine ⟨hbound, fun other _ hother => ?_⟩
  rcases Nat.lt_or_gt_of_ne hother with hbelow | habove
  · rcases Nat.eq_or_lt_of_le (Nat.le_of_lt_succ hbelow) with rfl | hbelow
    · exact hbetter
    · have hfar := abs_sub_units_lt_of_lt_low hlow hbelow
      exact Or.inl ((le_of_better hbetter).trans_lt hfar)
  · exact Or.inl (abs_sub_units_lt_of_high_lt hhigh habove)

/-- A size past that of infinity is nearest to infinity. -/
theorem isNearestPattern_infinity (h : units infinityPattern ≤ size) :
    IsNearestPattern size infinityPattern :=
  ⟨Nat.le_refl _, fun _ hbound hother =>
    Or.inl (abs_sub_units_lt_of_lt_low h (Nat.lt_of_le_of_ne hbound hother))⟩

/-- Two patterns cannot both be nearest: if they are equally near, then one between them is nearer,
since the last bit of both is zero. -/
theorem IsNearestPattern.unique {q : Nat} (hp : IsNearestPattern size p)
    (hq : IsNearestPattern size q) : p = q := by
  by_contra hne
  wlog hlt : p < q generalizing p q
  · exact this hq hp (Ne.symm hne) (by omega)
  have hfirst := hp.2 q hq.1 (Ne.symm hne)
  have hsecond := hq.2 p hp.1 hne
  have hequal : |size - units p| = |size - units q| :=
    le_antisymm (le_of_better hfirst) (le_of_better hsecond)
  have hpeven : p % 2 = 0 := (hfirst.resolve_left (by rw [hequal]; exact lt_irrefl _)).2
  have hqeven : q % 2 = 0 := (hsecond.resolve_left (by rw [hequal]; exact lt_irrefl _)).2
  have hbetween : p + 1 < q := by omega
  have hbelow := units_lt_units_iff.mpr (Nat.lt_succ_self p)
  have habove := units_lt_units_iff.mpr hbetween
  have hmiddle : size - units p = units q - size := by
    rcases abs_eq_abs.mp hequal with hsame | hopposite
    · have hunits : (units p : ℚ) = units q := by linarith
      exact absurd (units_strictMono.injective (by exact_mod_cast hunits)) hne
    · linarith
  have hnearer : |size - units (p + 1)| < |size - units p| := by
    rw [abs_sub_units_of_le (show (units p : ℚ) ≤ size by linarith), abs_lt]
    constructor <;> linarith
  have hbound : p + 1 ≤ infinityPattern := hbetween.le.trans hq.1
  exact absurd hnearer (not_lt.mpr (le_of_better (hp.2 (p + 1) hbound (by omega))))

end

/-- Twice a fraction is compared with a whole number without dividing. -/
theorem two_mul_lt_mul_iff {numerator total denominator : Nat} (hpos : 0 < denominator) :
    2 * numerator < total * denominator ↔ 2 * (numerator / denominator : ℚ) < total := by
  rw [mul_div_assoc', div_lt_iff₀ (Nat.cast_pos.mpr hpos)]
  norm_cast

theorem mul_lt_two_mul_iff {numerator total denominator : Nat} (hpos : 0 < denominator) :
    total * denominator < 2 * numerator ↔ (total : ℚ) < 2 * (numerator / denominator) := by
  rw [mul_div_assoc', lt_div_iff₀ (Nat.cast_pos.mpr hpos)]
  norm_cast

/-- Rounding a fraction takes the better of the two neighbouring patterns. -/
theorem isNearestPattern_nearestPattern (numerator : Nat) {denominator : Nat}
    (hpos : 0 < denominator) :
    IsNearestPattern (numerator / denominator) (nearestPattern numerator denominator) := by
  have hlow : (units (patternBelow (numerator / denominator)) : ℚ) ≤ numerator / denominator := by
    rw [le_div_iff₀ (Nat.cast_pos.mpr hpos)]
    exact_mod_cast (Nat.mul_le_mul_right _ (units_patternBelow_le _)).trans
      (Nat.div_mul_le_self _ _)
  have hhigh : (numerator / denominator : ℚ) <
      units (patternBelow (numerator / denominator) + 1) := by
    rw [div_lt_iff₀ (Nat.cast_pos.mpr hpos)]
    exact_mod_cast (Nat.div_lt_iff_lt_mul hpos).mp (lt_units_patternBelow_succ _)
  unfold nearestPattern
  dsimp only
  generalize patternBelow (numerator / denominator) = low at hlow hhigh
  by_cases hbound : infinityPattern ≤ low
  · rw [if_pos hbound]
    refine isNearestPattern_infinity (le_trans ?_ hlow)
    exact_mod_cast units_strictMono.monotone hbound
  have hbelow := abs_sub_units_of_le hlow
  have habove := abs_sub_units_of_lt hhigh
  simp only [if_neg hbound, two_mul_lt_mul_iff hpos, mul_lt_two_mul_iff hpos, Nat.cast_add]
  split
  · next hless =>
    exact isNearestPattern_low hlow hhigh (by omega) (Or.inl (by linarith))
  · split
    · next hmore =>
      exact isNearestPattern_high hlow hhigh (by omega) (Or.inl (by linarith))
    · have hequal : |(numerator / denominator : ℚ) - units low| =
          |(numerator / denominator : ℚ) - units (low + 1)| := by linarith
      split
      · next heven =>
        exact isNearestPattern_low hlow hhigh (by omega) (Or.inr ⟨hequal, heven⟩)
      · next hodd =>
        exact isNearestPattern_high hlow hhigh (by omega) (Or.inr ⟨hequal.symm, by omega⟩)

/-! ## Decimals -/

/-- The number that a decimal is. -/
def Decimal.toRat (decimal : Decimal) : ℚ :=
  decimal.digits * (10 : ℚ) ^ decimal.exponent

/-- A size less than half a unit is nearest to zero. -/
theorem isNearestPattern_zero {size : ℚ} (hlow : 0 ≤ size) (hhigh : 2 * size < 1) :
    IsNearestPattern size 0 := by
  have hzero : units 0 = 0 := rfl
  have hone : units 1 = 1 := rfl
  have hnext : size < units (0 + 1) := by
    rw [Nat.zero_add, hone, Nat.cast_one]
    linarith
  refine isNearestPattern_low (by rw [hzero]; exact_mod_cast hlow) hnext (Nat.zero_le _)
    (Or.inl ?_)
  rw [abs_sub_units_of_lt hnext, abs_sub_units_of_le (by rw [hzero]; exact_mod_cast hlow), hzero,
    Nat.zero_add, hone, Nat.cast_one, Nat.cast_zero]
  linarith

theorem exists_unitsPerOne_eq : ∃ places, unitsPerOne = Nat.pow 2 places ∧ places = 1074 := by
  refine ⟨1074, ?_, rfl⟩
  unfold unitsPerOne
  rfl

/-- A decimal closer to zero than half of the least double: its digits have too few binary places
for the power of ten below them. -/
theorem two_mul_mul_unitsPerOne_lt {digits k : Nat} (h : digits.log2 + 1100 < 3 * k) :
    2 * (digits * unitsPerOne) < 10 ^ k := by
  obtain ⟨places, hone, hplaces⟩ := exists_unitsPerOne_eq
  calc 2 * (digits * unitsPerOne)
      < 2 * (2 ^ (digits.log2 + 1) * 2 ^ places) := by
        rw [hone]
        exact Nat.mul_lt_mul_of_pos_left
          (Nat.mul_lt_mul_of_pos_right Nat.lt_log2_self (Nat.two_pow_pos places)) (by decide)
    _ = 2 ^ (digits.log2 + 1 + places + 1) := by rw [← Nat.pow_add, ← Nat.pow_succ']
    _ ≤ 2 ^ (3 * k) := Nat.pow_le_pow_right (by decide) (by omega)
    _ = (2 ^ 3) ^ k := Nat.pow_mul 2 3 k
    _ ≤ 10 ^ k := Nat.pow_le_pow_left (by decide) k

/-- Infinity stands for `2 ^ 1024`, which has fewer than 311 decimal places. -/
theorem units_infinityPattern : units infinityPattern = 2 ^ 1024 * unitsPerOne := by
  decide +kernel

theorem units_infinityPattern_le {e : Nat} (h : 310 < e) :
    units infinityPattern ≤ 10 ^ e * unitsPerOne := by
  rw [units_infinityPattern]
  refine Nat.mul_le_mul_right _ ?_
  calc 2 ^ 1024 ≤ 10 ^ 311 := by decide +kernel
    _ ≤ 10 ^ e := Nat.pow_le_pow_right (by decide) h

theorem mul_pow_ten_mul (digits e unit : Nat) :
    (digits : ℚ) * 10 ^ Int.ofNat e * unit = ((digits * Nat.pow 10 e * unit : Nat) : ℚ) := by
  simp

theorem mul_inv_pow_ten_mul (digits e unit : Nat) :
    (digits : ℚ) * 10 ^ Int.negSucc e * unit =
      ((digits * unit : Nat) : ℚ) / (Nat.pow 10 (e + 1) : Nat) := by
  rw [zpow_negSucc, Nat.cast_mul, Nat.pow_eq, Nat.cast_pow, Nat.cast_ofNat, div_eq_mul_inv,
    mul_right_comm]

/-- Every decimal is rounded to the pattern nearest to it, also where the exponent alone
decides. -/
theorem Decimal.isNearestPattern_nearest (decimal : Decimal) :
    IsNearestPattern (decimal.toRat * unitsPerOne) decimal.nearest := by
  obtain ⟨digits, exponent⟩ := decimal
  unfold Decimal.nearest Decimal.toRat
  dsimp only
  by_cases hzero : digits = 0
  · rw [if_pos hzero, hzero, Nat.cast_zero, zero_mul, zero_mul]
    exact isNearestPattern_zero (le_refl 0) (by norm_num)
  rw [if_neg hzero]
  cases exponent with
  | ofNat e =>
    dsimp only
    rw [mul_pow_ten_mul]
    split
    · next hlarge =>
      refine isNearestPattern_infinity ?_
      rw [Nat.cast_le, Nat.mul_assoc]
      exact (units_infinityPattern_le hlarge).trans
        (Nat.le_mul_of_pos_left _ (Nat.pos_of_ne_zero hzero))
    · have hnearest := isNearestPattern_nearestPattern (digits * Nat.pow 10 e * unitsPerOne)
        Nat.one_pos
      rwa [Nat.cast_one, div_one] at hnearest
  | negSucc e =>
    have hpos : 0 < Nat.pow 10 (e + 1) := Nat.pow_pos (by decide)
    dsimp only
    rw [mul_inv_pow_ten_mul]
    split
    · next hsmall =>
      have hless : 2 * (digits * unitsPerOne) < 1 * Nat.pow 10 (e + 1) := by
        rw [Nat.one_mul]
        exact two_mul_mul_unitsPerOne_lt hsmall
      rw [two_mul_lt_mul_iff hpos, Nat.cast_one] at hless
      exact isNearestPattern_zero (div_nonneg (Nat.cast_nonneg _) (Nat.cast_nonneg _)) hless
    · exact isNearestPattern_nearestPattern _ hpos

end Worksheet.Number
