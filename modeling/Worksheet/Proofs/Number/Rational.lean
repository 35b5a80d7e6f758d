import Worksheet.Proofs.Number.Rounding
import Worksheet.Proofs.Number.Pattern

/-!
# Doubles as rational numbers

A double that is a number stands for a rational number, which its sign and its pattern give. A
decimal is read as the double that is nearest to it among all of them, those with a sign included.

* `toRat` is the number that a double stands for, taken from the parts of its bits, and
  `toRat_mul_unitsPerOne` is the number of units in it.
* `pattern_ofPattern` says that every pattern up to that of infinity belongs to a double.
* `Decimal.toFloat_eq_iff` says that a decimal is read as the double nearest to it.
-/

namespace Worksheet.Number

open Float.Model (Format)
open Float.Model.UnpackedFloat (Sign packComponents unpack pack unpackSign_packComponents
  unpackExponent_packComponents unpackMantissa_packComponents)

/-! ## The number of a double -/

/-- The number that a double stands for, by the parts of its bits. Infinity stands for the power of
two that would follow the greatest double. -/
def toRat (x : Float) : ℚ :=
  match unpack .binary64 x.toBits.toBitVec with
  | .infinity sign => sign.apply (2 ^ 1024)
  | .notANumber => 0
  | .zero _ => 0
  | .finite sign size power _ => sign.apply size * 2 ^ power

variable {x : Float} {sign : Sign} {exponent : BitVec 11} {mantissa : BitVec 52} {p : Nat}

/-- A sign is put on a whole number of units. -/
theorem apply_mul_eq (sign : Sign) {size : Int} {unit : ℚ} {n : Nat} (h : size * unit = n) :
    (sign.apply size : ℚ) * unit = sign.apply n := by
  cases sign with
  | positive => exact_mod_cast h
  | negative =>
    show ((-size : Int) : ℚ) * unit = ((-n : Int) : ℚ)
    rw [Int.cast_neg, neg_mul, h, Int.cast_neg, Int.cast_natCast]

theorem two_zpow_mul_unitsPerOne {power : Int} {shift : Nat} (h : power + 1074 = shift) :
    (2 : ℚ) ^ power * unitsPerOne = 2 ^ shift := by
  obtain ⟨places, hone, hplaces⟩ := exists_unitsPerOne_eq
  have htwo : (2 : ℚ) ≠ 0 := by norm_num
  have hsum : power + (places : Int) = shift := by
    clear hone
    omega
  rw [hone, Nat.pow_eq, Nat.cast_pow, Nat.cast_ofNat, ← zpow_natCast, ← zpow_natCast,
    ← zpow_add₀ htwo, hsum]

/-- In a number the greatest exponent comes with an empty mantissa. -/
theorem IsMadeOf.mantissa_eq_zero (h : IsMadeOf x sign exponent mantissa) (hx : x.isNaN = false)
    (hlast : exponent = -1#11) : mantissa = 0#52 := by
  by_contra hpayload
  have hnan := h.eq_notANumber hlast hpayload
  rw [← isNaN_iff_eq, hx] at hnan
  cases hnan

/-- The bit that the doubles leave out in front of the mantissa is worth one exponent. -/
theorem toNat_one_append (mantissa : BitVec 52) :
    (1#1 ++ mantissa).toNat = patternsPerExponent + mantissa.toNat := by
  rw [BitVec.toNat_append, ← Nat.shiftLeft_add_eq_or_of_lt mantissa.isLt]
  rfl

/-- The number of a double is that of the units of its pattern, with the sign of the double. -/
theorem toRat_mul_unitsPerOne (h : IsMadeOf x sign exponent mantissa) (hx : x.isNaN = false) :
    toRat x * unitsPerOne = sign.apply (units (pattern x)) := by
  have hpattern := h.pattern_eq
  rw [toRat, h]
  simp only [unpack, unpackSign_packComponents, unpackExponent_packComponents,
    unpackMantissa_packComponents, Sign.ofBitVec_toBitVec]
  split_ifs with hlast hzero hfirst hzero
  · -- Infinity.
    rw [hlast, hzero] at hpattern
    have hinfinity : pattern x = infinityPattern := by
      rw [hpattern]
      rfl
    refine apply_mul_eq sign ?_
    rw [hinfinity, units_infinityPattern, Nat.cast_mul, Nat.cast_pow, Nat.cast_ofNat, Int.cast_pow,
      Int.cast_ofNat]
  · -- No number.
    exact absurd (h.mantissa_eq_zero hx hlast) hzero
  · -- Zero.
    rw [hfirst, hzero, BitVec.toNat_zero, BitVec.toNat_zero, Nat.zero_mul,
      Nat.zero_add] at hpattern
    rw [hpattern, units_of_lt patternsPerExponent_pos]
    dsimp only
    rw [zero_mul]
    cases sign <;> rfl
  · -- Below the first exponent.
    rw [hfirst, BitVec.toNat_zero, Nat.zero_mul, Nat.zero_add] at hpattern
    rw [hpattern, units_of_lt mantissa.isLt, mul_assoc]
    refine apply_mul_eq sign ?_
    rw [hfirst, @two_zpow_mul_unitsPerOne _ 0 rfl, Int.cast_natCast, pow_zero, mul_one]
  · -- The patterns of one exponent.
    have hpos : exponent.toNat ≠ 0 := fun hnone => hfirst (BitVec.eq_of_toNat_eq hnone)
    obtain ⟨shift, hshift⟩ := Nat.exists_eq_succ_of_ne_zero hpos
    rw [hpattern, hshift, units_of_exponent mantissa.isLt, mul_assoc]
    refine apply_mul_eq sign ?_
    have hpower : (shift.succ : Int) - (Format.binary64.exponentBias + (52 : Nat)) + 1074 =
        shift := by
      have hbias : Format.binary64.exponentBias = 1023 := rfl
      omega
    rw [two_zpow_mul_unitsPerOne hpower, Int.cast_natCast, toNat_one_append]
    norm_cast

/-- A pattern up to that of infinity is the pattern of a double. -/
theorem isMadeOf_ofPattern (hp : p ≤ infinityPattern) :
    IsMadeOf (ofPattern p) .positive (BitVec.ofNat 11 (p / patternsPerExponent))
      (BitVec.ofNat 52 (p % patternsPerExponent)) := by
  have hsize : patternsPerExponent = 2 ^ 52 := rfl
  have hinfinity : infinityPattern = 2047 * 2 ^ 52 := rfl
  have hbits : (UInt64.ofNat p).toBitVec = packComponents .binary64 .positive
      (BitVec.ofNat 11 (p / patternsPerExponent)) (BitVec.ofNat 52 (p % patternsPerExponent)) := by
    refine BitVec.eq_of_toNat_eq ?_
    rw [toNat_packComponents, UInt64.toNat_toBitVec, UInt64.toNat_ofNat', BitVec.toNat_ofNat,
      BitVec.toNat_ofNat]
    show _ = 0 * 2 ^ 63 + _
    rw [hsize]
    omega
  show pack .binary64 (unpack .binary64 (UInt64.ofNat p).toBitVec) = _
  rw [hbits]
  refine Float.Model.UnpackedFloat.pack_unpack_of_valid ⟨fun hlast hpayload => ?_⟩
  -- The greatest exponent comes with an empty mantissa, so the value is a number.
  rw [unpackExponent_packComponents] at hlast
  rw [unpackMantissa_packComponents] at hpayload
  have hquotient := congrArg BitVec.toNat hlast
  rw [BitVec.toNat_ofNat] at hquotient
  change p / patternsPerExponent % 2 ^ 11 = 2047 at hquotient
  refine absurd (BitVec.eq_of_toNat_eq ?_) hpayload
  rw [hsize] at hquotient
  rw [BitVec.toNat_ofNat, BitVec.toNat_zero, hsize]
  omega

theorem toNat_toBits_ofPattern (hp : p ≤ infinityPattern) : (ofPattern p).toBits.toNat = p := by
  have hsize : patternsPerExponent = 2 ^ 52 := rfl
  have hinfinity : infinityPattern = 2047 * 2 ^ 52 := rfl
  rw [(isMadeOf_ofPattern hp).toNat_toBits, BitVec.toNat_ofNat, BitVec.toNat_ofNat, hsize]
  show 0 * 2 ^ 63 + _ = p
  omega

theorem pattern_ofPattern (hp : p ≤ infinityPattern) : pattern (ofPattern p) = p := by
  have h := isMadeOf_ofPattern hp
  rw [pattern, h.abs.eq h, toNat_toBits_ofPattern hp]

/-! ## The nearest double -/

/-- Whether a double without a sign is the one nearest to a number. Of two doubles that are equally
near it is the one whose last bit is zero. -/
structure IsNearest (number : ℚ) (x : Float) : Prop where
  isNaN_eq : x.isNaN = false
  unsigned : x.toBits < 0x8000000000000000
  nearest : ∀ y : Float, y.isNaN = false → toRat y ≠ toRat x →
    |number - toRat x| < |number - toRat y| ∨
      |number - toRat x| = |number - toRat y| ∧ x.toBits % 2 = 0

theorem unitsPerOne_pos : (0 : ℚ) < unitsPerOne := by
  obtain ⟨places, hone, -⟩ := exists_unitsPerOne_eq
  rw [hone, Nat.cast_pos]
  exact Nat.two_pow_pos places

/-- The numbers are the doubles with a pattern up to that of infinity. -/
theorem isNaN_eq_false_iff : x.isNaN = false ↔ pattern x ≤ infinityPattern := by
  rw [← Nat.not_lt, infinityPattern_lt_pattern_iff, ← isNaN_iff_eq, Bool.not_eq_true]

theorem isNaN_ofPattern (hp : p ≤ infinityPattern) : (ofPattern p).isNaN = false := by
  rwa [isNaN_eq_false_iff, pattern_ofPattern hp]

theorem unsigned_ofPattern (hp : p ≤ infinityPattern) :
    (ofPattern p).toBits < 0x8000000000000000 := by
  rw [UInt64.lt_iff_toNat_lt, toNat_toBits_ofPattern hp]
  exact Nat.lt_of_le_of_lt hp (by decide)

theorem isNaN_abs (hx : x.isNaN = false) : x.abs.isNaN = false := by
  rw [isNaN_eq_false_iff, pattern_abs]
  exact isNaN_eq_false_iff.mp hx

/-- The sign of a number is turned round, and nothing else. -/
theorem IsMadeOf.neg_of_isNaN_eq (h : IsMadeOf x sign exponent mantissa) (hx : x.isNaN = false) :
    IsMadeOf (-x) (-sign) exponent mantissa := by
  refine h.neg ⟨fun hlast hpayload => ?_⟩
  rw [unpackExponent_packComponents] at hlast
  rw [unpackMantissa_packComponents] at hpayload
  exact absurd (h.mantissa_eq_zero hx hlast) hpayload

theorem isNaN_neg (hx : x.isNaN = false) : (-x).isNaN = false := by
  obtain ⟨sign, exponent, mantissa, h⟩ := exists_components x
  rw [isNaN_eq_false_iff, (h.neg_of_isNaN_eq hx).pattern_eq, ← h.pattern_eq]
  exact isNaN_eq_false_iff.mp hx

theorem ofPattern_pattern_of_unsigned (hunsigned : x.toBits < 0x8000000000000000) :
    ofPattern (pattern x) = x := by
  have hsigned := signed_abs x
  rw [if_neg (UInt64.not_le.mpr hunsigned)] at hsigned
  rw [ofPattern_pattern, hsigned]

theorem toRat_ofPattern_mul_unitsPerOne (hp : p ≤ infinityPattern) :
    toRat (ofPattern p) * unitsPerOne = units p := by
  rw [toRat_mul_unitsPerOne (isMadeOf_ofPattern hp) (isNaN_ofPattern hp), pattern_ofPattern hp]
  exact Int.cast_natCast _

/-- Distances are compared in units. -/
theorem abs_sub_toRat_lt_iff {number : ℚ} {y : Float} :
    |number - toRat x| < |number - toRat y| ↔
      |number * unitsPerOne - toRat x * unitsPerOne| <
        |number * unitsPerOne - toRat y * unitsPerOne| := by
  rw [← sub_mul, ← sub_mul, abs_mul, abs_mul, abs_of_pos unitsPerOne_pos,
    mul_lt_mul_iff_left₀ unitsPerOne_pos]

theorem abs_sub_toRat_eq_iff {number : ℚ} {y : Float} :
    |number - toRat x| = |number - toRat y| ↔
      |number * unitsPerOne - toRat x * unitsPerOne| =
        |number * unitsPerOne - toRat y * unitsPerOne| := by
  rw [← sub_mul, ← sub_mul, abs_mul, abs_mul, abs_of_pos unitsPerOne_pos,
    mul_left_inj' unitsPerOne_pos.ne']

/-- A number that is not negative is no nearer to the negative of a size. -/
theorem abs_sub_le_abs_sub_neg {size unit : ℚ} (hsize : 0 ≤ size) (hunit : 0 ≤ unit) :
    |size - unit| ≤ |size - -unit| := by
  rw [sub_neg_eq_add, abs_of_nonneg (add_nonneg hsize hunit), abs_le]
  constructor <;> linarith

/-- The nearest pattern is also nearer than all sizes with a sign. -/
theorem IsNearestPattern.better {size : ℚ} (h : IsNearestPattern size p) (hsize : 0 ≤ size)
    (sign : Sign) {q : Nat} (hq : q ≤ infinityPattern)
    (hne : (sign.apply (units q) : ℚ) ≠ units p) :
    |size - units p| < |size - sign.apply (units q)| ∨
      |size - units p| = |size - sign.apply (units q)| ∧ p % 2 = 0 := by
  cases sign with
  | positive =>
    refine h.2 q hq ?_
    rintro rfl
    exact hne (Int.cast_natCast _)
  | negative =>
    have hnegative : ((Sign.negative.apply (units q) : Int) : ℚ) = -units q := by
      show ((-(units q : Int) : Int) : ℚ) = -units q
      rw [Int.cast_neg, Int.cast_natCast]
    rw [hnegative] at hne ⊢
    have hfarther := abs_sub_le_abs_sub_neg hsize (Nat.cast_nonneg (units q))
    by_cases hqp : q = p
    · -- The pattern itself with a sign: it is farther, since the number is not zero.
      subst hqp
      have hunits : (0 : ℚ) < units q := by
        refine lt_of_le_of_ne (Nat.cast_nonneg _) fun hzero => hne ?_
        rw [← hzero, neg_zero]
      have hpos : 0 < size := by
        refine lt_of_le_of_ne hsize fun hzero => hunits.ne ?_
        subst hzero
        rw [h.unique (isNearestPattern_zero (le_refl 0) (by norm_num))]
        rfl
      refine Or.inl ?_
      rw [sub_neg_eq_add, abs_of_pos (add_pos hpos hunits), abs_lt]
      constructor <;> linarith
    · rcases h.2 q hq hqp with hless | ⟨hequal, heven⟩
      · exact Or.inl (hless.trans_le hfarther)
      · rcases hfarther.lt_or_eq with hless | hsame
        · exact Or.inl (hequal ▸ hless)
        · exact Or.inr ⟨hequal.trans hsame, heven⟩

theorem IsNearestPattern.isNearest {number : ℚ} (hnumber : 0 ≤ number)
    (h : IsNearestPattern (number * unitsPerOne) p) : IsNearest number (ofPattern p) := by
  refine ⟨isNaN_ofPattern h.1, unsigned_ofPattern h.1, fun y hy hne => ?_⟩
  obtain ⟨sign, exponent, mantissa, hmade⟩ := exists_components y
  have heven : (ofPattern p).toBits % 2 = 0 ↔ p % 2 = 0 := by
    rw [← UInt64.toNat_inj, UInt64.toNat_mod, toNat_toBits_ofPattern h.1]
    rfl
  rw [abs_sub_toRat_lt_iff, abs_sub_toRat_eq_iff, heven, toRat_mul_unitsPerOne hmade hy,
    toRat_ofPattern_mul_unitsPerOne h.1]
  refine h.better (mul_nonneg hnumber unitsPerOne_pos.le) sign (isNaN_eq_false_iff.mp hy) ?_
  rw [← toRat_mul_unitsPerOne hmade hy, ← toRat_ofPattern_mul_unitsPerOne h.1]
  exact fun hequal => hne (mul_right_cancel₀ unitsPerOne_pos.ne' hequal)

namespace IsNearest

variable {number : ℚ} {y : Float}

theorem isNearestPattern (h : IsNearest number x) :
    IsNearestPattern (number * unitsPerOne) (pattern x) := by
  have hbound := isNaN_eq_false_iff.mp h.isNaN_eq
  have hx := ofPattern_pattern_of_unsigned h.unsigned
  refine ⟨hbound, fun other hother hne => ?_⟩
  have hnumbers : toRat (ofPattern other) ≠ toRat x := by
    intro hequal
    have hunits : toRat (ofPattern other) * unitsPerOne = toRat x * unitsPerOne := by rw [hequal]
    rw [← hx, toRat_ofPattern_mul_unitsPerOne hother, toRat_ofPattern_mul_unitsPerOne hbound,
      Nat.cast_inj] at hunits
    exact hne (units_strictMono.injective hunits)
  have hbetter := h.nearest _ (isNaN_ofPattern hother) hnumbers
  have heven : x.toBits % 2 = 0 ↔ pattern x % 2 = 0 := by
    rw [← UInt64.toNat_inj, UInt64.toNat_mod, ← toNat_toBits_ofPattern hbound, hx]
    rfl
  have hsize : toRat x * unitsPerOne = units (pattern x) := by
    rw [← toRat_ofPattern_mul_unitsPerOne hbound, hx]
  rwa [abs_sub_toRat_lt_iff, abs_sub_toRat_eq_iff, heven, hsize,
    toRat_ofPattern_mul_unitsPerOne hother] at hbetter

theorem unique (hx : IsNearest number x) (hy : IsNearest number y) : x = y := by
  rw [← ofPattern_pattern_of_unsigned hx.unsigned, ← ofPattern_pattern_of_unsigned hy.unsigned,
    hx.isNearestPattern.unique hy.isNearestPattern]

end IsNearest

theorem Decimal.toRat_nonneg (decimal : Decimal) : 0 ≤ decimal.toRat :=
  mul_nonneg (Nat.cast_nonneg _) (zpow_nonneg (by norm_num) _)

/-- A decimal is read as the double nearest to it. -/
theorem Decimal.isNearest_toFloat (decimal : Decimal) : IsNearest decimal.toRat decimal.toFloat :=
  decimal.isNearestPattern_nearest.isNearest decimal.toRat_nonneg

theorem Decimal.toFloat_eq_iff {decimal : Decimal} :
    decimal.toFloat = x ↔ IsNearest decimal.toRat x := by
  constructor
  · rintro rfl
    exact decimal.isNearest_toFloat
  · exact decimal.isNearest_toFloat.unique

end Worksheet.Number
