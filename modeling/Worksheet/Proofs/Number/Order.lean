import Worksheet.Number.Layout
import Worksheet.Proofs.Number.Rational

/-!
# The order of doubles

Doubles are compared by their sign, their exponent and their mantissa, in this order. So the
doubles that are numbers stand in one row, and a double has its pattern as its distance from zero.
The order is total, except that the two zeros have one place.

* `place` is the place of a double in the row, and `placeOf` gives it by the parts of the double.
* `compare_eq`, `lt_iff_place_lt` and `beq_iff_place_eq` say that numbers are compared by their
  places. `compare_eq_none_of_isNaN` says that nothing else is.
* `eq_or_pattern_eq_zero_of_place_eq` says that only the zeros share a place, and
  `text_eq_of_place_eq` that numbers at one place are shown alike.
-/

namespace Worksheet.Number

open Float.Model (Format UnpackedFloat)
open Float.Model.UnpackedFloat (Sign unpack unpackSign_packComponents unpackExponent_packComponents
  unpackMantissa_packComponents)

/-! ## The parts of a double -/

/-- The parts of a double that is a number. A mantissa has all of its bits, unless the exponent is
the least one. -/
def IsNumber : UnpackedFloat → Prop
  | .infinity _ => True
  | .notANumber => False
  | .zero _ => True
  | .finite _ size power _ =>
    (power = -1074 ∨ -1074 < power ∧ 2 ^ 52 ≤ size) ∧ size < 2 ^ 53 ∧ power ≤ 971

/-- The place of a double by its parts. -/
def placeOf : UnpackedFloat → Int
  | .infinity sign => sign.apply (2047 * 2 ^ 52)
  | .notANumber => 0
  | .zero _ => 0
  | .finite sign size power _ => sign.apply ((power + 1074) * 2 ^ 52 + size)

/-- Magnitudes are compared by their exponents, and by their mantissas if those are equal. -/
theorem compare_magnitudes {size other : Nat} {power otherPower : Int}
    (h : (power = -1074 ∨ -1074 < power ∧ 2 ^ 52 ≤ size) ∧ size < 2 ^ 53)
    (hother : (otherPower = -1074 ∨ -1074 < otherPower ∧ 2 ^ 52 ≤ other) ∧ other < 2 ^ 53) :
    (compare power otherPower).then (compare size other) =
      compare ((power + 1074) * 2 ^ 52 + (size : Int)) ((otherPower + 1074) * 2 ^ 52 + other) := by
  rcases lt_trichotomy power otherPower with hless | rfl | hmore
  · have hplace :
        (power + 1074) * 2 ^ 52 + (size : Int) < (otherPower + 1074) * 2 ^ 52 + other := by
      omega
    rw [compare_lt_iff_lt.mpr hless, compare_lt_iff_lt.mpr hplace]
    rfl
  · rw [compare_eq_iff_eq.mpr rfl, Ordering.eq_then]
    rcases lt_trichotomy size other with hless | rfl | hmore
    · rw [compare_lt_iff_lt.mpr hless, compare_lt_iff_lt.mpr (by omega)]
    · rw [compare_eq_iff_eq.mpr rfl, compare_eq_iff_eq.mpr rfl]
    · rw [compare_gt_iff_gt.mpr hmore, compare_gt_iff_gt.mpr (by omega)]
  · have hplace :
        (otherPower + 1074) * 2 ^ 52 + (other : Int) < (power + 1074) * 2 ^ 52 + size := by
      omega
    rw [compare_gt_iff_gt.mpr hmore, compare_gt_iff_gt.mpr hplace]
    rfl

theorem compare_neg_neg (m n : Int) : compare (-m) (-n) = compare n m := by
  simp only [← cmp_eq_compare, cmp, cmpUsing, neg_lt_neg_iff]

section

variable {sign : Sign} {size : Nat} {power : Int} {hsize : 0 < size}

theorem placeOf_positive :
    placeOf (.finite .positive size power hsize) = (power + 1074) * 2 ^ 52 + size := rfl

theorem placeOf_negative :
    placeOf (.finite .negative size power hsize) = -((power + 1074) * 2 ^ 52 + size) := rfl

/-- A finite double lies between zero and infinity. -/
theorem distance_bounds (h : IsNumber (.finite sign size power hsize)) :
    0 < (power + 1074) * 2 ^ 52 + (size : Int) ∧
      (power + 1074) * 2 ^ 52 + (size : Int) < 2047 * 2 ^ 52 := by
  obtain ⟨hform, hsmall, hpower⟩ := h
  omega

end

variable {a b : UnpackedFloat}

theorem placeOf_bounds (h : IsNumber a) (hfinite : ∀ sign, a ≠ .infinity sign) :
    placeOf (.infinity .negative) < placeOf a ∧ placeOf a < placeOf (.infinity .positive) := by
  show -(2047 * 2 ^ 52) < placeOf a ∧ placeOf a < 2047 * 2 ^ 52
  cases a with
  | infinity sign => exact absurd rfl (hfinite sign)
  | notANumber => cases h
  | zero sign =>
    rw [placeOf]
    decide
  | finite sign size power hsize =>
    have hbounds := distance_bounds h
    cases sign with
    | negative =>
      rw [placeOf_negative]
      omega
    | positive =>
      rw [placeOf_positive]
      omega

/-- Numbers are compared by their places. -/
theorem compare_eq (ha : IsNumber a) (hb : IsNumber b) :
    UnpackedFloat.compare a b = some (compare (placeOf a) (placeOf b)) := by
  have hlt {a b : UnpackedFloat} (h : placeOf a < placeOf b) :
      some .lt = some (compare (placeOf a) (placeOf b)) := by rw [compare_lt_iff_lt.mpr h]
  have hgt {a b : UnpackedFloat} (h : placeOf b < placeOf a) :
      some .gt = some (compare (placeOf a) (placeOf b)) := by rw [compare_gt_iff_gt.mpr h]
  have hzero (sign : Sign) : placeOf (.zero sign) = 0 := rfl
  fun_cases UnpackedFloat.compare a b with
  | case1 => cases ha
  | case2 => cases hb
  | case3 s t => cases s <;> cases t <;> rfl
  | case4 _ _ hfinite => exact hgt (placeOf_bounds hb hfinite).2
  | case5 _ _ hfinite => exact hlt (placeOf_bounds hb hfinite).1
  | case6 _ _ hfinite => exact hlt (placeOf_bounds ha hfinite).2
  | case7 _ _ hfinite => exact hgt (placeOf_bounds ha hfinite).1
  | case8 =>
    refine hgt ?_
    rw [hzero, placeOf_positive]
    exact (distance_bounds ha).1
  | case9 =>
    refine hlt ?_
    rw [hzero, placeOf_negative]
    exact Int.neg_neg_of_pos (distance_bounds ha).1
  | case10 =>
    refine hlt ?_
    rw [hzero, placeOf_positive]
    exact (distance_bounds hb).1
  | case11 =>
    refine hgt ?_
    rw [hzero, placeOf_negative]
    exact Int.neg_neg_of_pos (distance_bounds hb).1
  | case12 => rfl
  | case13 =>
    rw [compare_magnitudes ⟨ha.1, ha.2.1⟩ ⟨hb.1, hb.2.1⟩, placeOf_negative, placeOf_negative,
      Int.compare_swap, compare_neg_neg]
  | case14 =>
    have hnegative := (distance_bounds ha).1
    have hpositive := (distance_bounds hb).1
    refine hlt ?_
    rw [placeOf_negative, placeOf_positive]
    omega
  | case15 =>
    have hpositive := (distance_bounds ha).1
    have hnegative := (distance_bounds hb).1
    refine hgt ?_
    rw [placeOf_negative, placeOf_positive]
    omega
  | case16 =>
    rw [compare_magnitudes ⟨ha.1, ha.2.1⟩ ⟨hb.1, hb.2.1⟩, placeOf_positive, placeOf_positive]

/-! ## Doubles -/

/-- The place of a double in the row of all doubles, counted from zero. -/
def place (x : Float) : Int :=
  placeOf (unpack .binary64 x.toBits.toBitVec)

variable {x y : Float} {sign : Sign} {exponent : BitVec 11} {mantissa : BitVec 52}

/-- The parts of a number are in the form of numbers, and it is as far from zero as its pattern
says. -/
theorem IsMadeOf.isNumber_and_place_eq (h : IsMadeOf x sign exponent mantissa)
    (hx : x.isNaN = false) :
    IsNumber (unpack .binary64 x.toBits.toBitVec) ∧ place x = sign.apply (pattern x) := by
  have hexponent := exponent.isLt
  have hmantissa := mantissa.isLt
  have hsize : patternsPerExponent = 2 ^ 52 := rfl
  have hbias : (Format.binary64.exponentBias : Int) + (52 : Nat) = 1075 := rfl
  rw [place, h, h.pattern_eq]
  simp only [unpack, unpackSign_packComponents, unpackExponent_packComponents,
    unpackMantissa_packComponents, Sign.ofBitVec_toBitVec]
  split_ifs with hlast hzero hfirst hzero
  · rw [hlast, hzero]
    exact ⟨trivial, congrArg sign.apply (by decide)⟩
  · exact absurd (h.mantissa_eq_zero hx hlast) hzero
  · rw [hfirst, hzero, BitVec.toNat_zero, BitVec.toNat_zero, Nat.zero_mul]
    refine ⟨trivial, ?_⟩
    cases sign <;> rfl
  · -- Below the first exponent.
    rw [hfirst, BitVec.toNat_zero]
    refine ⟨⟨Or.inl ?_, ?_, ?_⟩, congrArg sign.apply ?_⟩ <;> omega
  · -- The patterns of one exponent.
    have hpos : exponent.toNat ≠ 0 := fun hnone => hfirst (BitVec.eq_of_toNat_eq hnone)
    have hbelow : exponent.toNat ≠ 2047 := fun hall => hlast (BitVec.eq_of_toNat_eq hall)
    have hone := toNat_one_append mantissa
    rw [hsize] at hone ⊢
    refine ⟨⟨?_, ?_, ?_⟩, congrArg sign.apply ?_⟩ <;> omega

/-- The magnitude of a number is as far from zero as the number. -/
theorem place_abs (hx : x.isNaN = false) : place x.abs = pattern x := by
  obtain ⟨sign, exponent, mantissa, h⟩ := exists_components x
  rw [(h.abs.isNumber_and_place_eq (isNaN_abs hx)).2, pattern_abs]
  rfl

theorem isNumber_unpack (hx : x.isNaN = false) :
    IsNumber (unpack .binary64 x.toBits.toBitVec) := by
  obtain ⟨sign, exponent, mantissa, h⟩ := exists_components x
  exact (h.isNumber_and_place_eq hx).1

theorem lt_iff_compare_eq :
    x < y ↔ UnpackedFloat.compare (unpack .binary64 x.toBits.toBitVec)
      (unpack .binary64 y.toBits.toBitVec) = some .lt := by
  show decide (Float.Model.lt x.toModel y.toModel = true) = true ↔ _
  simp only [Float.Model.lt, UnpackedFloat.lt, decide_eq_true_eq, beq_iff_eq]
  rfl

theorem beq_iff_compare_eq :
    (x == y) = true ↔ UnpackedFloat.compare (unpack .binary64 x.toBits.toBitVec)
      (unpack .binary64 y.toBits.toBitVec) = some .eq := by
  show (UnpackedFloat.compare _ _ == some .eq) = true ↔ _
  rw [beq_iff_eq]
  rfl

theorem lt_iff_place_lt (hx : x.isNaN = false) (hy : y.isNaN = false) :
    x < y ↔ place x < place y := by
  rw [lt_iff_compare_eq, compare_eq (isNumber_unpack hx) (isNumber_unpack hy), Option.some.injEq,
    compare_lt_iff_lt, place, place]

theorem beq_iff_place_eq (hx : x.isNaN = false) (hy : y.isNaN = false) :
    (x == y) = true ↔ place x = place y := by
  rw [beq_iff_compare_eq, compare_eq (isNumber_unpack hx) (isNumber_unpack hy), Option.some.injEq,
    compare_eq_iff_eq, place, place]

/-- What is no number has no place, and is not compared with anything. -/
theorem compare_eq_none_of_isNaN (h : x.isNaN = true ∨ y.isNaN = true) :
    UnpackedFloat.compare (unpack .binary64 x.toBits.toBitVec)
      (unpack .binary64 y.toBits.toBitVec) = none := by
  have hparts : ∀ x : Float, x.isNaN = true →
      unpack .binary64 x.toBits.toBitVec = .notANumber := by
    intro x hx
    rw [isNaN_iff_eq.mp hx]
    rfl
  rcases h with hx | hy
  · rw [hparts x hx]
    rfl
  · rw [hparts y hy]
    cases unpack .binary64 x.toBits.toBitVec <;> rfl

theorem not_lt_of_isNaN (h : x.isNaN = true ∨ y.isNaN = true) : ¬x < y := by
  rw [lt_iff_compare_eq, compare_eq_none_of_isNaN h]
  exact nofun

theorem beq_eq_false_of_isNaN (h : x.isNaN = true ∨ y.isNaN = true) : (x == y) = false := by
  rw [Bool.eq_false_iff, ne_eq, beq_iff_compare_eq, compare_eq_none_of_isNaN h]
  exact nofun

theorem IsMadeOf.eq_of_pattern_eq {otherExponent : BitVec 11} {otherMantissa : BitVec 52}
    (hx : IsMadeOf x sign exponent mantissa) (hy : IsMadeOf y sign otherExponent otherMantissa)
    (h : pattern x = pattern y) : x = y := by
  have hmantissa := mantissa.isLt
  have hotherMantissa := otherMantissa.isLt
  rw [hx.pattern_eq, hy.pattern_eq, patternsPerExponent, Nat.pow_eq] at h
  have hexponents : exponent = otherExponent := BitVec.eq_of_toNat_eq (by omega)
  have hmantissas : mantissa = otherMantissa := BitVec.eq_of_toNat_eq (by omega)
  subst hexponents hmantissas
  exact hx.eq hy

/-- Two numbers at one place are equal, unless both are zeros. -/
theorem eq_or_pattern_eq_zero_of_place_eq (hx : x.isNaN = false) (hy : y.isNaN = false)
    (h : place x = place y) : x = y ∨ pattern x = 0 ∧ pattern y = 0 := by
  obtain ⟨sign, exponent, mantissa, hmade⟩ := exists_components x
  obtain ⟨otherSign, otherExponent, otherMantissa, hother⟩ := exists_components y
  rw [(hmade.isNumber_and_place_eq hx).2, (hother.isNumber_and_place_eq hy).2] at h
  have hpositive (n : Nat) : Sign.positive.apply n = (n : Int) := rfl
  have hnegative (n : Nat) : Sign.negative.apply n = -(n : Int) := rfl
  cases sign with
  | positive =>
    cases otherSign with
    | positive =>
      rw [hpositive, hpositive, Int.natCast_inj] at h
      exact Or.inl (hmade.eq_of_pattern_eq hother h)
    | negative =>
      rw [hpositive, hnegative] at h
      exact Or.inr (by omega)
  | negative =>
    cases otherSign with
    | positive =>
      rw [hpositive, hnegative] at h
      exact Or.inr (by omega)
    | negative =>
      rw [hnegative, hnegative, neg_inj, Int.natCast_inj] at h
      exact Or.inl (hmade.eq_of_pattern_eq hother h)

/-- Numbers at one place are shown alike. -/
theorem text_eq_of_place_eq (hx : x.isNaN = false) (hy : y.isNaN = false)
    (h : place x = place y) : text x = text y := by
  rcases eq_or_pattern_eq_zero_of_place_eq hx hy h with rfl | ⟨hxzero, hyzero⟩
  · rfl
  · simp [text, Layout.write, Layout.shown, hxzero, hyzero]

end Worksheet.Number
