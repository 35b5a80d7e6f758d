import Mathlib
import Worksheet.Number.Nearest

/-!
# Sign and pattern of a double

A double is a sign and a pattern. The pattern gives the magnitude back, and the sign then gives the
double. All values that are no number are one double, whose sign is positive and whose pattern lies
above that of infinity.

* `exists_components` takes the bits of a double apart, and `IsMadeOf.abs` and `IsMadeOf.neg` put
  them together again.
* `ofPattern_pattern` and `signed_abs` give back the magnitude and the double.
* `infinityPattern_lt_pattern_iff` and `pattern_eq_zero_iff` are the values at the two ends.
-/

namespace Worksheet.Number

open Float.Model (Format UnpackedFloat)
open Float.Model.UnpackedFloat (Sign packComponents unpack pack packedNaN unpackSign_packComponents
  unpackExponent_packComponents unpackMantissa_packComponents unpackExponent unpackMantissa)

variable {x : Float} {sign : Sign} {exponent : BitVec 11} {mantissa : BitVec 52}

/-- The bits of a double in their parts. -/
def IsMadeOf (x : Float) (sign : Sign) (exponent : BitVec 11) (mantissa : BitVec 52) : Prop :=
  x.toBits.toBitVec = packComponents .binary64 sign exponent mantissa

theorem exists_components (x : Float) :
    ∃ sign exponent mantissa, IsMadeOf x sign exponent mantissa :=
  ⟨_, _, _, (@Float.Model.UnpackedFloat.packComponents_unpackSign_unpackExponent_unpackMantissa
    .binary64 x.toBits.toBitVec).symm⟩

theorem toNat_packComponents (sign : Sign) (exponent : BitVec 11) (mantissa : BitVec 52) :
    (packComponents .binary64 sign exponent mantissa).toNat =
      sign.toBitVec.toNat * 2 ^ 63 + (exponent.toNat * 2 ^ 52 + mantissa.toNat) := by
  have hexponent := exponent.isLt
  have hmantissa := mantissa.isLt
  rw [packComponents, BitVec.toNat_append, BitVec.toNat_append,
    ← Nat.shiftLeft_add_eq_or_of_lt hexponent, ← Nat.shiftLeft_add_eq_or_of_lt hmantissa,
    Nat.shiftLeft_eq, Nat.shiftLeft_eq]
  omega

/-- What an operation makes of the signs of all values, it makes of the sign bit. -/
theorem map_unpack {f : UnpackedFloat → UnpackedFloat} {g : Sign → Sign}
    (hnan : f .notANumber = .notANumber)
    (hinfinity : ∀ sign, f (.infinity sign) = .infinity (g sign))
    (hzero : ∀ sign, f (.zero sign) = .zero (g sign))
    (hfinite : ∀ sign size power hsize,
      f (.finite sign size power hsize) = .finite (g sign) size power hsize)
    (sign : Sign) (exponent : BitVec 11) (mantissa : BitVec 52) :
    f (unpack .binary64 (packComponents .binary64 sign exponent mantissa)) =
      unpack .binary64 (packComponents .binary64 (g sign) exponent mantissa) := by
  simp only [unpack, unpackSign_packComponents, unpackExponent_packComponents,
    unpackMantissa_packComponents, Sign.ofBitVec_toBitVec]
  split
  · split
    · exact hinfinity sign
    · exact hnan
  · split
    · split
      · exact hzero sign
      · exact hfinite _ _ _ _
    · exact hfinite _ _ _ _

theorem abs_unpack (sign : Sign) (exponent : BitVec 11) (mantissa : BitVec 52) :
    (unpack .binary64 (packComponents .binary64 sign exponent mantissa)).abs =
      unpack .binary64 (packComponents .binary64 .positive exponent mantissa) :=
  @map_unpack _ (fun _ => .positive) rfl (fun _ => rfl) (fun _ => rfl) (fun _ _ _ _ => rfl)
    sign exponent mantissa

theorem neg_unpack (sign : Sign) (exponent : BitVec 11) (mantissa : BitVec 52) :
    (unpack .binary64 (packComponents .binary64 sign exponent mantissa)).neg =
      unpack .binary64 (packComponents .binary64 (-sign) exponent mantissa) :=
  @map_unpack _ (fun sign => -sign) rfl (fun _ => rfl) (fun _ => rfl) (fun _ _ _ _ => rfl)
    sign exponent mantissa

namespace IsMadeOf

theorem eq {y : Float} (hx : IsMadeOf x sign exponent mantissa)
    (hy : IsMadeOf y sign exponent mantissa) : x = y :=
  Float.toBits_inj.mp (UInt64.toBitVec_inj.mp (hx.trans hy.symm))

theorem valid (h : IsMadeOf x sign exponent mantissa) :
    Format.binary64.Valid (packComponents .binary64 sign exponent mantissa) := by
  rw [← h]
  exact x.toModel.valid

/-- The only bits that are no number have a positive sign, so a sign can always be dropped. -/
theorem valid_positive (h : IsMadeOf x sign exponent mantissa) :
    Format.binary64.Valid (packComponents .binary64 .positive exponent mantissa) := by
  refine ⟨fun hexponent hmantissa => ?_⟩
  rw [unpackExponent_packComponents] at hexponent
  rw [unpackMantissa_packComponents] at hmantissa
  have hbits : packComponents .binary64 sign exponent mantissa = packedNaN .binary64 := by
    refine h.valid.eq_packedNaN ?_ ?_
    · rw [unpackExponent_packComponents, hexponent]
    · rw [unpackMantissa_packComponents]
      exact hmantissa
  have hlast := congrArg unpackMantissa hbits
  rw [packedNaN, unpackMantissa_packComponents, unpackMantissa_packComponents] at hlast
  rw [hexponent, hlast]
  rfl

theorem abs (h : IsMadeOf x sign exponent mantissa) :
    IsMadeOf x.abs .positive exponent mantissa := by
  show pack .binary64 (unpack .binary64 x.toBits.toBitVec).abs = _
  rw [h, abs_unpack]
  exact Float.Model.UnpackedFloat.pack_unpack_of_valid h.valid_positive

theorem neg (h : IsMadeOf x sign exponent mantissa)
    (hvalid : Format.binary64.Valid (packComponents .binary64 (-sign) exponent mantissa)) :
    IsMadeOf (-x) (-sign) exponent mantissa := by
  show pack .binary64 (unpack .binary64 x.toBits.toBitVec).neg = _
  rw [h, neg_unpack]
  exact Float.Model.UnpackedFloat.pack_unpack_of_valid hvalid

theorem toNat_toBits (h : IsMadeOf x sign exponent mantissa) :
    x.toBits.toNat = sign.toBitVec.toNat * 2 ^ 63 +
      (exponent.toNat * 2 ^ 52 + mantissa.toNat) := by
  rw [← UInt64.toNat_toBitVec, h, toNat_packComponents]

theorem pattern_eq (h : IsMadeOf x sign exponent mantissa) :
    pattern x = exponent.toNat * patternsPerExponent + mantissa.toNat := by
  rw [pattern, h.abs.toNat_toBits]
  simp [Sign.toBitVec, patternsPerExponent]

/-- The greatest exponent with a mantissa other than zero stands for no number. -/
theorem eq_notANumber (h : IsMadeOf x sign exponent mantissa) (hlast : exponent = -1#11)
    (hpayload : mantissa ≠ 0#52) : x = notANumber := by
  have hbits := h.valid.eq_packedNaN (by rw [unpackExponent_packComponents, hlast])
    (by rwa [unpackMantissa_packComponents])
  exact Float.toBits_inj.mp (UInt64.toBitVec_inj.mp (h.trans hbits))

end IsMadeOf

theorem pattern_abs (x : Float) : pattern x.abs = pattern x := by
  obtain ⟨sign, exponent, mantissa, h⟩ := exists_components x
  rw [h.abs.pattern_eq, h.pattern_eq]

theorem ofPattern_pattern (x : Float) : ofPattern (pattern x) = x.abs := by
  rw [ofPattern, pattern, UInt64.ofNat_toNat, Float.ofBits_toBits]

/-- The magnitude with the sign is the double. -/
theorem signed_abs (x : Float) :
    (if x.toBits ≥ 0x8000000000000000 then -x.abs else x.abs) = x := by
  obtain ⟨sign, exponent, mantissa, h⟩ := exists_components x
  have hexponent := exponent.isLt
  have hmantissa := mantissa.isLt
  have hbits := h.toNat_toBits
  cases sign with
  | positive =>
    rw [if_neg]
    · exact h.abs.eq h
    · rw [ge_iff_le, UInt64.le_iff_toNat_le, hbits]
      simp [Sign.toBitVec]
      omega
  | negative =>
    rw [if_pos]
    · exact (h.abs.neg h.valid).eq h
    · rw [ge_iff_le, UInt64.le_iff_toNat_le, hbits]
      simp [Sign.toBitVec]

/-! ## The values at the ends -/

theorem isNaN_iff_eq : x.isNaN = true ↔ x = notANumber := by
  have hbits : notANumber.toBits.toBitVec = packedNaN .binary64 := rfl
  rw [← Float.toBits_inj, ← UInt64.toBitVec_inj, hbits]
  exact Float.Model.UnpackedFloat.isNaN_unpack_iff_of_valid x.toModel.valid

theorem infinityPattern_lt_pattern_iff : infinityPattern < pattern x ↔ x = notANumber := by
  constructor
  · intro hlt
    obtain ⟨sign, exponent, mantissa, h⟩ := exists_components x
    have hexponent := exponent.isLt
    have hmantissa := mantissa.isLt
    rw [h.pattern_eq, infinityPattern, patternsPerExponent, Nat.pow_eq] at hlt
    have hlast : exponent = -1#11 := by
      rw [← BitVec.toNat_inj]
      show exponent.toNat = 2047
      omega
    have hpayload : mantissa ≠ 0#52 := by
      rintro rfl
      rw [BitVec.toNat_ofNat, Nat.zero_mod] at hlt
      omega
    exact h.eq_notANumber hlast hpayload
  · rintro rfl
    decide

theorem pattern_eq_zero_iff : pattern x = 0 ↔ x = 0 ∨ x = -0 := by
  constructor
  · intro hzero
    obtain ⟨sign, exponent, mantissa, h⟩ := exists_components x
    rw [h.pattern_eq, patternsPerExponent, Nat.pow_eq] at hzero
    have hexponent : exponent = 0#11 := BitVec.eq_of_toNat_eq (by rw [BitVec.toNat_zero]; omega)
    have hmantissa : mantissa = 0#52 := BitVec.eq_of_toNat_eq (by rw [BitVec.toNat_zero]; omega)
    subst hexponent hmantissa
    cases sign with
    | positive => exact Or.inl (h.eq rfl)
    | negative => exact Or.inr (h.eq rfl)
  · rintro (rfl | rfl)
    · rfl
    · rfl

end Worksheet.Number
