import Worksheet.Proofs.Number.Pattern

/-!
# The difference of doubles

Two doubles differ by the same magnitude, whichever of them is subtracted from the other. The
difference is rounded without a look at its sign, and the sign is only put on the result.

* `abs_normalize_neg` says that a mantissa and its negative are rounded to the same magnitude, and
  `abs_sub_unpacked` carries this to all differences.
* `toBits_abs_of_pack` says that the magnitude of a result is that of its parts.
* `abs_difference_comm` is the statement about doubles.
-/

namespace Worksheet.Number

open Float.Model (Format UnpackedFloat)
open Float.Model.UnpackedFloat (Sign packComponents pack unpack)

/-! ## Differences before they are packed -/

theorem abs_round (spec : Format) (sign : Sign) (size : Nat) (power : Int) :
    (UnpackedFloat.round spec sign size power).abs =
      UnpackedFloat.round spec .positive size power := by
  simp only [UnpackedFloat.round, UnpackedFloat.roundWithAccuracy]
  split
  · rfl
  · rfl

theorem abs_normalize_neg (spec : Format) (mantissa power : Int) (zeroSign : Sign) :
    (UnpackedFloat.normalize spec (-mantissa) power zeroSign).abs =
      (UnpackedFloat.normalize spec mantissa power zeroSign).abs := by
  rcases lt_trichotomy mantissa 0 with hneg | rfl | hpos
  · have hturned : 0 < -mantissa := by omega
    rw [UnpackedFloat.normalize, UnpackedFloat.normalize, compare_gt_iff_gt.mpr hturned,
      compare_lt_iff_lt.mpr hneg, abs_round, abs_round]
  · rfl
  · have hturned : -mantissa < 0 := by omega
    rw [UnpackedFloat.normalize, UnpackedFloat.normalize, compare_lt_iff_lt.mpr hturned,
      compare_gt_iff_gt.mpr hpos, neg_neg]
    dsimp only
    rw [abs_round, abs_round]

theorem abs_sub_unpacked (spec : Format) (a b : UnpackedFloat) :
    (UnpackedFloat.sub spec a b).abs = (UnpackedFloat.sub spec b a).abs := by
  cases a with
  | notANumber => cases b <;> rfl
  | infinity s =>
    cases b with
    | infinity t => cases s <;> cases t <;> rfl
    | notANumber | zero | finite => rfl
  | zero s =>
    cases b with
    | zero t => cases s <;> cases t <;> rfl
    | notANumber | infinity | finite => rfl
  | finite s size power hsize =>
    cases b with
    | finite t other otherPower hother =>
      -- Both mantissas are brought to the smaller of the two exponents.
      simp only [UnpackedFloat.sub, min_comm otherPower power]
      rw [← abs_normalize_neg, neg_sub]
    | notANumber | infinity | zero => rfl

/-! ## Differences of doubles -/

variable {x : Float} {a : UnpackedFloat}

/-- A value that may be a number is packed as its magnitude is, with its sign. -/
theorem exists_pack_eq (ha : a ≠ .notANumber) :
    ∃ sign exponent mantissa, pack .binary64 a = packComponents .binary64 sign exponent mantissa ∧
      pack .binary64 a.abs = packComponents .binary64 .positive exponent mantissa := by
  cases a with
  | notANumber => exact absurd rfl ha
  | infinity sign => exact ⟨sign, _, _, rfl, rfl⟩
  | zero sign => exact ⟨sign, _, _, rfl, rfl⟩
  | finite sign size power hsize =>
    simp only [UnpackedFloat.abs, pack]
    split_ifs
    · exact ⟨sign, _, _, rfl, rfl⟩
    · exact ⟨sign, _, _, rfl, rfl⟩
    · exact ⟨sign, _, _, rfl, rfl⟩

theorem toBits_abs_of_pack (h : x.toBits.toBitVec = pack .binary64 a) :
    x.abs.toBits.toBitVec = pack .binary64 a.abs := by
  by_cases ha : a = .notANumber
  · subst ha
    have hx : x = notANumber := Float.toBits_inj.mp (UInt64.toBitVec_inj.mp h)
    rw [hx]
    rfl
  · obtain ⟨sign, exponent, mantissa, hpack, habs⟩ := exists_pack_eq ha
    have hx : IsMadeOf x sign exponent mantissa := h.trans hpack
    exact hx.abs.trans habs.symm

theorem abs_difference_comm (x y : Float) : (x - y).abs = (y - x).abs := by
  have hbits : ∀ x y : Float, (x - y).abs.toBits.toBitVec = pack .binary64
      (UnpackedFloat.sub .binary64 (unpack .binary64 x.toBits.toBitVec)
        (unpack .binary64 y.toBits.toBitVec)).abs :=
    fun x y => toBits_abs_of_pack rfl
  rw [← Float.toBits_inj, ← UInt64.toBitVec_inj, hbits, hbits, abs_sub_unpacked]

end Worksheet.Number
