import Mathlib.Tactic.Ring
import Worksheet.Number.Layout
import Worksheet.Proofs.Number.Literal

/-!
# Numbers as cells show them

The digits of a shown decimal stand in place or in front of an exponent. Either way they are a
numeral, and it denotes the decimal, or in place the same number with another exponent.

* `WrittenAs` relates a text to the decimal that it denotes as a numeral.
* `writtenAs_digits`, `writtenAs_point` and `writtenAs_withExponent` are the shapes of a numeral
  that is shown.
* `exists_writtenAs_decimal` puts them together, and `length_decimal_le` bounds the text.
-/

namespace Worksheet.Number

/-! ## The same number with another exponent -/

theorem nearest_mul_ten_pow (digits : Nat) {e : Nat} (he : e ≤ 310) :
    (⟨digits * 10 ^ e, 0⟩ : Decimal).nearest = (⟨digits, e⟩ : Decimal).nearest := by
  have hpow : 10 ^ e ≠ 0 := (Nat.pow_pos (by decide)).ne'
  simp only [Decimal.nearest]
  by_cases hdigits : digits = 0
  · rw [hdigits, Nat.zero_mul, if_pos rfl, if_pos rfl]
  · rw [if_neg (Nat.mul_ne_zero hdigits hpow), if_neg hdigits, if_neg (by decide),
      if_neg (by omega)]
    simp only [Nat.pow_eq, Nat.pow_zero, Nat.mul_one]

theorem ofDigitChars_replicate_zero (value count : Nat) :
    Nat.ofDigitChars 10 (List.replicate count '0') value = value * 10 ^ count := by
  induction count generalizing value with
  | zero => simp
  | succ count ih =>
    rw [List.replicate_succ, Nat.ofDigitChars_cons, ih, Nat.pow_succ]
    simp
    ring

/-! ## Shapes of numerals -/

/-- A text is a numeral that denotes a decimal. Its exponent has no capital letter. -/
def WrittenAs (text : List Char) (d : Decimal) : Prop :=
  ∃ n : Numeral, n.text = text ∧ (∀ e ∈ n.exponentPart?, e.mark = 'e') ∧ n.value = d

theorem writtenAs_digits {digits : List Char} (hne : digits ≠ [])
    (hdigits : ∀ c ∈ digits, c.isDigit = true) :
    WrittenAs digits ⟨Nat.ofDigitChars 10 digits 0, 0⟩ := by
  refine ⟨⟨digits, none, none, by simpa using hne, hdigits, by simp⟩, ?_, by simp, ?_⟩
  · simp [Numeral.text, Numeral.mantissa, Numeral.pointed, Numeral.exponentText]
  · simp [Numeral.value, Numeral.digits]

theorem writtenAs_point {whole fraction : List Char} (hne : whole ++ fraction ≠ [])
    (hdigits : ∀ c ∈ whole ++ fraction, c.isDigit = true) :
    WrittenAs (whole ++ '.' :: fraction)
      ⟨Nat.ofDigitChars 10 (whole ++ fraction) 0, -fraction.length⟩ := by
  rw [List.forall_mem_append] at hdigits
  refine ⟨⟨whole, some fraction, none, hne, hdigits.1, ?_⟩, ?_, by simp, ?_⟩
  · rintro _ ⟨⟩
    exact hdigits.2
  · simp [Numeral.text, Numeral.mantissa, Numeral.pointed, Numeral.exponentText]
  · simp [Numeral.value, Numeral.digits]

/-- The exponent of a power of ten, as a cell shows it. -/
def Exponent.ofPower (power : Int) : Exponent where
  mark := 'e'
  sign := if power < 0 then ['-'] else ['+']
  digits := Nat.toDigits 10 power.natAbs
  isMark := Or.inl rfl
  isSign := by
    split
    · exact Or.inr (Or.inr rfl)
    · exact Or.inr (Or.inl rfl)
  digits_ne_nil := Nat.toDigits_ne_nil
  isDigit_digits := fun _ hc => Nat.isDigit_of_mem_toDigits (by decide) (by decide) hc

theorem Exponent.value_ofPower (power : Int) : (ofPower power).value = power := by
  by_cases hneg : power < 0
  · have hsign : (ofPower power).sign = ['-'] := if_pos hneg
    rw [Exponent.value, if_pos hsign, ofPower, Nat.ofDigitChars_ten_toDigits]
    omega
  · have hsign : (ofPower power).sign = ['+'] := if_neg hneg
    rw [Exponent.value, hsign, if_neg (by decide), ofPower, Nat.ofDigitChars_ten_toDigits]
    omega

/-- One digit, the others behind a point, and the exponent of the first digit. -/
theorem writtenAs_withExponent {digits : List Char} (hne : digits ≠ [])
    (hdigits : ∀ c ∈ digits, c.isDigit = true) (power : Int) :
    WrittenAs (Layout.shown.withExponent digits power)
      ⟨Nat.ofDigitChars 10 digits 0, power - (digits.length - 1)⟩ := by
  have hmark : ∀ e ∈ some (Exponent.ofPower power), e.mark = 'e' := by
    rintro _ ⟨⟩
    rfl
  have hexponent : (Exponent.ofPower power).text =
      'e' :: (if power < 0 then ['-'] else Layout.shown.exponentMark.toList) ++
        Nat.toDigits 10 power.natAbs := rfl
  match digits, hne, hdigits with
  | [first], hne, hdigits =>
    refine ⟨⟨[first], none, some (.ofPower power), by simp, hdigits, by simp⟩, ?_, hmark, ?_⟩
    · simp [Numeral.text, Numeral.mantissa, Numeral.pointed, Numeral.exponentText, hexponent,
        Layout.withExponent]
    · simp [Numeral.value, Numeral.digits, Exponent.value_ofPower]
  | first :: second :: others, hne, hdigits =>
    rw [List.forall_mem_cons] at hdigits
    refine ⟨⟨[first], some (second :: others), some (.ofPower power), by simp, ?_, ?_⟩, ?_,
      hmark, ?_⟩
    · simpa using hdigits.1
    · rintro _ ⟨⟩
      exact hdigits.2
    · simp [Numeral.text, Numeral.mantissa, Numeral.pointed, Numeral.exponentText, hexponent,
        Layout.withExponent]
    · simp [Numeral.value, Numeral.digits, Exponent.value_ofPower]

/-! ## Shown decimals -/

/-- Digits in place are a numeral. It denotes the decimal, or the same number without zeros in its
exponent. -/
theorem exists_writtenAs_inPlace {digits : List Char} (hne : digits ≠ [])
    (hdigits : ∀ c ∈ digits, c.isDigit = true) {exponent : Int} (hexponent : exponent ≤ 310) :
    ∃ d, WrittenAs (Layout.shown.inPlace digits exponent) d ∧
      d.nearest = (⟨Nat.ofDigitChars 10 digits 0, exponent⟩ : Decimal).nearest := by
  have hzeros : ∀ count, ∀ c ∈ List.replicate count '0', c.isDigit = true := by
    intro count c hc
    rw [List.eq_of_mem_replicate hc]
    rfl
  simp only [Layout.inPlace]
  split
  · next hwhole =>
    have hall : ∀ c ∈ digits ++ List.replicate exponent.toNat '0', c.isDigit = true :=
      List.forall_mem_append.mpr ⟨hdigits, hzeros _⟩
    have hvalue : Nat.ofDigitChars 10 (digits ++ List.replicate exponent.toNat '0') 0 =
        Nat.ofDigitChars 10 digits 0 * 10 ^ exponent.toNat := by
      rw [Nat.ofDigitChars_append, ofDigitChars_replicate_zero]
    have hmark : Layout.shown.wholeMark.toList = [] := rfl
    rw [hmark, List.append_nil]
    refine ⟨_, writtenAs_digits (by simp [hne]) hall, ?_⟩
    rw [hvalue, nearest_mul_ten_pow _ (by omega), Int.toNat_of_nonneg hwhole]
  · split
    · next hneg hpoint =>
      have hlength : -((digits.drop (digits.length + exponent).toNat).length : Int) =
          exponent := by
        rw [List.length_drop]
        omega
      refine ⟨_, writtenAs_point (by rwa [List.take_append_drop])
        (by rwa [List.take_append_drop]), ?_⟩
      rw [List.take_append_drop, hlength]
    · next hneg hpoint =>
      have hall : ∀ c ∈ ['0'] ++
          (List.replicate (-(digits.length + exponent)).toNat '0' ++ digits),
          c.isDigit = true :=
        List.forall_mem_append.mpr ⟨by simp, List.forall_mem_append.mpr ⟨hzeros _, hdigits⟩⟩
      have hvalue : Nat.ofDigitChars 10
          (['0'] ++ (List.replicate (-(digits.length + exponent)).toNat '0' ++ digits)) 0 =
            Nat.ofDigitChars 10 digits 0 := by
        rw [Nat.ofDigitChars_append, Nat.ofDigitChars_append]
        show Nat.ofDigitChars 10 digits (Nat.ofDigitChars 10 (List.replicate _ '0') 0) = _
        rw [ofDigitChars_replicate_zero, Nat.zero_mul]
      have hlength : -((List.replicate (-(digits.length + exponent)).toNat '0' ++ digits).length :
          Int) = exponent := by
        rw [List.length_append, List.length_replicate]
        omega
      have hwritten := writtenAs_point (by simp) hall
      rw [hvalue, hlength] at hwritten
      exact ⟨_, by simpa using hwritten, rfl⟩

/-- A shown decimal is a numeral that is rounded as the decimal is. -/
theorem exists_writtenAs_decimal (d : Decimal) :
    ∃ written, WrittenAs (Layout.shown.decimal d) written ∧ written.nearest = d.nearest := by
  have hne : Nat.toDigits 10 d.digits ≠ [] := Nat.toDigits_ne_nil
  have hdigits : ∀ c ∈ Nat.toDigits 10 d.digits, c.isDigit = true := fun _ hc =>
    Nat.isDigit_of_mem_toDigits (by decide) (by decide) hc
  have hlength : 0 < (Nat.toDigits 10 d.digits).length := List.length_pos_iff.mpr hne
  simp only [Layout.decimal]
  split
  · next hplaces =>
    have hgreatest : Layout.shown.greatestInPlace = 20 := rfl
    rw [hgreatest] at hplaces
    obtain ⟨written, hwritten, hnearest⟩ :=
      @exists_writtenAs_inPlace _ hne hdigits d.exponent (by omega)
    rw [Nat.ofDigitChars_ten_toDigits] at hnearest
    exact ⟨written, hwritten, hnearest⟩
  · have hwritten := writtenAs_withExponent hne hdigits
      (d.exponent + (Nat.toDigits 10 d.digits).length - 1)
    have hpower : d.exponent + (Nat.toDigits 10 d.digits).length - 1 -
        ((Nat.toDigits 10 d.digits).length - 1) = d.exponent := by omega
    rw [hpower, Nat.ofDigitChars_ten_toDigits] at hwritten
    exact ⟨_, hwritten, rfl⟩

/-! ## The length of a shown decimal -/

theorem length_inPlace_le {digits : List Char} {exponent : Int}
    (hleast : -6 ≤ exponent + digits.length - 1) (hgreatest : exponent + digits.length - 1 ≤ 20) :
    (Layout.shown.inPlace digits exponent).length ≤ digits.length + 21 := by
  have hmark : Layout.shown.wholeMark.toList = [] := rfl
  simp only [Layout.inPlace]
  split
  · rw [hmark, List.append_nil, List.length_append, List.length_replicate]
    omega
  · split
    · simp only [List.length_append, List.length_cons, List.length_take, List.length_drop]
      omega
    · simp only [List.length_append, List.length_cons, List.length_replicate]
      omega

theorem length_withExponent_le {digits : List Char} {power : Int} (h : power.natAbs < 10 ^ 4) :
    (Layout.shown.withExponent digits power).length ≤ digits.length + 7 := by
  have hpower : (Nat.toDigits 10 power.natAbs).length ≤ 4 :=
    (Nat.length_toDigits_le_iff (by decide) (by decide)).mpr h
  have hmark : Layout.shown.exponentMark.toList = ['+'] := rfl
  have hsign : (if power < 0 then ['-'] else ['+']).length = 1 := by
    split
    · rfl
    · rfl
  simp only [Layout.withExponent, hmark]
  split
  · simp only [List.length_append, List.length_cons, hsign]
    omega
  · simp only [List.length_append, List.length_cons, hsign]
    omega

theorem length_decimal_le {d : Decimal} (hlength : (Nat.toDigits 10 d.digits).length ≤ 1774)
    (hleast : -1074 ≤ d.exponent) (hgreatest : d.exponent ≤ 310) :
    (Layout.shown.decimal d).length ≤ 1795 := by
  simp only [Layout.decimal]
  split
  · next hplaces =>
    have h := length_inPlace_le hplaces.1 hplaces.2
    omega
  · have h := @length_withExponent_le (Nat.toDigits 10 d.digits)
      (d.exponent + (Nat.toDigits 10 d.digits).length - 1) (by omega)
    omega

end Worksheet.Number
