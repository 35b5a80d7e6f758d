import Mathlib
import Worksheet.Number.Shortest

/-!
# Doubles read back from their decimals

The patterns of doubles grow with their sizes, so the size of a finite double is rounded to the
pattern that it came from, whatever fraction it is written as. The shortest decimal of a double is
therefore read as that double: the search gives nothing else, and where it finds nothing, the
decimal without rounding stands in.

* `units_lt_units_succ` and `patternBelow_units` say that sizes and patterns run side by side.
* `nearestPattern_units_mul` rounds the size of a pattern, and `nearest_shortest` the shortest
  decimal.
* `shortest_bounds` bounds the digits and the exponent of the shortest decimal.
-/

namespace Worksheet.Number

/-! ## Patterns and their sizes -/

theorem patternsPerExponent_pos : 0 < patternsPerExponent := by
  decide

theorem units_of_lt {p : Nat} (h : p < patternsPerExponent) : units p = p := by
  rw [units, if_pos h]

/-- The patterns of one exponent are evenly spaced. -/
theorem units_of_exponent {shift r : Nat} (hr : r < patternsPerExponent) :
    units ((shift + 1) * patternsPerExponent + r) = (patternsPerExponent + r) * 2 ^ shift := by
  have hlarge : ¬(shift + 1) * patternsPerExponent + r < patternsPerExponent := by
    rw [Nat.succ_mul]
    omega
  have hquotient : ((shift + 1) * patternsPerExponent + r) / patternsPerExponent = shift + 1 := by
    rw [Nat.mul_comm, Nat.mul_add_div patternsPerExponent_pos, Nat.div_eq_of_lt hr, Nat.add_zero]
  have hremainder : ((shift + 1) * patternsPerExponent + r) % patternsPerExponent = r := by
    rw [Nat.mul_comm, Nat.mul_add_mod, Nat.mod_eq_of_lt hr]
  rw [units, if_neg hlarge, hquotient, hremainder]
  rfl

theorem exists_exponent {p : Nat} (h : patternsPerExponent ≤ p) :
    ∃ shift r, r < patternsPerExponent ∧ p = (shift + 1) * patternsPerExponent + r := by
  have hpos : 0 < p / patternsPerExponent := Nat.div_pos h patternsPerExponent_pos
  refine ⟨p / patternsPerExponent - 1, p % patternsPerExponent,
    Nat.mod_lt _ patternsPerExponent_pos, ?_⟩
  rw [Nat.sub_add_cancel hpos, Nat.div_add_mod']

/-- A greater pattern has a greater size, also from one exponent to the next. -/
theorem units_lt_units_succ (p : Nat) : units p < units (p + 1) := by
  by_cases hp : p < patternsPerExponent
  · rw [units_of_lt hp]
    by_cases hnext : p + 1 < patternsPerExponent
    · rw [units_of_lt hnext]
      omega
    · have hfirst : p + 1 = (0 + 1) * patternsPerExponent + 0 := by omega
      rw [hfirst, units_of_exponent patternsPerExponent_pos]
      omega
  · obtain ⟨shift, r, hr, rfl⟩ := exists_exponent (Nat.not_lt.mp hp)
    have hpow : 0 < 2 ^ shift := Nat.two_pow_pos shift
    rw [units_of_exponent hr]
    by_cases hnext : r + 1 < patternsPerExponent
    · rw [Nat.add_assoc, units_of_exponent hnext]
      exact Nat.mul_lt_mul_of_pos_right (by omega) hpow
    · -- The last pattern of one exponent is followed by the first of the next, twice as coarse.
      have hlast : r + 1 = patternsPerExponent := by omega
      have hfirst : (shift + 1) * patternsPerExponent + r + 1 =
          (shift + 1 + 1) * patternsPerExponent + 0 := by
        rw [Nat.succ_mul (shift + 1)]
        omega
      rw [hfirst, units_of_exponent patternsPerExponent_pos, Nat.add_zero, Nat.pow_succ,
        Nat.mul_comm (2 ^ shift), ← Nat.mul_assoc]
      exact Nat.mul_lt_mul_of_pos_right (by omega) hpow

theorem units_strictMono : StrictMono units :=
  strictMono_nat_of_lt_succ units_lt_units_succ

theorem log2_le_of_lt {n k : Nat} (h : n < 2 ^ (k + 1)) : n.log2 ≤ k := by
  by_cases hzero : n = 0
  · rw [hzero]
    exact Nat.zero_le k
  · exact Nat.le_of_lt_succ ((Nat.log2_lt hzero).mpr h)

theorem log2_mul_two_pow {n : Nat} (h : n ≠ 0) (shift : Nat) :
    (n * 2 ^ shift).log2 = n.log2 + shift := by
  have hpos : n * 2 ^ shift ≠ 0 := Nat.mul_ne_zero h (Nat.two_pow_pos shift).ne'
  refine (Nat.log2_eq_iff hpos).mpr ⟨?_, ?_⟩
  · rw [Nat.pow_add]
    exact Nat.mul_le_mul_right _ (Nat.log2_self_le h)
  · rw [Nat.add_right_comm, Nat.pow_add]
    exact Nat.mul_lt_mul_of_pos_right Nat.lt_log2_self (Nat.two_pow_pos shift)

/-- The pattern of a size is found from the place of its first binary digit. -/
theorem patternBelow_units (p : Nat) : patternBelow (units p) = p := by
  have hsize : patternsPerExponent = 2 ^ 52 := rfl
  by_cases hp : p < patternsPerExponent
  · -- Below the first exponent a pattern is its own size, and there is nothing to shift.
    have hlog : p.log2 ≤ 51 := log2_le_of_lt hp
    have hshift : p.log2 - 52 = 0 := by omega
    rw [units_of_lt hp]
    simp only [patternBelow, hshift, Nat.zero_mul, Nat.zero_add]
    exact Nat.div_one p
  · obtain ⟨shift, r, hr, rfl⟩ := exists_exponent (Nat.not_lt.mp hp)
    have hne : patternsPerExponent + r ≠ 0 := by
      have hpos := patternsPerExponent_pos
      omega
    have hlog : (patternsPerExponent + r).log2 = 52 := by
      refine (Nat.log2_eq_iff hne).mpr ⟨?_, ?_⟩
      · rw [hsize]
        exact Nat.le_add_right _ _
      · rw [Nat.pow_succ, ← hsize]
        omega
    have hshift : 52 + shift - 52 = shift := by omega
    rw [units_of_exponent hr]
    simp only [patternBelow, log2_mul_two_pow hne, hlog, hshift, Nat.pow_eq]
    rw [Nat.mul_div_cancel _ (Nat.two_pow_pos shift), Nat.succ_mul, Nat.add_assoc]

/-! ## Rounding a size -/

/-- The size of a pattern, as a fraction of any denominator, is rounded to the pattern. -/
theorem nearestPattern_units_mul {p denominator : Nat} (hp : p < infinityPattern)
    (hpos : 0 < denominator) : nearestPattern (units p * denominator) denominator = p := by
  have hlow : patternBelow (units p * denominator / denominator) = p := by
    rw [Nat.mul_div_cancel _ hpos, patternBelow_units]
  have hmiddle : 2 * (units p * denominator) < (units p + units (p + 1)) * denominator := by
    rw [← Nat.mul_assoc]
    refine Nat.mul_lt_mul_of_pos_right ?_ hpos
    have hnext := units_lt_units_succ p
    omega
  simp only [nearestPattern, hlow]
  rw [if_neg (Nat.not_le.mpr hp), if_pos hmiddle]

theorem two_mul_le_log2_mul_five_pow {n : Nat} (h : 0 < n) (k : Nat) :
    2 * k ≤ (n * 5 ^ k).log2 := by
  have hpos : 0 < n * 5 ^ k := Nat.mul_pos h (Nat.pow_pos (by decide))
  refine (Nat.le_log2 hpos.ne').mpr ?_
  calc 2 ^ (2 * k) = (2 ^ 2) ^ k := Nat.pow_mul 2 2 k
    _ ≤ 5 ^ k := Nat.pow_le_pow_left (by decide) k
    _ ≤ n * 5 ^ k := Nat.le_mul_of_pos_left _ h

theorem nearest_neg {digits k : Nat} (hk : 0 < k) (hne : digits ≠ 0)
    (hlarge : 3 * k ≤ digits.log2 + 1100) :
    (⟨digits, -(k : Int)⟩ : Decimal).nearest =
      nearestPattern (digits * unitsPerOne) (10 ^ k) := by
  obtain ⟨e, rfl⟩ : ∃ e, k = e + 1 := ⟨k - 1, by omega⟩
  have hexponent : -((e + 1 : Nat) : Int) = .negSucc e := rfl
  simp only [Decimal.nearest, hexponent]
  rw [if_neg hne, if_neg (Nat.not_lt.mpr hlarge)]
  rfl

/-- A size is read back from the decimal that it is as a multiple of a power of two. It is not
taken for a decimal closer to zero than to the least double: the power of five has more than twice
as many binary digits. -/
theorem nearest_units_mul_five_pow {p k : Nat} (hpos : 0 < p) (hp : p < infinityPattern)
    (hone : unitsPerOne = Nat.pow 2 k) (hk : 0 < k) (hk' : k ≤ 1100) :
    (⟨units p * Nat.pow 5 k, -(k : Int)⟩ : Decimal).nearest = p := by
  have hunits : 0 < units p := units_strictMono hpos
  have hlog := two_mul_le_log2_mul_five_pow hunits k
  have hne : units p * 5 ^ k ≠ 0 := (Nat.mul_pos hunits (Nat.pow_pos (by decide))).ne'
  rw [Nat.pow_eq, nearest_neg hk hne (by omega), hone, Nat.pow_eq, Nat.mul_assoc, ← Nat.mul_pow]
  exact nearestPattern_units_mul hp (Nat.pow_pos (by decide))

theorem nearest_exactDecimal {p : Nat} (hpos : 0 < p) (hp : p < infinityPattern) :
    (exactDecimal p).nearest = p :=
  nearest_units_mul_five_pow hpos hp rfl (by decide) (by decide)

/-- The shortest decimal of a finite double other than zero is read as that double. -/
theorem nearest_shortest {p : Nat} (hpos : 0 < p) (hp : p < infinityPattern) :
    (shortest p).nearest = p := by
  simp only [shortest]
  cases hfound : (List.range 20).findSome? fun (n : Nat) =>
      neighbourOn p (coarsestExponent p - n) with
  | none => exact nearest_exactDecimal hpos hp
  | some decimal =>
    obtain ⟨n, -, hn⟩ := List.exists_of_findSome?_eq_some hfound
    exact nearest_of_neighbourOn hn

/-! ## The size of the shortest decimal -/

theorem log2_mono {m n : Nat} (h : m ≤ n) : m.log2 ≤ n.log2 :=
  log2_le_of_lt (Nat.lt_of_le_of_lt h Nat.lt_log2_self)

theorem log2_succ_le (n : Nat) : (n + 1).log2 ≤ n.log2 + 1 := by
  refine log2_le_of_lt ?_
  have hlt : n < 2 ^ (n.log2 + 1) := Nat.lt_log2_self
  rw [Nat.pow_succ]
  omega

theorem log2_mul_le (m n : Nat) : (m * n).log2 ≤ m.log2 + n.log2 + 1 := by
  refine log2_le_of_lt ?_
  calc m * n < 2 ^ (m.log2 + 1) * 2 ^ (n.log2 + 1) :=
        Nat.mul_lt_mul'' Nat.lt_log2_self Nat.lt_log2_self
    _ = 2 ^ (m.log2 + n.log2 + 1 + 1) := by
        rw [← Nat.pow_add]
        congr 1
        omega

theorem log2_pow_le {b a : Nat} (h : b ≤ 2 ^ a) (k : Nat) : (b ^ k).log2 ≤ a * k := by
  refine log2_le_of_lt (Nat.lt_of_le_of_lt ?_
    (Nat.pow_lt_pow_right (by decide) (Nat.lt_succ_self _)))
  rw [Nat.pow_mul]
  exact Nat.pow_le_pow_left h k

/-- Three binary digits make less than a decimal one. -/
theorem length_toDigits_le (n : Nat) : (Nat.toDigits 10 n).length ≤ n.log2 / 3 + 1 := by
  refine (Nat.length_toDigits_le_iff (by decide) (Nat.succ_pos _)).mpr ?_
  calc n < 2 ^ (n.log2 + 1) := Nat.lt_log2_self
    _ ≤ 2 ^ (3 * (n.log2 / 3 + 1)) := Nat.pow_le_pow_right (by decide) (by omega)
    _ = (2 ^ 3) ^ (n.log2 / 3 + 1) := Nat.pow_mul 2 3 _
    _ ≤ 10 ^ (n.log2 / 3 + 1) := Nat.pow_le_pow_left (by decide) _

theorem log2_units_le_of_lt {p shift : Nat} (hp : p < (shift + 1) * patternsPerExponent) :
    (units p).log2 ≤ 52 + shift := by
  have hlt := units_strictMono hp
  rw [← Nat.add_zero ((shift + 1) * patternsPerExponent),
    units_of_exponent patternsPerExponent_pos,
    Nat.add_zero] at hlt
  refine log2_le_of_lt (Nat.lt_of_lt_of_le hlt ?_)
  have hsize : patternsPerExponent = 2 ^ 52 := rfl
  rw [hsize, ← Nat.pow_add]
  exact Nat.pow_le_pow_right (by decide) (Nat.le_succ _)

theorem log2_units_le {p : Nat} (hp : p < infinityPattern) : (units p).log2 ≤ 2098 := by
  have hlast : infinityPattern = (2046 + 1) * patternsPerExponent := rfl
  rw [hlast] at hp
  exact log2_units_le_of_lt hp

theorem coarsestExponent_bounds {p : Nat} (hp : p < infinityPattern) :
    -323 ≤ coarsestExponent p ∧ coarsestExponent p ≤ 310 := by
  have hlog := log2_units_le hp
  unfold coarsestExponent
  omega

theorem log2_digits_exactDecimal_le {p : Nat} (hp : p < infinityPattern) :
    (exactDecimal p).digits.log2 ≤ 5321 := by
  have hlog := log2_units_le hp
  have hpower : ∀ k, (Nat.pow 5 k).log2 ≤ 3 * k := log2_pow_le (by decide)
  have hfive := hpower 1074
  have hproduct := log2_mul_le (units p) (Nat.pow 5 1074)
  show (units p * Nat.pow 5 1074).log2 ≤ 5321
  omega

theorem log2_digits_le_of_neighbourOn {p : Nat} {exponent : Int} {decimal : Decimal}
    (hp : p < infinityPattern) (h : neighbourOn p exponent = some decimal) :
    decimal.exponent = exponent ∧ decimal.digits.log2 ≤ 2100 + 4 * (-exponent).toNat := by
  have hlog := log2_units_le hp
  have hpower : (Nat.pow 10 (-exponent).toNat).log2 ≤ 4 * (-exponent).toNat :=
    log2_pow_le (by decide) _
  have hproduct := log2_mul_le (units p) (Nat.pow 10 (-exponent).toNat)
  have hquotient := log2_mono (Nat.div_le_self (units p * Nat.pow 10 (-exponent).toNat)
    (unitsPerOne * Nat.pow 10 exponent.toNat))
  have hnext := log2_succ_le (units p * Nat.pow 10 (-exponent).toNat /
    (unitsPerOne * Nat.pow 10 exponent.toNat))
  simp only [neighbourOn] at h
  split at h
  · cases h
    refine ⟨rfl, ?_⟩
    dsimp only
    omega
  · split at h
    · cases h
      refine ⟨rfl, ?_⟩
      dsimp only
      omega
    · cases h

/-- The shortest decimal has fewer than two thousand digits, and an exponent within a little more
than a thousand. The search does better, but this is enough for what is read back. -/
theorem shortest_bounds {p : Nat} (hp : p < infinityPattern) :
    (Nat.toDigits 10 (shortest p).digits).length ≤ 1774 ∧
      -1074 ≤ (shortest p).exponent ∧ (shortest p).exponent ≤ 310 := by
  have hcoarsest := coarsestExponent_bounds hp
  simp only [shortest]
  cases hfound : (List.range 20).findSome? fun (n : Nat) =>
      neighbourOn p (coarsestExponent p - n) with
  | none =>
    have hlog := log2_digits_exactDecimal_le hp
    have hlength := length_toDigits_le (exactDecimal p).digits
    have hexponent : (exactDecimal p).exponent = -1074 := rfl
    simp only [Option.getD_none, hexponent]
    omega
  | some decimal =>
    obtain ⟨n, hn, hdecimal⟩ := List.exists_of_findSome?_eq_some hfound
    obtain ⟨hexponent, hlog⟩ := log2_digits_le_of_neighbourOn hp hdecimal
    have hlength := length_toDigits_le decimal.digits
    rw [List.mem_range] at hn
    simp only [Option.getD_some, hexponent]
    omega

end Worksheet.Number
