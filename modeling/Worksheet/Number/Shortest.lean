import Worksheet.Number.Nearest

/-!
# The shortest decimal of a double

Of the decimals that read back as a given double, the one with the fewest digits, and of those the
nearest one. The search goes from coarse to fine through the powers of ten; on each grid only the
two neighbours of the double can be nearest to it.

* `neighbourOn` tries the two neighbours on one grid.
* `nearest_of_neighbourOn` says that a decimal found on a grid reads back.
-/

namespace Worksheet.Number

/-- The decimal with no rounding at all: a double is a whole number of `2 ^ (-1074)`, and that is
`5 ^ 1074 · 10 ^ (-1074)`. -/
def exactDecimal (pattern : Nat) : Decimal where
  digits := units pattern * Nat.pow 5 1074
  exponent := -1074

/-- The neighbour of the double among the multiples of `10 ^ exponent` that reads back as the
double. If both do, the nearer one; if they are equally near, the upper one. -/
def neighbourOn (pattern : Nat) (exponent : Int) : Option Decimal :=
  let numerator := units pattern * Nat.pow 10 (-exponent).toNat
  let denominator := unitsPerOne * Nat.pow 10 exponent.toNat
  let low : Decimal := ⟨numerator / denominator, exponent⟩
  let high : Decimal := ⟨numerator / denominator + 1, exponent⟩
  let nearerLow := 2 * (numerator % denominator) < denominator
  if low.nearest = pattern ∧ (nearerLow ∨ high.nearest ≠ pattern) then some low
  else if high.nearest = pattern then some high
  else none

/-- An exponent of ten whose power exceeds the double, by no more than two places. -/
def coarsestExponent (pattern : Nat) : Int :=
  (((units pattern).log2 : Int) - 1073) * 30103 / 100000 + 1

/-- The shortest decimal of a finite double other than zero. Seventeen digits always suffice. -/
def shortest (pattern : Nat) : Decimal :=
  let coarsest := coarsestExponent pattern
  ((List.range 20).findSome? fun (n : Nat) => neighbourOn pattern (coarsest - n)).getD
    (exactDecimal pattern)

theorem nearest_of_neighbourOn {pattern : Nat} {exponent : Int} {decimal : Decimal}
    (h : neighbourOn pattern exponent = some decimal) : decimal.nearest = pattern := by
  simp only [neighbourOn] at h
  split at h
  · next hlow => cases h; exact hlow.1
  · split at h
    · next hhigh => cases h; exact hhigh
    · cases h

end Worksheet.Number
