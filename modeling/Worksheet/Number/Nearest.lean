/-!
# The double nearest to a decimal

A finite double of magnitude `m · 2 ^ q` is a whole number of units of `2 ^ (-1074)`, so doubles
are compared with decimals in natural-number arithmetic. Bit patterns are taken without the sign
bit; among them a greater pattern is a greater double, and the pattern of infinity stands where
the next double after the greatest finite one would be.

* `units` is the size of a pattern in units, and `patternBelow` the greatest pattern whose size
  does not exceed a given number of units.
* `nearestPattern` rounds a fraction of units to the nearest pattern, a tie going to the even one.
* `Decimal.nearest` rounds a decimal.
-/

namespace Worksheet.Number

/-- The number `digits · 10 ^ exponent`. -/
structure Decimal where
  digits : Nat
  exponent : Int
deriving DecidableEq

/-- The number of patterns of one exponent. -/
def patternsPerExponent : Nat := Nat.pow 2 52

/-- The number of units in one. -/
def unitsPerOne : Nat := Nat.pow 2 1074

/-- The pattern of infinity. -/
def infinityPattern : Nat := 2047 * patternsPerExponent

/-- The size of a pattern, in units of `2 ^ (-1074)`. -/
def units (pattern : Nat) : Nat :=
  if pattern < patternsPerExponent then pattern
  else
    (patternsPerExponent + pattern % patternsPerExponent) *
      Nat.pow 2 (pattern / patternsPerExponent - 1)

/-- The greatest pattern whose size is at most `size` units. -/
def patternBelow (size : Nat) : Nat :=
  let shift := size.log2 - 52
  shift * patternsPerExponent + size / Nat.pow 2 shift

/-- The pattern nearest to `numerator / denominator` units; halfway between two neighbours, the
even one. -/
def nearestPattern (numerator denominator : Nat) : Nat :=
  let low := patternBelow (numerator / denominator)
  if infinityPattern ≤ low then infinityPattern
  else
    let twice := 2 * numerator
    let middle := (units low + units (low + 1)) * denominator
    if twice < middle then low
    else if middle < twice then low + 1
    else if low % 2 = 0 then low else low + 1

/-- The pattern nearest to a decimal. The two bounds on the exponent keep the powers small: beyond
them every decimal is past the greatest double, or closer to zero than to the least one. -/
def Decimal.nearest (decimal : Decimal) : Nat :=
  if decimal.digits = 0 then 0
  else
    match decimal.exponent with
    | .ofNat e =>
      if 310 < e then infinityPattern
      else nearestPattern (decimal.digits * Nat.pow 10 e * unitsPerOne) 1
    | .negSucc e =>
      if decimal.digits.log2 + 1100 < 3 * (e + 1) then 0
      else nearestPattern (decimal.digits * unitsPerOne) (Nat.pow 10 (e + 1))

/-- The double of a pattern, with the sign left positive. -/
def ofPattern (pattern : Nat) : Float :=
  Float.ofBits (UInt64.ofNat pattern)

/-- The pattern of the magnitude of a double. -/
def pattern (x : Float) : Nat :=
  x.abs.toBits.toNat

/-- The double nearest to a decimal. -/
def Decimal.toFloat (decimal : Decimal) : Float :=
  ofPattern decimal.nearest

/-- Positive infinity. -/
def infinity : Float :=
  ofPattern infinityPattern

/-- The value that is no number. -/
def notANumber : Float :=
  Float.ofBits 0x7FF8000000000000

end Worksheet.Number
