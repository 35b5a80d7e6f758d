import Worksheet.Number.Shortest

/-!
# Numbers as text

A number is written with the fewest digits that read back as the same double. A layout decides
where the digits stand: in place, for the middle magnitudes, or in front of an exponent.

* `Layout.shown` is the layout of the numbers that cells show, `Layout.quoted` that of the numbers
  that messages quote.
* `Layout.write` writes a double, and `Number.text` writes it as a cell shows it.
-/

namespace Worksheet.Number

/-- How numbers are written. -/
structure Layout where
  /-- The least power of ten whose digits stand in place. -/
  leastInPlace : Int
  /-- The greatest power of ten whose digits stand in place. -/
  greatestInPlace : Int
  /-- What follows a whole number that stands in place. -/
  wholeMark : String
  /-- What precedes an exponent that is not negative. -/
  exponentMark : String
  infinity : String
  zero : String
  negativeZero : String

namespace Layout

/-- Cells show digits in place from a millionth up to, but without, `10 ^ 21`; both zeros are
shown alike. -/
def shown : Layout where
  leastInPlace := -6
  greatestInPlace := 20
  wholeMark := ""
  exponentMark := "+"
  infinity := "Infinity"
  zero := "0"
  negativeZero := "0"

/-- Messages quote digits in place from a ten-thousandth up to, but without, `10 ^ 16`, and mark
a whole number as a number with a fraction. -/
def quoted : Layout where
  leastInPlace := -4
  greatestInPlace := 15
  wholeMark := ".0"
  exponentMark := ""
  infinity := "inf"
  zero := "0.0"
  negativeZero := "-0.0"

/-- The digits of a decimal at their places around the point. -/
def inPlace (layout : Layout) (digits : List Char) (exponent : Int) : List Char :=
  let wholeLength := digits.length + exponent
  if 0 ≤ exponent then
    digits ++ List.replicate exponent.toNat '0' ++ layout.wholeMark.toList
  else if 0 < wholeLength then
    digits.take wholeLength.toNat ++ '.' :: digits.drop wholeLength.toNat
  else
    '0' :: '.' :: List.replicate (-wholeLength).toNat '0' ++ digits

/-- One digit before the point, the others after it, and the power of ten of the first digit. -/
def withExponent (layout : Layout) (digits : List Char) (power : Int) : List Char :=
  let mantissa := match digits with
    | first :: second :: others => first :: '.' :: second :: others
    | _ => digits
  let sign := if power < 0 then ['-'] else layout.exponentMark.toList
  mantissa ++ 'e' :: sign ++ Nat.toDigits 10 power.natAbs

/-- Writes a positive decimal. -/
def decimal (layout : Layout) (d : Decimal) : List Char :=
  let digits := Nat.toDigits 10 d.digits
  let power := d.exponent + digits.length - 1
  if layout.leastInPlace ≤ power ∧ power ≤ layout.greatestInPlace then
    layout.inPlace digits d.exponent
  else layout.withExponent digits power

/-- Writes a double. -/
def write (layout : Layout) (x : Float) : String :=
  let negative := x.toBits ≥ 0x8000000000000000
  let magnitude := pattern x
  if infinityPattern < magnitude then "NaN"
  else if magnitude = 0 then if negative then layout.negativeZero else layout.zero
  else
    let digits :=
      if magnitude = infinityPattern then layout.infinity.toList
      else layout.decimal (shortest magnitude)
    String.ofList (if negative then '-' :: digits else digits)

end Layout

/-- The number as a cell shows it. -/
def text (x : Float) : String :=
  Layout.shown.write x

end Worksheet.Number
