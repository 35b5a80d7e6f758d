/-!
# Digits at the front of a text

Runs of decimal digits, signs and hexadecimal digits, which several notations share.

* `spanDigits` and `spanSign` split a text; `spanDigits_append` and `spanSign_append` say that
  nothing is lost.
* `hexValue?` reads a hexadecimal digit and `hexPair` writes two of them.
-/

namespace Worksheet.Text

/-- Splits off the digits at the front. -/
def spanDigits (text : List Char) : List Char × List Char :=
  (text.takeWhile Char.isDigit, text.dropWhile Char.isDigit)

/-- Splits off a sign, if there is one. -/
def spanSign : List Char → List Char × List Char
  | '+' :: rest => (['+'], rest)
  | '-' :: rest => (['-'], rest)
  | text => ([], text)

theorem spanDigits_append (text : List Char) :
    (spanDigits text).1 ++ (spanDigits text).2 = text := by
  simp [spanDigits]

theorem spanSign_append (text : List Char) : (spanSign text).1 ++ (spanSign text).2 = text := by
  fun_cases spanSign text <;> simp [*]

/-- The value of a hexadecimal digit of either case. -/
def hexValue? (c : Char) : Option Nat :=
  if c.isDigit then some (c.toNat - '0'.toNat)
  else if 'a' ≤ c ∧ c ≤ 'f' then some (c.toNat - 'a'.toNat + 10)
  else if 'A' ≤ c ∧ c ≤ 'F' then some (c.toNat - 'A'.toNat + 10)
  else none

/-- The two hexadecimal digits of a number below 256, in small letters. -/
def hexPair (n : Nat) : List Char :=
  [Nat.digitChar (n / 16), Nat.digitChar (n % 16)]

end Worksheet.Text
