import Worksheet.Number.Nearest
import Worksheet.Text.Digits

/-!
# Decimal literals

An unsigned number is written as digits with an optional point and optional further digits, or as
a point and digits; an exponent may follow.

* `Literal.cut?` cuts the longest literal off the front of a text.
* `Decimal.ofText?` reads a text that is one literal and nothing else, and `ofText?` rounds it.

`cut?` only looks ahead for where the literal ends, and `ofText?` only splits a whole text at its
marks; neither relies on the other. `cut?_append` and `cut?_ne_nil` say that a cut loses nothing
and takes something.
-/

namespace Worksheet.Number

namespace Literal

open Text (spanDigits spanSign spanDigits_append spanSign_append)

/-- Splits off an exponent. A letter `e` or a sign with no digit behind it is not part of one. -/
def spanExponent : List Char → List Char × List Char
  | [] => ([], [])
  | mark :: rest =>
    let (sign, afterSign) := spanSign rest
    let (digits, afterDigits) := spanDigits afterSign
    if (mark == 'e' || mark == 'E') && !digits.isEmpty then
      (mark :: sign ++ digits, afterDigits)
    else ([], mark :: rest)

/-- Whether a literal begins here: at a digit, or at a point before a digit. -/
def begins : List Char → Bool
  | '.' :: c :: _ => c.isDigit
  | c :: _ => c.isDigit
  | [] => false

/-- Splits off the digits and the point in front of an exponent. -/
def spanMantissa (text : List Char) : List Char × List Char :=
  match spanDigits text with
  | (whole, '.' :: rest) =>
    let (fraction, rest) := spanDigits rest
    (whole ++ '.' :: fraction, rest)
  | split => split

/-- Cuts the longest literal off the front of a text. -/
def cut? (text : List Char) : Option (List Char × List Char) :=
  if begins text then
    let (mantissa, rest) := spanMantissa text
    let (exponent, rest) := spanExponent rest
    some (mantissa ++ exponent, rest)
  else none

/-! ## A cut loses nothing -/

theorem spanExponent_append (text : List Char) :
    (spanExponent text).1 ++ (spanExponent text).2 = text := by
  cases text with
  | nil => rfl
  | cons mark rest =>
    simp only [spanExponent]
    split
    · simp [spanDigits_append, spanSign_append]
    · rfl

theorem spanMantissa_append (text : List Char) :
    (spanMantissa text).1 ++ (spanMantissa text).2 = text := by
  have hwhole := spanDigits_append text
  unfold spanMantissa
  split
  · next whole rest h =>
    rw [h] at hwhole
    have hfraction := spanDigits_append rest
    simp only [List.append_assoc, List.cons_append]
    rw [hfraction]
    exact hwhole
  · exact hwhole

theorem spanMantissa_ne_nil {text : List Char} (h : begins text = true) :
    (spanMantissa text).1 ≠ [] := by
  unfold spanMantissa
  split
  · simp
  · next hpoint =>
    intro hnil
    cases text with
    | nil => simp [begins] at h
    | cons c rest =>
      by_cases hc : c.isDigit
      · simp [spanDigits, hc] at hnil
      · have hdot : c = '.' := by
          rcases rest with _ | ⟨d, rest⟩
          · exact absurd h (by simp [begins, hc])
          · by_cases hdot : c = '.'
            · exact hdot
            · exact absurd h (by simp [begins, hc, hdot])
        subst hdot
        exact hpoint [] rest (by simp [spanDigits, hc])

theorem cut?_append {text literal rest : List Char} (h : cut? text = some (literal, rest)) :
    literal ++ rest = text := by
  simp only [cut?] at h
  split at h
  · simp only [Option.some.injEq, Prod.mk.injEq] at h
    obtain ⟨rfl, rfl⟩ := h
    rw [List.append_assoc, spanExponent_append, spanMantissa_append]
  · cases h

theorem cut?_ne_nil {text literal rest : List Char} (h : cut? text = some (literal, rest)) :
    literal ≠ [] := by
  simp only [cut?] at h
  split at h
  · next hbegins =>
    simp only [Option.some.injEq, Prod.mk.injEq] at h
    obtain ⟨rfl, rfl⟩ := h
    simp [spanMantissa_ne_nil hbegins]
  · cases h

end Literal

/-- Reads digits alone, at least one of them. -/
def natural? (text : List Char) : Option Nat :=
  if text.isEmpty || !text.all Char.isDigit then none else some (Nat.ofDigitChars 10 text 0)

/-- Reads the part of a literal behind the letter `e`: digits with an optional sign. -/
def exponent? : List Char → Option Int
  | '-' :: digits => (natural? digits).map fun n => -(n : Int)
  | '+' :: digits => (natural? digits).map fun n => (n : Int)
  | digits => (natural? digits).map fun n => (n : Int)

/-- Reads a text that is one literal. The point may stand first or last in the mantissa, but not
alone. -/
def Decimal.ofText? (text : List Char) : Option Decimal := do
  let inMantissa := fun (c : Char) => c != 'e' && c != 'E'
  let mantissa := text.takeWhile inMantissa
  let mark := text.dropWhile inMantissa
  let whole := mantissa.takeWhile (· != '.')
  let fraction := (mantissa.dropWhile (· != '.')).drop 1
  let digits ← natural? (whole ++ fraction)
  let exponent ← if mark.isEmpty then some 0 else exponent? (mark.drop 1)
  return ⟨digits, exponent - fraction.length⟩

/-- The double nearest to a literal. -/
def ofText? (text : List Char) : Option Float :=
  (Decimal.ofText? text).map Decimal.toFloat

end Worksheet.Number
