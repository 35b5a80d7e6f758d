import Worksheet.Address
import Worksheet.Text.Digits

/-!
# Addresses inside a text

Formulas name cells in the middle of other text: a capital letter and the digits behind it, as far
as they go. The digits need not be the number of a row.

* `Spelling.cut?` cuts such a name off the front of a text. `cut?_append` says that nothing is
  lost, and `length_lt_of_cut?` that something is taken.
-/

namespace Worksheet.Address

/-- A capital letter and the digits behind it. -/
structure Spelling where
  letter : Char
  digits : List Char
deriving DecidableEq

namespace Spelling

/-- The characters of a spelling. -/
def text (spelling : Spelling) : List Char :=
  spelling.letter :: spelling.digits

/-- The column of the letter. -/
def col (spelling : Spelling) : UInt16 :=
  columnOf spelling.letter

/-- The number that the digits denote. -/
def number (spelling : Spelling) : Nat :=
  Nat.ofDigitChars 10 spelling.digits 0

/-- Cuts a capital letter and the digits behind it, at least one, off the front of a text. -/
def cut? : List Char → Option (Spelling × List Char)
  | [] => none
  | letter :: rest =>
    let (digits, afterDigits) := Text.spanDigits rest
    if letter.isUpper && !digits.isEmpty then some (⟨letter, digits⟩, afterDigits) else none

theorem cut?_append {input rest : List Char} {spelling : Spelling}
    (h : cut? input = some (spelling, rest)) : spelling.text ++ rest = input := by
  cases input with
  | nil => simp [cut?] at h
  | cons letter others =>
    simp only [cut?] at h
    split at h
    · simp only [Option.some.injEq, Prod.mk.injEq] at h
      obtain ⟨rfl, rfl⟩ := h
      simp [text, Text.spanDigits_append]
    · cases h

theorem length_lt_of_cut? {input rest : List Char} {spelling : Spelling}
    (h : cut? input = some (spelling, rest)) : rest.length < input.length := by
  have happend := congrArg List.length (cut?_append h)
  simp only [text, List.length_append, List.length_cons] at happend
  omega

end Spelling

end Worksheet.Address
