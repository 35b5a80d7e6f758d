import Worksheet.Address.Spelling
import Worksheet.Proofs.Text.Digits

/-!
# Spellings at the front of a text

Which texts begin with the name of a cell, and how far the name goes.

* `Spelling.Proper` is the form of a name: a capital letter and at least one digit.
* `cut?_eq_some_iff` says that a proper spelling is cut off with all its digits.
-/

namespace Worksheet.Address.Spelling

open Text (NotInFront spanDigits spanDigits_eq_iff)

/-- A capital letter with at least one digit behind it. -/
structure Proper (spelling : Spelling) : Prop where
  isUpper_letter : spelling.letter.isUpper = true
  digits_ne_nil : spelling.digits ≠ []
  isDigit_digits : ∀ c ∈ spelling.digits, c.isDigit = true

theorem cut?_eq_some_iff {text rest : List Char} {spelling : Spelling} :
    cut? text = some (spelling, rest) ↔
      spelling.Proper ∧ NotInFront Char.isDigit rest ∧ text = spelling.text ++ rest := by
  obtain ⟨letter, digits⟩ := spelling
  cases text with
  | nil => simp [cut?, Spelling.text]
  | cons c others =>
    simp only [cut?, Spelling.text, List.cons_append, List.cons.injEq]
    cases hspan : spanDigits others with
    | mk run after =>
      obtain ⟨rfl, hrun, hafter⟩ := spanDigits_eq_iff.mp hspan
      constructor
      · intro h
        split at h
        · next hproper =>
          cases h
          rw [Bool.and_eq_true, Bool.not_eq_true', List.isEmpty_eq_false_iff] at hproper
          exact ⟨⟨hproper.1, hproper.2, hrun⟩, hafter, rfl, rfl⟩
        · cases h
      · rintro ⟨hproper, hrest, rfl, happend⟩
        have hsame : (run, after) = (digits, rest) := by
          rw [← hspan]
          exact spanDigits_eq_iff.mpr ⟨happend, hproper.isDigit_digits, hrest⟩
        cases hsame
        have hupper := hproper.isUpper_letter
        have hnonempty := hproper.digits_ne_nil
        simp_all

theorem text_inj {spelling other : Spelling} : spelling.text = other.text ↔ spelling = other := by
  obtain ⟨letter, digits⟩ := spelling
  obtain ⟨letter', digits'⟩ := other
  rw [text, text, List.cons.injEq, mk.injEq]

theorem cut?_text_append {rest : List Char} {spelling : Spelling} (h : spelling.Proper)
    (hrest : NotInFront Char.isDigit rest) :
    cut? (spelling.text ++ rest) = some (spelling, rest) :=
  cut?_eq_some_iff.mpr ⟨h, hrest, rfl⟩

end Worksheet.Address.Spelling
