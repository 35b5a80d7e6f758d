import Worksheet.Proofs.Address
import Worksheet.Proofs.Address.Spelling

/-!
# Texts that name a position

A position has many names: zeros in front of the row number do not count. One of them is the plain
name, with which the position is written.

* `Names` is the rule for names, and `parse?_eq_some_iff_names` says that it is the one by which
  they are read. `Faulty` says what is wrong with any other text, and `read_eq_error_iff` that this
  is what is reported.
* `eq_text_iff` says that the plain name is the one without a zero in front of its number.
-/

namespace Worksheet.Address

open Text (NotInFront)

/-- Whether a text names a position: a capital letter and digits that denote the number of a row,
with any zeros in front. -/
def Names (name : String) (a : Address) : Prop :=
  ∃ spelling : Spelling, spelling.Proper ∧ name.toList = spelling.text ∧
    (1 ≤ spelling.number ∧ spelling.number ≤ 4294967295) ∧
      a = ofName spelling.letter spelling.number

/-- Whether the digits behind the first character of a text begin with a zero. -/
def IsPadded (name : String) : Prop :=
  ∃ letter digits, name.toList = letter :: '0' :: digits

/-- Why a text names no position: it does not begin with a capital letter, what stands behind the
letter is not digits alone, or the number of the digits is not the number of a row. -/
inductive Faulty : List Char → AddressFault → Prop where
  | missingLetter {text : List Char} (h : NotInFront Char.isUpper text) :
      Faulty text .missingLetter
  | malformedRow {letter : Char} {behind : List Char} (hletter : letter.isUpper = true)
      (h : behind = [] ∨ ∃ c ∈ behind, c.isDigit = false) :
      Faulty (letter :: behind) .malformedRow
  | rowTooLarge {spelling : Spelling} (hproper : spelling.Proper)
      (h : 4294967295 < spelling.number) : Faulty spelling.text .rowTooLarge
  | rowZero {spelling : Spelling} (hproper : spelling.Proper) (h : spelling.number = 0) :
      Faulty spelling.text .rowZero

/-- Digits behind a capital letter are read as the number that they denote. -/
theorem read_text_of_proper {spelling : Spelling} (h : spelling.Proper) :
    read spelling.text =
      if 4294967295 < spelling.number then .error .rowTooLarge
      else if spelling.number = 0 then .error .rowZero
      else .ok (ofName spelling.letter spelling.number) := by
  obtain ⟨letter, digits⟩ := spelling
  have hletter : letter.isUpper = true := h.isUpper_letter
  have hempty : digits.isEmpty = false := List.isEmpty_eq_false_iff.mpr h.digits_ne_nil
  have hall : digits.all Char.isDigit = true := List.all_eq_true.mpr h.isDigit_digits
  simp only [read, Spelling.text, Spelling.number, hletter, hempty, hall]
  rfl

theorem Faulty.read_eq {text : List Char} {fault : AddressFault} (h : Faulty text fault) :
    read text = .error fault := by
  cases h with
  | missingLetter h =>
    cases text with
    | nil => rfl
    | cons letter behind => simp [read, Text.notInFront_cons.mp h]
  | @malformedRow letter behind hletter h =>
    have hread : (behind.isEmpty || !behind.all Char.isDigit) = true := by
      simpa using h
    simp [read, hletter, hread]
  | rowTooLarge hproper h => rw [read_text_of_proper hproper, if_pos h]
  | rowZero hproper h => rw [read_text_of_proper hproper, if_neg (by omega), if_pos h]

/-- A text is a capital letter with digits behind it, or its form is at fault. -/
theorem faulty_or_exists_proper (text : List Char) :
    (∃ fault, Faulty text fault) ∨
      ∃ spelling : Spelling, spelling.Proper ∧ text = spelling.text := by
  cases text with
  | nil => exact Or.inl ⟨_, .missingLetter Text.notInFront_nil⟩
  | cons letter behind =>
    cases hletter : letter.isUpper with
    | false => exact Or.inl ⟨_, .missingLetter (Text.notInFront_cons.mpr hletter)⟩
    | true =>
      by_cases hempty : behind = []
      · exact Or.inl ⟨_, .malformedRow hletter (Or.inl hempty)⟩
      · by_cases hdigits : ∀ c ∈ behind, c.isDigit = true
        · exact Or.inr ⟨⟨letter, behind⟩, ⟨hletter, hempty, hdigits⟩, rfl⟩
        · exact Or.inl ⟨_, .malformedRow hletter (Or.inr (by simpa using hdigits))⟩

theorem read_eq_ok_iff {text : List Char} {a : Address} :
    read text = .ok a ↔ ∃ spelling : Spelling, spelling.Proper ∧ text = spelling.text ∧
      (1 ≤ spelling.number ∧ spelling.number ≤ 4294967295) ∧
        a = ofName spelling.letter spelling.number := by
  constructor
  · intro h
    obtain ⟨fault, hfault⟩ | ⟨spelling, hproper, rfl⟩ := faulty_or_exists_proper text
    · rw [hfault.read_eq] at h
      cases h
    · rw [read_text_of_proper hproper] at h
      split at h
      · cases h
      · next hlarge =>
        split at h
        · cases h
        · next hzero =>
          cases h
          exact ⟨spelling, hproper, rfl, by omega, rfl⟩
  · rintro ⟨spelling, hproper, rfl, hnumber, rfl⟩
    rw [read_text_of_proper hproper, if_neg (by omega), if_neg (by omega)]

theorem read_eq_error_iff {text : List Char} {fault : AddressFault} :
    read text = .error fault ↔ Faulty text fault := by
  refine ⟨fun h => ?_, Faulty.read_eq⟩
  obtain ⟨found, hfound⟩ | ⟨spelling, hproper, rfl⟩ := faulty_or_exists_proper text
  · rw [hfound.read_eq] at h
    cases h
    exact hfound
  · rw [read_text_of_proper hproper] at h
    split at h
    · next hlarge =>
      cases h
      exact .rowTooLarge hproper hlarge
    · split at h
      · next hzero =>
        cases h
        exact .rowZero hproper hzero
      · cases h

theorem parse?_eq_some_iff_names {name : String} {a : Address} :
    parse? name = some a ↔ Names name a := by
  rw [Names, ← read_eq_ok_iff, parse?]
  cases read name.toList with
  | error fault => simp [Except.toOption]
  | ok found => simp [Except.toOption]

/-- A name is the plain one if no zero stands in front of its number. -/
theorem eq_text_iff {name : String} {a : Address} (h : Names name a) :
    name = a.text ↔ ¬IsPadded name := by
  obtain ⟨spelling, hproper, hname, hnumber, rfl⟩ := h
  have hsize : UInt32.size = 4294967296 := rfl
  rw [text_ofName hproper.isUpper_letter hnumber.1 (by omega), ← String.toList_inj, toList_nameOf,
    IsPadded, hname, Spelling.text]
  constructor
  · rintro hplain ⟨letter, digits, hpadded⟩
    rw [hplain, List.cons.injEq] at hpadded
    exact Text.head?_toDigits_ne_zero hnumber.1 (by rw [hpadded.2, List.head?_cons])
  · intro hunpadded
    have hzero : spelling.digits.head? ≠ some '0' := by
      intro hhead
      obtain ⟨others, hothers⟩ := List.head?_eq_some_iff.mp hhead
      exact hunpadded ⟨spelling.letter, others, by rw [hothers]⟩
    rw [Spelling.number,
      Text.toDigits_ofDigitChars hproper.digits_ne_nil hproper.isDigit_digits hzero]

end Worksheet.Address
