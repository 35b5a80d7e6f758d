import Worksheet.Number.Leading
import Worksheet.Proofs.Number.Literal
import Worksheet.Proofs.Text.Blank

/-!
# Signed numbers

The language of the numbers that a cell may show: an optional sign, and a numeral or the word for
infinity behind it. The structures hold the parts of such a text, so that nothing else can be
built.

* `Unsigned` and `Signed` are the texts, with the number that each denotes.
* `Unsigned.exists_cons` says how an unsigned number begins, and `Signed.spanSign_text_append`
  splits the sign off a signed one.
-/

namespace Worksheet.Number

open Text (isBlank spanSign)

/-- An unsigned number: a numeral or the word for infinity. -/
inductive Unsigned where
  | numeral (n : Numeral)
  | infinity

/-- The characters of an unsigned number. -/
def Unsigned.text : Unsigned → List Char
  | .numeral n => n.text
  | .infinity => infinityWord

/-- The double that an unsigned number denotes. -/
def Unsigned.value : Unsigned → Float
  | .numeral n => n.value.toFloat
  | .infinity => Number.infinity

/-- A number with a sign that may be missing. -/
structure Signed where
  sign : List Char
  magnitude : Unsigned
  isSign : sign = [] ∨ sign = ['+'] ∨ sign = ['-']

/-- A double with a written sign. -/
def withSign (sign : List Char) (x : Float) : Float :=
  if sign = ['-'] then -x else x

/-- The characters of a number with its sign. -/
def Signed.text (s : Signed) : List Char :=
  s.sign ++ s.magnitude.text

/-- The double that a number with its sign denotes. -/
def Signed.value (s : Signed) : Float :=
  withSign s.sign s.magnitude.value

/-! ## How a number begins -/

theorem isBlank_eq_false_of_isDigit {c : Char} (h : c.isDigit = true) : isBlank c = false := by
  have hbounds : 48 ≤ c.toNat ∧ c.toNat ≤ 57 := by
    simpa [Char.isDigit, UInt32.le_iff_toNat_le] using h
  rw [Bool.eq_false_iff]
  simp only [isBlank, Bool.or_eq_true, Bool.and_eq_true, decide_eq_true_eq, beq_iff_eq, ne_eq]
  omega

/-- An unsigned number begins with neither a blank nor a sign. -/
theorem Unsigned.exists_cons (m : Unsigned) :
    ∃ c others, m.text = c :: others ∧ isBlank c = false ∧ c ≠ '-' ∧ c ≠ '+' := by
  cases m with
  | numeral n =>
    obtain ⟨c, others, htext, hc⟩ := n.exists_text_eq_cons
    refine ⟨c, others, htext, ?_⟩
    rcases hc with hdigit | rfl
    · exact ⟨isBlank_eq_false_of_isDigit hdigit, Text.ne_of_isDigit hdigit (by decide),
        Text.ne_of_isDigit hdigit (by decide)⟩
    · exact ⟨by decide, by decide, by decide⟩
  | infinity => exact ⟨'I', _, rfl, by decide, by decide, by decide⟩

theorem spanSign_cons {c : Char} {rest : List Char} (hminus : c ≠ '-') (hplus : c ≠ '+') :
    spanSign (c :: rest) = ([], c :: rest) := by
  unfold spanSign
  split
  · next heq => exact absurd (List.cons.inj heq).1 hplus
  · next heq => exact absurd (List.cons.inj heq).1 hminus
  · rfl

namespace Signed

/-- The sign that is split off a signed number is its own. -/
theorem spanSign_text_append (s : Signed) (rest : List Char) :
    spanSign (s.text ++ rest) = (s.sign, s.magnitude.text ++ rest) := by
  obtain ⟨c, others, hmagnitude, -, hminus, hplus⟩ := s.magnitude.exists_cons
  rw [text]
  rcases s.isSign with hs | hs | hs <;> rw [hs]
  · rw [List.nil_append, hmagnitude, List.cons_append, spanSign_cons hminus hplus]
  · rfl
  · rfl

theorem exists_cons (s : Signed) : ∃ c others, s.text = c :: others ∧ isBlank c = false := by
  obtain ⟨c, others, hmagnitude, hblank, -, -⟩ := s.magnitude.exists_cons
  rw [text]
  rcases s.isSign with hs | hs | hs <;> rw [hs]
  · exact ⟨c, others, hmagnitude, hblank⟩
  · exact ⟨'+', _, rfl, by decide⟩
  · exact ⟨'-', _, rfl, by decide⟩

theorem text_ne_nil (s : Signed) : s.text ≠ [] := by
  obtain ⟨c, others, htext, -⟩ := s.exists_cons
  rw [htext]
  exact List.cons_ne_nil _ _

/-- Blanks in front of a signed number are skipped, and nothing of the number. -/
theorem trimStart_append (s : Signed) {blanks : List Char}
    (hblanks : ∀ c ∈ blanks, isBlank c = true) (rest : List Char) :
    Text.trimStart (blanks ++ (s.text ++ rest)) = s.text ++ rest := by
  obtain ⟨c, others, htext, hblank⟩ := s.exists_cons
  refine Text.trimStart_append hblanks ?_
  rw [htext]
  exact Text.notInFront_cons.mpr hblank

end Signed

end Worksheet.Number
