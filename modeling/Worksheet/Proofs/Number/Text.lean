import Worksheet.Number.Leading
import Worksheet.Proofs.Number.Layout
import Worksheet.Proofs.Number.Nearest
import Worksheet.Proofs.Number.Pattern

/-!
# The texts of numbers

Every number is shown as a magnitude, with a minus sign in front of it or without one. The
magnitude is a numeral or the word for infinity, and it denotes the number without its sign. The
two zeros are shown alike, so that the sign of one of them is lost.

* `Denotes` lists the texts of magnitudes with what they denote.
* `readBack` is the number that a text of a number stands for.
* `IsTextOf` lists the texts of numbers, and `isTextOf_text` says that a shown number is one of
  them. `length_text_le` bounds the text.
-/

namespace Worksheet.Number

/-- The texts of magnitudes and what they denote. -/
inductive Denotes : List Char → Float → Prop where
  | numeral (n : Numeral) (hmark : ∀ e ∈ n.exponentPart?, e.mark = 'e') :
      Denotes n.text n.value.toFloat
  | infinity : Denotes infinityWord infinity

/-- The number that is read back from the text of a number: both zeros are shown as zero. -/
def readBack (x : Float) : Float :=
  if x = -0 then 0 else x

variable {x : Float}

/-! ## Magnitudes -/

theorem denotes_zero : Denotes ['0'] 0 := by
  have hzero := Denotes.numeral ⟨['0'], none, none, by decide, by simp, by simp⟩ (by simp)
  exact hzero

theorem denotes_decimal (d : Decimal) : Denotes (Layout.shown.decimal d) d.toFloat := by
  obtain ⟨written, ⟨n, htext, hmark, rfl⟩, hnearest⟩ := exists_writtenAs_decimal d
  have hvalue : n.value.toFloat = d.toFloat := by
    rw [Decimal.toFloat, Decimal.toFloat, hnearest]
  rw [← htext, ← hvalue]
  exact .numeral n hmark

/-- What stands behind the sign of a number other than zero denotes its magnitude. -/
theorem denotes_abs (hpos : 0 < pattern x) (hnumber : pattern x ≤ infinityPattern) :
    let magnitude := if pattern x = infinityPattern then Layout.shown.infinity.toList
      else Layout.shown.decimal (shortest (pattern x))
    Denotes magnitude x.abs ∧ magnitude.length ≤ 1795 := by
  intro magnitude
  by_cases hinfinity : pattern x = infinityPattern
  · have hmagnitude : magnitude = infinityWord := if_pos hinfinity
    rw [hmagnitude, ← ofPattern_pattern, hinfinity]
    exact ⟨.infinity, by decide⟩
  · have hmagnitude : magnitude = Layout.shown.decimal (shortest (pattern x)) := if_neg hinfinity
    have hfinite : pattern x < infinityPattern := by omega
    have hvalue : (shortest (pattern x)).toFloat = x.abs := by
      rw [Decimal.toFloat, nearest_shortest hpos hfinite, ofPattern_pattern]
    obtain ⟨hlength, hleast, hgreatest⟩ := shortest_bounds hfinite
    rw [hmagnitude, ← hvalue]
    exact ⟨denotes_decimal _, length_decimal_le hlength hleast hgreatest⟩

/-! ## The text of a number -/

theorem readBack_of_pattern_eq_zero (h : pattern x = 0) : readBack x = 0 := by
  unfold readBack
  split
  · rfl
  · next hne => exact (pattern_eq_zero_iff.mp h).resolve_right hne

theorem readBack_of_pattern_ne_zero (h : pattern x ≠ 0) : readBack x = x := by
  refine if_neg ?_
  rintro rfl
  exact h rfl

theorem text_of_pattern_eq_zero (h : pattern x = 0) : text x = "0" := by
  have hnumber : ¬infinityPattern < pattern x := by
    rw [h]
    decide
  simp only [text, Layout.write]
  rw [if_neg hnumber, if_pos h]
  exact ite_self _

/-- A number is shown as a magnitude with its sign, and the text stands for the number. -/
theorem exists_denotes_text (h : x ≠ notANumber) :
    ∃ magnitude y, Denotes magnitude y ∧ magnitude.length ≤ 1795 ∧
      ((text x).toList = magnitude ∧ readBack x = y ∨
        (text x).toList = '-' :: magnitude ∧ readBack x = -y) := by
  have hnumber : ¬infinityPattern < pattern x := fun hlt =>
    h (infinityPattern_lt_pattern_iff.mp hlt)
  by_cases hzero : pattern x = 0
  · refine ⟨['0'], 0, denotes_zero, by decide, Or.inl ⟨?_, readBack_of_pattern_eq_zero hzero⟩⟩
    rw [text_of_pattern_eq_zero hzero]
    rfl
  · obtain ⟨hdenotes, hlength⟩ := @denotes_abs x (by omega) (by omega)
    -- The sign that is written is the one that gives the number back from its magnitude.
    have hsigned := signed_abs x
    refine ⟨_, x.abs, hdenotes, hlength, ?_⟩
    rw [readBack_of_pattern_ne_zero hzero]
    simp only [text, Layout.write]
    rw [if_neg hnumber, if_neg hzero, String.toList_ofList]
    split at hsigned
    · next hnegative => exact Or.inr ⟨if_pos hnegative, hsigned.symm⟩
    · next hpositive => exact Or.inl ⟨if_neg hpositive, hsigned.symm⟩

/-- The texts of numbers and the numbers that they stand for. -/
inductive IsTextOf : List Char → Float → Prop where
  | notANumber : IsTextOf "NaN".toList notANumber
  | unsigned {magnitude : List Char} {y : Float} (h : Denotes magnitude y) : IsTextOf magnitude y
  | negative {magnitude : List Char} {y : Float} (h : Denotes magnitude y) :
      IsTextOf ('-' :: magnitude) (-y)

theorem isTextOf_text (x : Float) : IsTextOf (text x).toList (readBack x) := by
  by_cases h : x = notANumber
  · subst h
    exact .notANumber
  · obtain ⟨magnitude, y, hdenotes, -, ⟨htext, hvalue⟩ | ⟨htext, hvalue⟩⟩ := exists_denotes_text h
    · rw [htext, hvalue]
      exact .unsigned hdenotes
    · rw [htext, hvalue]
      exact .negative hdenotes

theorem length_text_le (x : Float) : (text x).toList.length ≤ 1796 := by
  by_cases h : x = notANumber
  · subst h
    decide
  · obtain ⟨magnitude, y, -, hlength, ⟨htext, -⟩ | ⟨htext, -⟩⟩ := exists_denotes_text h
    · rw [htext]
      omega
    · rw [htext, List.length_cons]
      omega

theorem text_readBack (x : Float) : text (readBack x) = text x := by
  unfold readBack
  split
  · next h =>
    have hpattern : pattern x = 0 := pattern_eq_zero_iff.mpr (Or.inr h)
    rw [text_of_pattern_eq_zero rfl, text_of_pattern_eq_zero hpattern]
  · rfl

end Worksheet.Number
