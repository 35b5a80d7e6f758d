import Worksheet.Proofs.Text.Digits
import Worksheet.Text.Blank

/-!
# Blanks at the ends of a text

* `trimStart_append` removes blanks from where they were put.
* `trim_of_not_blank` leaves a text without blanks alone, and `lineFeed_not_mem_trim` leaves one
  line one line.
-/

namespace Worksheet.Text

variable {text blanks : List Char}

theorem trimStart_append (hblanks : ∀ c ∈ blanks, isBlank c = true)
    (h : NotInFront isBlank text) : trimStart (blanks ++ text) = text :=
  dropWhile_append_of_front hblanks h

theorem trim_of_not_blank (h : ∀ c ∈ text, isBlank c = false) : trim text = text := by
  have hreverse : NotInFront isBlank text.reverse :=
    notInFront_of_forall fun c hc => h c (List.mem_reverse.mp hc)
  rw [trim, trimStart, dropWhile_of_front (notInFront_of_forall h), trimEnd,
    dropWhile_of_front hreverse, List.reverse_reverse]

theorem lineFeed_not_mem_trim (h : '\n' ∉ text) : '\n' ∉ trim text := by
  intro hmem
  rw [trim, trimEnd, List.mem_reverse] at hmem
  have hstart := List.mem_reverse.mp ((List.dropWhile_sublist _).mem hmem)
  exact h ((List.dropWhile_sublist _).mem hstart)

end Worksheet.Text
