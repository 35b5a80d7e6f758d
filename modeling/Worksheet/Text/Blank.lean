/-!
# Blank characters

The characters with the Unicode property White_Space, and the removal of blanks from the ends of
a text.

* `isBlank_of_isWhitespace` says that the blanks include those that the core library knows.
-/

namespace Worksheet.Text

/-- The twenty-five characters with the property White_Space. -/
def isBlank (c : Char) : Bool :=
  let n := c.toNat
  (0x0009 ≤ n && n ≤ 0x000D) || n == 0x0020 || n == 0x0085 || n == 0x00A0 || n == 0x1680 ||
  (0x2000 ≤ n && n ≤ 0x200A) || n == 0x2028 || n == 0x2029 || n == 0x202F || n == 0x205F ||
  n == 0x3000

theorem isBlank_of_isWhitespace {c : Char} (h : c.isWhitespace = true) : isBlank c = true := by
  simp only [Char.isWhitespace, Bool.or_eq_true, decide_eq_true_eq] at h
  rcases h with ((rfl | rfl) | rfl) | rfl <;> rfl

/-- Removes the blanks at the front. -/
def trimStart (text : List Char) : List Char :=
  text.dropWhile isBlank

/-- Removes the blanks at the end. -/
def trimEnd (text : List Char) : List Char :=
  (text.reverse.dropWhile isBlank).reverse

/-- Removes the blanks at both ends. -/
def trim (text : List Char) : List Char :=
  trimEnd (trimStart text)

end Worksheet.Text
