import Worksheet.Proofs.Formula.Arithmetic
import Worksheet.Proofs.Number.Leading

/-!
# Shown numbers read back

What a cell shows for a number is read back as that number in every place where a shown number can
be read: at the front of a text, as an expression, and as the body of a formula, where it is not
mistaken for a reference or for a function call.

* `legible_unsigned` reads an unsigned number as an operand, and `arithmetic_of_legible` evaluates
  a short text.
* `filled_of_isTextOf` and `ofCall?_of_isTextOf` say that a shown number holds no reference and
  calls no function.
* `readBack_text` is the whole statement.
-/

namespace Worksheet.Formula

open Number (Denotes IsTextOf Unsigned readBack text)

/-! ## Magnitudes as operands -/

variable {magnitude : List Char} {y : Float}

theorem legible_unsigned (m : Unsigned) : Legible .primary m.text (.number m.value) 0 := by
  cases m with
  | numeral n => exact legible_numeral n
  | infinity => exact legible_constant .infinity

theorem legible_of_denotes (h : Denotes magnitude y) :
    Legible .primary magnitude (.number y) 0 := by
  obtain ⟨m, rfl, rfl⟩ := h.exists_unsigned
  exact legible_unsigned m

/-- A magnitude holds no reference: it has no capital, or it is the word for infinity. -/
theorem filled_of_denotes (h : Denotes magnitude y) (cells : Snapshot) :
    filled cells magnitude = magnitude := by
  have hsmall : ∀ {text : List Char}, (∀ c ∈ text, c.isUpper = false) →
      filled cells text = text := by
    intro text htext
    have hfilled := @filled_append_of_not_isUpper cells [] text htext
    rwa [List.append_nil, filled_nil, List.append_nil] at hfilled
  cases h with
  | numeral n hmark => exact hsmall (isUpper_numeral hmark)
  | infinity =>
    -- The capital is no reference, since no digit follows it.
    have hword : Number.infinityWord = ['I', 'n', 'f', 'i', 'n', 'i', 't', 'y'] := rfl
    rw [hword, filled_cons_of_cut?_eq_none (by decide), hsmall (by simp)]

theorem ofCall?_of_denotes (h : Denotes magnitude y) : Function.ofCall? magnitude = none := by
  cases h with
  | numeral n hmark =>
    obtain ⟨c, others, htext, -⟩ := n.exists_text_eq_cons
    have hc : c.isUpper = false :=
      isUpper_numeral hmark c (by rw [htext]; exact List.mem_cons_self)
    rw [htext]
    exact Function.ofCall?_cons_of_not_isUpper hc
  | infinity => decide

/-! ## Short texts -/

theorem utf8ByteSize_ofList_le (text : List Char) :
    (String.ofList text).utf8ByteSize ≤ 4 * text.length := by
  induction text with
  | nil => decide
  | cons c text ih =>
    have hc := c.utf8Size_le_four
    rw [String.utf8ByteSize_ofList] at ih ⊢
    rw [String.utf8Len_cons, List.length_cons]
    omega

/-- A legible text that is short and hardly nested has the value of its tree. -/
theorem arithmetic_of_legible {level : Level} {text : List Char} {tree : Expr} {nesting : Nat}
    (h : Legible level text tree nesting) (hlength : text.length ≤ 2048)
    (hnesting : nesting ≤ 256) :
    arithmetic (String.ofList text) = .ok tree.eval := by
  have hbytes := utf8ByteSize_ofList_le text
  have hshort : ¬longestExpression < (String.ofList text).utf8ByteSize := by
    rw [longestExpression]
    omega
  have hshallow : ¬deepestNesting < nesting := Nat.not_lt.mpr hnesting
  rw [arithmetic, h.parse, if_neg hshort, if_neg hshallow]
  rfl

/-! ## Shown numbers -/

variable {shown : List Char}

theorem exists_legible_of_isTextOf (h : IsTextOf shown y) :
    ∃ level tree nesting, Legible level shown tree nesting ∧ nesting ≤ 256 ∧
      tree.eval = .number y := by
  cases h with
  | notANumber => exact ⟨_, _, _, legible_constant .notANumber, by decide, rfl⟩
  | unsigned hdenotes => exact ⟨_, _, _, legible_of_denotes hdenotes, by decide, rfl⟩
  | negative hdenotes => exact ⟨_, _, _, (legible_of_denotes hdenotes).negated, by decide, rfl⟩

theorem filled_of_isTextOf (h : IsTextOf shown y) (cells : Snapshot) :
    filled cells shown = shown := by
  cases h with
  | notANumber =>
    show filled cells ['N', 'a', 'N'] = _
    rw [filled_cons_of_cut?_eq_none (by decide), filled_cons_of_cut?_eq_none (by decide),
      filled_cons_of_cut?_eq_none (by decide), filled_nil]
    rfl
  | unsigned hdenotes => exact filled_of_denotes hdenotes cells
  | negative hdenotes =>
    rw [filled_cons_of_not_isUpper (by decide), filled_of_denotes hdenotes cells]

theorem ofCall?_of_isTextOf (h : IsTextOf shown y) : Function.ofCall? shown = none := by
  cases h with
  | notANumber => decide
  | unsigned hdenotes => exact ofCall?_of_denotes hdenotes
  | negative hdenotes => exact Function.ofCall?_cons_of_not_isUpper (by decide)

theorem arithmetic_text (x : Float) : arithmetic (text x) = .ok (.number (readBack x)) := by
  have hlength := Number.length_text_le x
  obtain ⟨level, tree, nesting, hlegible, hnesting, heval⟩ :=
    exists_legible_of_isTextOf (Number.isTextOf_text x)
  have hvalue := arithmetic_of_legible hlegible (by omega) hnesting
  rwa [String.ofList_toList, heval] at hvalue

theorem display_text (x : Float) (cells : Snapshot) : display ("=" ++ text x) cells = text x := by
  have hshown := Number.isTextOf_text x
  have hreplaced : replaceReferences (text x) cells = text x := by
    rw [replaceReferences_eq, filled_of_isTextOf hshown cells, String.ofList_toList]
  rw [display_of_replaceReferences (ofCall?_of_isTextOf hshown) hreplaced (arithmetic_text x)]
  exact Number.text_readBack x

/-- A shown number is read back, the two zeros as zero. It is the number at the front of its text
with nothing left unread, unless it is no number at all; it is the value of its text as arithmetic;
and a formula that consists of it shows it again, whatever the cells are. -/
theorem readBack_text (x : Float) :
    Number.cutLeading? (text x).toList = (if x.isNaN then none else some (readBack x, [])) ∧
      Number.leading? (text x) = (if x.isNaN then none else some (readBack x)) ∧
      arithmetic (text x) = .ok (.number (readBack x)) ∧
      ∀ cells, display ("=" ++ text x) cells = text x := by
  have hcut := Number.cutLeading?_text x
  refine ⟨hcut, ?_, arithmetic_text x, display_text x⟩
  rw [Number.leading?_eq, hcut]
  split
  · rfl
  · rfl

end Worksheet.Formula
