import Worksheet.Formula.Value
import Worksheet.Proofs.Formula.Return
import Worksheet.Proofs.Formula.Tiling

/-!
# The recursion is bounded

An expression that is read has no more nodes than its text has bytes, and no path in it leads into
more signs and exponents than may be nested. So the evaluation of a tree, which follows the paths
from its root, is bounded as the reading of its text is.

* `Expr.Path` is a path in a tree. It has fewer steps than the tree has nodes
  (`Expr.Path.steps_lt`), and no more of them lead into signs and exponents than `Expr.nesting`
  tells (`Expr.Path.nested_le`).
* `Expr.evalWithin` is the evaluation with a limit on the evaluations inside each other. The size
  of a tree is limit enough (`Expr.evalWithin_of_size_le`).
* The tree of a phrase has no more nodes than the phrase has tokens (`Derives.size_le`), and nests
  no deeper than the phrase (`Derives.nesting_le`).
* `recursion_bounded` is the whole statement.
-/

namespace Worksheet.Formula

/-! ## Paths -/

/-- A path leads from an expression to one of its parts in a number of steps. Some of them lead
into the operand of a sign or into an exponent. -/
inductive Expr.Path : Expr → (steps nested : Nat) → (part : Expr) → Prop where
  | here (e : Expr) : Path e 0 0 e
  | operand {op : UnaryOp} {operand part : Expr} {steps nested : Nat}
      (hrest : Path operand steps nested part) :
      Path (.unary op operand) (steps + 1) (nested + 1) part
  | left {op : BinaryOp} {left right part : Expr} {steps nested : Nat}
      (hrest : Path left steps nested part) :
      Path (.binary op left right) (steps + 1) nested part
  | right {op : BinaryOp} {left right part : Expr} {steps nested : Nat} (hop : op ≠ .power)
      (hrest : Path right steps nested part) :
      Path (.binary op left right) (steps + 1) nested part
  | exponent {base exponent part : Expr} {steps nested : Nat}
      (hrest : Path exponent steps nested part) :
      Path (.binary .power base exponent) (steps + 1) (nested + 1) part

theorem Expr.nesting_of_ne_power {op : BinaryOp} (hop : op ≠ .power) (left right : Expr) :
    (binary op left right).nesting = max left.nesting right.nesting := by
  cases op with
  | power => exact absurd rfl hop
  | _ => rfl

theorem Expr.nesting_left_le (op : BinaryOp) (left right : Expr) :
    left.nesting ≤ (binary op left right).nesting := by
  by_cases hop : op = .power
  · subst hop
    exact Nat.le_max_left _ _
  · rw [nesting_of_ne_power hop]
    exact Nat.le_max_left _ _

theorem Expr.size_pos (e : Expr) : 0 < e.size := by
  cases e <;> exact Nat.succ_pos _

section

variable {e part : Expr} {steps nested : Nat}

theorem Expr.Path.steps_lt (h : e.Path steps nested part) : steps < e.size := by
  induction h with
  | here e => exact e.size_pos
  | operand _ ih | left _ ih | right _ _ ih | exponent _ ih =>
    rw [size]
    omega

theorem Expr.Path.nested_le (h : e.Path steps nested part) : nested ≤ e.nesting := by
  induction h with
  | here e => exact Nat.zero_le _
  | operand _ ih => exact Nat.succ_le_succ ih
  | left _ ih => exact ih.trans (nesting_left_le _ _ _)
  | right hop _ ih =>
    rw [nesting_of_ne_power hop]
    exact ih.trans (Nat.le_max_right _ _)
  | exponent _ ih => exact (Nat.succ_le_succ ih).trans (Nat.le_max_right _ _)

end

/-! ## Evaluation -/

/-- The value of an expression, if it is found with at most `room` evaluations inside each
other. -/
def Expr.evalWithin : (room : Nat) → Expr → Option Value
  | 0, _ => none
  | _ + 1, number x => some (.number x)
  | _ + 1, boolean b => some (.boolean b)
  | room + 1, unary op operand => do
    let value ← evalWithin room operand
    return .number (op.apply value.toNumber)
  | room + 1, binary op left right => do
    let leftValue ← evalWithin room left
    let rightValue ← evalWithin room right
    return op.apply leftValue.toNumber rightValue.toNumber

/-- There are no more evaluations inside each other than there are nodes. -/
theorem Expr.evalWithin_of_size_le {room : Nat} {e : Expr} (h : e.size ≤ room) :
    e.evalWithin room = some e.eval := by
  induction e generalizing room with
  | number | boolean =>
    obtain ⟨room, rfl⟩ := Nat.exists_eq_add_of_lt (Nat.lt_of_lt_of_le Nat.one_pos h)
    rfl
  | unary op operand ih =>
    cases room with
    | zero => cases h
    | succ room =>
      rw [evalWithin, ih (Nat.le_of_succ_le_succ h)]
      rfl
  | binary op left right ihLeft ihRight =>
    cases room with
    | zero => cases h
    | succ room =>
      rw [size] at h
      rw [evalWithin, ihLeft (by omega), ihRight (by omega)]
      rfl

/-! ## The tree of a phrase -/

section

variable {level : Level} {phrase : List Token} {tree : Expr} {nesting : Nat}

/-- Each node comes from a token of its own. -/
theorem Derives.size_le (h : Derives level phrase tree nesting) : tree.size ≤ phrase.length := by
  induction h with
  | tighter _ _ ih => exact ih
  | join _ _ _ _ ihLeft ihRight =>
    rw [Expr.size, List.length_append, List.length_cons]
    omega
  | sign _ _ ih => exact Nat.succ_le_succ ih
  | power _ _ ihBase ihExponent =>
    rw [Expr.size, List.length_append, List.length_cons]
    omega
  | number value => exact Nat.le_refl _
  | constant hname => cases hname <;> exact Nat.le_refl _
  | parens _ ih =>
    rw [List.cons_append, List.length_cons, List.length_append]
    omega

/-- A phrase nests as deep as its tree, and deeper by the parentheses that leave no node. -/
theorem Derives.nesting_le (h : Derives level phrase tree nesting) : tree.nesting ≤ nesting := by
  induction h with
  | tighter _ _ ih => exact ih
  | @join _ _ _ op _ _ _ _ _ _ _ hop _ _ ihLeft ihRight =>
    have hpower : op ≠ .power := by
      cases hop <;> decide
    rw [Expr.nesting_of_ne_power hpower]
    exact max_le_max ihLeft ihRight
  | sign _ _ ih => exact Nat.succ_le_succ ih
  | power _ _ ihBase ihExponent => exact max_le_max ihBase (Nat.succ_le_succ ihExponent)
  | number value => exact Nat.le_refl _
  | constant hname => cases hname <;> exact Nat.le_refl _
  | parens _ ih => exact ih.trans (Nat.le_succ _)

end

/-! ## The whole statement -/

/-- The reading of a text ends, and every call in it comes back. At each step on the way, the
counter is the number of nesting levels that are entered and not left, and no greater than the
limit; the stack holds no more than seven calls for each of them and six around them. A call comes
back to its stack and its depth with what the reader of its level reads. It never gives a token
back, and takes at least one if it reads a tree. The tree of the text has no more nodes than the
text has bytes, no path in it leads into more signs and exponents than the limit allows, and its
value is found with no more evaluations inside each other than it has nodes. -/
theorem recursion_bounded (input : String) :
    ∃ tokens, Token.scan input.toList = .ok tokens ∧
      (∀ r, (Reading.start tokens).Reaches r →
        r.depth = nestedCalls r.stack ∧ r.depth ≤ 256 ∧ r.stack.length ≤ 7 * 256 + 6 ∧
        r.tokens <:+ tokens ∧
        ∀ level, r.control = .call level → ∃ result rest,
          Above r.stack r.step ⟨.answer result, r.stack, rest, r.depth⟩ ∧
            result = (Reader.ofLevel level (256 - r.depth) r.tokens).map Prod.fst ∧
            rest <:+ r.tokens ∧ ∀ tree, result = .ok tree → rest.length < r.tokens.length) ∧
      (∃ result rest, (Reading.start tokens).Reaches ⟨.answer result, [], rest, 0⟩ ∧
        Expr.ofTokens tokens = (do
          let tree ← result
          match rest with
          | [] => .ok tree
          | met :: _ => .error (.trailing met))) ∧
      ∀ tree, Expr.parse input = .ok tree →
        tree.size ≤ input.utf8ByteSize ∧ tree.size ≤ 8192 ∧
          (∀ steps nested part, tree.Path steps nested part → steps < tree.size ∧ nested ≤ 256) ∧
          tree.evalWithin tree.size = some tree.eval := by
  obtain ⟨tokens, hscan, hlength⟩ := Token.exists_scan input
  refine ⟨tokens, hscan, fun r hreaches => ?_, exists_reaches_ofTokens tokens,
    fun tree hparse => ?_⟩
  · have hkept := hreaches.kept (kept_start tokens)
    obtain ⟨hdepth, hle, hplaced⟩ := hkept.balanced
    have hstack := hplaced.length_le
    have hlimit : r.depth ≤ 256 := hle
    exact ⟨hdepth, hlimit, by omega, hreaches.suffix,
      fun level hcall => exists_above_of_call hcall hle⟩
  · obtain ⟨hshort, others, nesting, hothers, hderives, hnesting⟩ := Expr.fits_of_parse hparse
    rw [hscan] at hothers
    cases hothers
    have hsize := hderives.size_le.trans hlength
    refine ⟨hsize, hsize.trans hshort, fun steps nested part hpath => ?_,
      Expr.evalWithin_of_size_le (Nat.le_refl _)⟩
    exact ⟨hpath.steps_lt, hpath.nested_le.trans (hderives.nesting_le.trans hnesting)⟩

/-- The operand of `-true` is one step into a sign away from the root. -/
theorem recursion_bounded_sign :
    Expr.parse "-true" = .ok (.unary .negate (.boolean true)) ∧
      (Expr.unary .negate (.boolean true)).size ≤ "-true".utf8ByteSize ∧
      (Expr.unary .negate (.boolean true)).Path 1 1 (.boolean true) ∧
      1 < (Expr.unary .negate (.boolean true)).size := by
  have hparse : Expr.parse "-true" = .ok (.unary .negate (.boolean true)) := by
    decide +kernel
  have hpath : (Expr.unary .negate (.boolean true)).Path 1 1 (.boolean true) := .operand (.here _)
  obtain ⟨_, _, _, _, htree⟩ := recursion_bounded "-true"
  obtain ⟨hsize, _, hpaths, _⟩ := htree _ hparse
  exact ⟨hparse, hsize, hpath, (hpaths 1 1 _ hpath).1⟩

end Worksheet.Formula
