import Worksheet.Formula.Value
import Worksheet.Proofs.Number.Difference
import Worksheet.Proofs.Number.Order

/-!
# Comparisons of expressions

Numbers that differ by no more than rounding count as equal, and the other comparisons give way to
that: what counts as equal is neither less nor greater. So the six comparisons agree with each
other as if the order of numbers were exact.

* `countsAsEqual_comm` says that it does not matter which number is compared with which.
* `countsAsEqual_of_isInf` and `countsAsEqual_of_isNaN` are the values without a tolerance.
* `BinaryOp.apply_exchanged`, `BinaryOp.apply_of_isNaN` and `BinaryOp.existsUnique_apply` are the
  comparisons of two numbers.
* `comparisons_consistent` is the statement about expressions.
-/

namespace Worksheet.Formula

open Float.Model.UnpackedFloat (unpack)
open Number (lt_iff_place_lt beq_iff_place_eq not_lt_of_isNaN beq_eq_false_of_isNaN)

section

variable {x y : Float}

/-! ## Numbers that count as equal -/

theorem isNaN_eq_false_of_isFinite (h : x.isFinite = true) : x.isNaN = false := by
  rw [Bool.eq_false_iff]
  intro hnan
  rw [Number.isNaN_iff_eq.mp hnan] at h
  exact absurd h (by decide)

theorem isNaN_eq_false_of_isInf (h : x.isInf = true) : x.isNaN = false := by
  rw [Bool.eq_false_iff]
  intro hnan
  rw [Number.isNaN_iff_eq.mp hnan] at h
  exact absurd h (by decide)

theorem isFinite_eq_false_of_isInf (h : x.isInf = true) : x.isFinite = false := by
  change (unpack .binary64 x.toBits.toBitVec).isInf = true at h
  show (unpack .binary64 x.toBits.toBitVec).isFinite = false
  cases hparts : unpack .binary64 x.toBits.toBitVec with
  | infinity sign => rfl
  | notANumber => rfl
  | zero sign | finite sign size power hsize =>
    rw [hparts] at h
    cases h

theorem beq_comm (x y : Float) : (x == y) = (y == x) := by
  by_cases hnan : x.isNaN = true ∨ y.isNaN = true
  · rw [beq_eq_false_of_isNaN hnan, beq_eq_false_of_isNaN hnan.symm]
  · simp only [not_or, Bool.not_eq_true] at hnan
    rw [Bool.eq_iff_iff, beq_iff_place_eq hnan.1 hnan.2, beq_iff_place_eq hnan.2 hnan.1, eq_comm]

theorem larger_abs_comm (hx : x.isNaN = false) (hy : y.isNaN = false) :
    larger x.abs y.abs = larger y.abs x.abs := by
  have hless : ∀ x y : Float, x.isNaN = false → y.isNaN = false →
      (x.abs < y.abs ↔ Number.pattern x < Number.pattern y) := by
    intro x y hx hy
    rw [lt_iff_place_lt (Number.isNaN_abs hx) (Number.isNaN_abs hy), Number.place_abs hx,
      Number.place_abs hy, Int.ofNat_lt]
  unfold larger
  rw [if_congr (hless x y hx hy) rfl rfl, if_congr (hless y x hy hx) rfl rfl]
  rcases lt_trichotomy (Number.pattern x) (Number.pattern y) with hlt | heq | hgt
  · rw [if_pos hlt, if_neg hlt.asymm]
  · rw [if_neg heq.not_lt, if_neg heq.not_gt, ← Number.ofPattern_pattern, heq,
      Number.ofPattern_pattern]
  · rw [if_neg hgt.asymm, if_pos hgt]

theorem countsAsEqual_comm (x y : Float) : countsAsEqual x y = countsAsEqual y x := by
  unfold countsAsEqual
  rw [beq_comm x y, Bool.or_comm (!x.isFinite)]
  split
  · rfl
  · split
    · rfl
    · next hfinite =>
      simp only [Bool.or_eq_true, Bool.not_eq_true', not_or, Bool.not_eq_false] at hfinite
      rw [Number.abs_difference_comm, larger_abs_comm (isNaN_eq_false_of_isFinite hfinite.2)
        (isNaN_eq_false_of_isFinite hfinite.1)]

/-- Nothing counts as equal to a value that is not finite but what is the same number. -/
theorem countsAsEqual_of_isFinite_eq_false (h : x.isFinite = false) :
    countsAsEqual x y = (x == y) := by
  rw [countsAsEqual, h, Bool.not_false, Bool.true_or, if_pos rfl]
  cases x == y <;> rfl

theorem countsAsEqual_of_isNaN (h : x.isNaN = true ∨ y.isNaN = true) :
    countsAsEqual x y = false := by
  rcases h with hx | hy
  · have hfinite : x.isFinite = false := by
      rw [Number.isNaN_iff_eq.mp hx]
      rfl
    rw [countsAsEqual_of_isFinite_eq_false hfinite, beq_eq_false_of_isNaN (.inl hx)]
  · have hfinite : y.isFinite = false := by
      rw [Number.isNaN_iff_eq.mp hy]
      rfl
    rw [countsAsEqual_comm, countsAsEqual_of_isFinite_eq_false hfinite,
      beq_eq_false_of_isNaN (.inl hy)]

/-- Infinity counts as equal to itself alone. -/
theorem countsAsEqual_of_isInf (h : x.isInf = true) : countsAsEqual x y = true ↔ x = y := by
  have hx := isNaN_eq_false_of_isInf h
  rw [countsAsEqual_of_isFinite_eq_false (isFinite_eq_false_of_isInf h)]
  constructor
  · intro heq
    have hy : y.isNaN = false := by
      rw [Bool.eq_false_iff]
      intro hnan
      rw [beq_eq_false_of_isNaN (.inr hnan)] at heq
      cases heq
    obtain hsame | ⟨hzero, -⟩ :=
      Number.eq_or_pattern_eq_zero_of_place_eq hx hy ((beq_iff_place_eq hx hy).mp heq)
    · exact hsame
    · rcases Number.pattern_eq_zero_iff.mp hzero with rfl | rfl <;> exact absurd h (by decide)
  · rintro rfl
    exact (beq_iff_place_eq hx hx).mpr rfl

/-! ## Comparisons of numbers -/

/-- Whether an operator is a comparison. -/
def BinaryOp.IsComparison (op : BinaryOp) : Prop :=
  op ∈ [less, lessEqual, equal, notEqual, greaterEqual, greater]

/-- The comparison that says the same of two operands when they are exchanged. -/
def BinaryOp.exchanged : BinaryOp → BinaryOp
  | less => greater
  | lessEqual => greaterEqual
  | greaterEqual => lessEqual
  | greater => less
  | op => op

namespace BinaryOp

variable {op : BinaryOp}

theorem IsComparison.cases (h : op.IsComparison) :
    op = less ∨ op = lessEqual ∨ op = equal ∨ op = notEqual ∨ op = greaterEqual ∨
      op = greater := by
  simpa [IsComparison] using h

theorem exists_apply_eq_boolean (h : op.IsComparison) (x y : Float) :
    ∃ value, op.apply x y = .boolean value := by
  rcases h.cases with rfl | rfl | rfl | rfl | rfl | rfl <;> exact ⟨_, rfl⟩

theorem apply_exchanged (h : op.IsComparison) (x y : Float) :
    op.exchanged.apply y x = op.apply x y := by
  rcases h.cases with rfl | rfl | rfl | rfl | rfl | rfl <;>
    simp only [exchanged, apply, countsAsEqual_comm y x]

theorem apply_of_isNaN (h : op.IsComparison) (hnan : x.isNaN = true ∨ y.isNaN = true) :
    op.apply x y = .boolean (op == notEqual) := by
  have hless := not_lt_of_isNaN hnan
  have hgreater := not_lt_of_isNaN hnan.symm
  rcases h.cases with rfl | rfl | rfl | rfl | rfl | rfl <;>
    simp [apply, countsAsEqual_of_isNaN hnan, hless, hgreater]

/-- Two numbers that do not count as equal are one below the other. -/
theorem lt_or_gt_of_countsAsEqual_eq_false (hx : x.isNaN = false) (hy : y.isNaN = false)
    (h : countsAsEqual x y = false) : x < y ∧ ¬y < x ∨ ¬x < y ∧ y < x := by
  have hne : Number.place x ≠ Number.place y := by
    rw [ne_eq, ← beq_iff_place_eq hx hy]
    intro hsame
    rw [countsAsEqual, if_pos hsame] at h
    cases h
  rw [lt_iff_place_lt hx hy, lt_iff_place_lt hy hx]
  omega

/-- Of two numbers the first is less, or they count as equal, or the first is greater. -/
theorem existsUnique_apply (hx : x.isNaN = false) (hy : y.isNaN = false) :
    ∃! op, op ∈ [less, equal, greater] ∧ op.apply x y = .boolean true := by
  cases hequal : countsAsEqual x y with
  | true =>
    refine ⟨equal, by simp [apply, hequal], ?_⟩
    rintro op ⟨hop, htrue⟩
    fin_cases hop
    · simp [apply, hequal] at htrue
    · rfl
    · simp [apply, hequal] at htrue
  | false =>
    obtain ⟨hless, hgreater⟩ | ⟨hless, hgreater⟩ := lt_or_gt_of_countsAsEqual_eq_false hx hy hequal
    · refine ⟨less, by simp [apply, hequal, hless], ?_⟩
      rintro op ⟨hop, htrue⟩
      fin_cases hop
      · rfl
      · simp [apply, hequal] at htrue
      · simp [apply, hequal, hgreater] at htrue
    · refine ⟨greater, by simp [apply, hequal, hgreater], ?_⟩
      rintro op ⟨hop, htrue⟩
      fin_cases hop
      · simp [apply, hequal, hless] at htrue
      · simp [apply, hequal] at htrue
      · rfl

theorem apply_lessEqual_iff (x y : Float) :
    lessEqual.apply x y = .boolean true ↔
      less.apply x y = .boolean true ∨ equal.apply x y = .boolean true := by
  cases hequal : countsAsEqual x y <;> simp [apply, hequal]

theorem apply_greaterEqual_iff (x y : Float) :
    greaterEqual.apply x y = .boolean true ↔
      greater.apply x y = .boolean true ∨ equal.apply x y = .boolean true := by
  cases hequal : countsAsEqual x y <;> simp [apply, hequal]

theorem apply_notEqual_iff (x y : Float) :
    notEqual.apply x y = .boolean true ↔ ¬equal.apply x y = .boolean true := by
  cases hequal : countsAsEqual x y <;> simp [apply, hequal]

theorem apply_equal_iff_of_isInf (h : x.isInf = true ∨ y.isInf = true) :
    equal.apply x y = .boolean true ↔ x = y := by
  rw [apply, Value.boolean.injEq]
  rcases h with hx | hy
  · exact countsAsEqual_of_isInf hx
  · rw [countsAsEqual_comm, countsAsEqual_of_isInf hy, eq_comm]

end BinaryOp

end

/-! ## Comparisons of expressions -/

/-- Whether an expression is true. -/
def Expr.IsTrue (e : Expr) : Prop :=
  e.eval = .boolean true

/-- The comparisons of two expressions agree with each other. Of two expressions whose values are
numbers, the first is less, or both are equal up to rounding, or the first is greater, and only one
of these; the other three comparisons follow from them; and the operands may be exchanged together
with the comparison. A value that is no number is different from everything, and no other
comparison with it is true. Infinity is equal to itself alone. -/
theorem comparisons_consistent (left right : Expr) :
    (∀ op : BinaryOp, op.IsComparison →
      (∃ value, (Expr.binary op left right).eval = .boolean value) ∧
      (Expr.binary op.exchanged right left).eval = (Expr.binary op left right).eval) ∧
    (left.eval.toNumber.isNaN = false → right.eval.toNumber.isNaN = false →
      ∃! op, op ∈ [.less, .equal, .greater] ∧ (Expr.binary op left right).IsTrue) ∧
    ((Expr.binary .lessEqual left right).IsTrue ↔
      (Expr.binary .less left right).IsTrue ∨ (Expr.binary .equal left right).IsTrue) ∧
    ((Expr.binary .greaterEqual left right).IsTrue ↔
      (Expr.binary .greater left right).IsTrue ∨ (Expr.binary .equal left right).IsTrue) ∧
    ((Expr.binary .notEqual left right).IsTrue ↔ ¬(Expr.binary .equal left right).IsTrue) ∧
    (left.eval.toNumber.isNaN = true ∨ right.eval.toNumber.isNaN = true →
      ∀ op : BinaryOp, op.IsComparison →
        ((Expr.binary op left right).IsTrue ↔ op = .notEqual)) ∧
    (left.eval.toNumber.isInf = true ∨ right.eval.toNumber.isInf = true →
      ((Expr.binary .equal left right).IsTrue ↔ left.eval.toNumber = right.eval.toNumber)) := by
  simp only [Expr.IsTrue, Expr.eval]
  refine ⟨fun op hop => ⟨BinaryOp.exists_apply_eq_boolean hop _ _,
      BinaryOp.apply_exchanged hop _ _⟩,
    BinaryOp.existsUnique_apply, BinaryOp.apply_lessEqual_iff _ _,
    BinaryOp.apply_greaterEqual_iff _ _, BinaryOp.apply_notEqual_iff _ _, ?_,
    BinaryOp.apply_equal_iff_of_isInf⟩
  intro hnan op hop
  rw [BinaryOp.apply_of_isNaN hop hnan, Value.boolean.injEq, beq_iff_eq]

/-- The sum of `0.1` and `0.2` is above `0.3` by no more than rounding, so it is equal to it, and
`>=` is true. The quotient `0/0` is different from itself, and infinity from its negative. -/
theorem comparisons_consistent_rounding :
    let sum : Expr := .binary .add (.number 0.1) (.number 0.2)
    let quotient : Expr := .binary .divide (.number 0) (.number 0)
    let infinity : Expr := .number Number.infinity
    ((∃! op, op ∈ [.less, .equal, .greater] ∧ (Expr.binary op sum (.number 0.3)).IsTrue) ∧
      (Expr.binary .greaterEqual sum (.number 0.3)).IsTrue) ∧
    (Expr.binary .notEqual quotient quotient).IsTrue ∧
      ¬(Expr.binary .equal infinity (.unary .negate infinity)).IsTrue := by
  intro sum quotient infinity
  obtain ⟨-, hunique, -, hgreaterEqual, -⟩ := comparisons_consistent sum (.number 0.3)
  obtain ⟨-, -, -, -, -, hnan, -⟩ := comparisons_consistent quotient quotient
  obtain ⟨-, -, -, -, -, -, hinfinity⟩ :=
    comparisons_consistent infinity (.unary .negate infinity)
  refine ⟨⟨hunique (by decide +kernel) (by decide +kernel), hgreaterEqual.mpr (.inr ?_)⟩,
    (hnan (.inl (by decide +kernel)) .notEqual (by simp [BinaryOp.IsComparison])).mpr rfl, ?_⟩
  · unfold Expr.IsTrue
    decide +kernel
  · rw [hinfinity (.inl (by decide +kernel))]
    decide +kernel

end Worksheet.Formula
