import Worksheet.Proofs.Range

/-!
# Counts that never wrap

The area of a range, a step of its walk and the count of the remaining positions are computed in
words of sixteen, thirty-two and sixty-four bits. This module computes them once more in natural
numbers, where each sum, difference and product is given only if the word holds it.

* `sum?`, `difference?` and `product?` are the operations that refuse to leave a word.
* `exactArea?_eq`, `exactSuccessor?_eq` and `exactRemaining?_eq` say that no operation refuses, and
  that the words hold the exact results.
-/

namespace Worksheet

/-! ## Operations that refuse to leave a word -/

/-- The sum of two numbers, if a word of so many bits holds it. -/
def sum? (bits m n : Nat) : Option Nat :=
  if m + n < 2 ^ bits then some (m + n) else none

/-- The difference of two numbers, unless it is negative. -/
def difference? (m n : Nat) : Option Nat :=
  if n ≤ m then some (m - n) else none

/-- The product of two numbers, if a word of so many bits holds it. -/
def product? (bits m n : Nat) : Option Nat :=
  if m * n < 2 ^ bits then some (m * n) else none

theorem sum?_of_lt {bits m n : Nat} (h : m + n < 2 ^ bits) : sum? bits m n = some (m + n) :=
  if_pos h

theorem difference?_of_le {m n : Nat} (h : n ≤ m) : difference? m n = some (m - n) :=
  if_pos h

theorem product?_of_lt {bits m n : Nat} (h : m * n < 2 ^ bits) :
    product? bits m n = some (m * n) :=
  if_pos h

namespace Range

/-! ## The area -/

/-- The area of a range, if no operation on the way leaves its word. -/
def exactArea? (range : Range) : Option Nat :=
  if range.isEmpty then some 0
  else do
    let rows ← sum? 64 (← difference? range.stop.row.toNat range.start.row.toNat) 1
    let cols ← sum? 64 (← difference? range.stop.col.toNat range.start.col.toNat) 1
    product? 64 rows cols

/-- The rows and columns of a range are few enough for their product to fit a word. -/
theorem mul_lt_two_pow {rows cols : Nat} (hrows : rows ≤ 2 ^ 32) (hcols : cols ≤ 2 ^ 16) :
    rows * cols < 2 ^ 64 :=
  calc rows * cols ≤ 2 ^ 32 * 2 ^ 16 := Nat.mul_le_mul hrows hcols
    _ < 2 ^ 64 := by decide

theorem toNat_area {range : Range} (h : ¬range.isEmpty = true) :
    range.area.toNat =
      (range.stop.row.toNat - range.start.row.toNat + 1) *
        (range.stop.col.toNat - range.start.col.toNat + 1) := by
  have hrow := range.stop.row.toNat_lt
  have hcol := range.stop.col.toNat_lt
  rw [area, if_neg h]
  rw [isEmpty_iff] at h
  have hrows : (range.stop.row.toUInt64 - range.start.row.toUInt64).toNat =
      range.stop.row.toNat - range.start.row.toNat :=
    UInt64.toNat_sub_of_le _ _ (UInt64.le_iff_toNat_le.mpr
      (by rw [UInt32.toNat_toUInt64, UInt32.toNat_toUInt64]; omega))
  have hcols : (range.stop.col.toUInt64 - range.start.col.toUInt64).toNat =
      range.stop.col.toNat - range.start.col.toNat :=
    UInt64.toNat_sub_of_le _ _ (UInt64.le_iff_toNat_le.mpr
      (by rw [UInt16.toNat_toUInt64, UInt16.toNat_toUInt64]; omega))
  simp only [UInt64.toNat_mul, UInt64.toNat_add, UInt64.toNat_one, hrows, hcols]
  rw [Nat.mod_eq_of_lt (a := range.stop.row.toNat - range.start.row.toNat + 1) (by omega),
    Nat.mod_eq_of_lt (a := range.stop.col.toNat - range.start.col.toNat + 1) (by omega),
    Nat.mod_eq_of_lt (mul_lt_two_pow (by omega) (by omega))]

theorem exactArea?_eq (range : Range) : range.exactArea? = some range.area.toNat := by
  unfold exactArea?
  split
  · next hempty =>
    rw [area, if_pos hempty]
    rfl
  · next hempty =>
    rw [toNat_area hempty]
    rw [isEmpty_iff] at hempty
    have hrow := range.stop.row.toNat_lt
    have hcol := range.stop.col.toNat_lt
    rw [difference?_of_le (by omega), difference?_of_le (by omega)]
    simp only [Option.bind_eq_bind, Option.bind_some]
    rw [sum?_of_lt (by omega), sum?_of_lt (by omega)]
    exact product?_of_lt (mul_lt_two_pow (by omega) (by omega))

/-! ## A step -/

/-- The coordinates of the position after `a`, if no operation on the way leaves its word. -/
def exactSuccessor? (range : Range) (a : Address) : Option (Option (Nat × Nat)) :=
  if a.col < range.stop.col then do
    let col ← sum? 16 a.col.toNat 1
    return some (a.row.toNat, col)
  else if a.row < range.stop.row then do
    let row ← sum? 32 a.row.toNat 1
    return some (row, range.start.col.toNat)
  else some none

theorem exactSuccessor?_eq (range : Range) (a : Address) :
    range.exactSuccessor? a =
      some ((range.successor? a).map fun next => (next.row.toNat, next.col.toNat)) := by
  have hrow := range.stop.row.toNat_lt
  have hcol := range.stop.col.toNat_lt
  unfold exactSuccessor? successor?
  split
  · next hnext =>
    have hsucc := toNat_col_succ hnext
    rw [UInt16.lt_iff_toNat_lt] at hnext
    rw [sum?_of_lt (by omega)]
    simp [hsucc]
  · split
    · next hnext =>
      have hsucc := toNat_row_succ hnext
      rw [UInt32.lt_iff_toNat_lt] at hnext
      rw [sum?_of_lt (by omega)]
      simp [hsucc]
    · rfl

/-! ## The remaining count -/

namespace Cursor

/-- The count of the remaining positions, if no operation on the way leaves its word. -/
def exactRemaining? (cursor : Cursor) : Option Nat :=
  match cursor.position with
  | none => some 0
  | some a => do
    let width ← sum? 64 (← difference? cursor.range.stop.col.toNat cursor.range.start.col.toNat) 1
    let rowsAfter ← difference? cursor.range.stop.row.toNat a.row.toNat
    let inRow ← sum? 64 (← difference? cursor.range.stop.col.toNat a.col.toNat) 1
    sum? 64 (← product? 64 rowsAfter width) inRow

theorem Inside.exactRemaining?_eq {cursor : Cursor} (h : cursor.Inside) :
    cursor.exactRemaining? = some cursor.remaining.toNat := by
  unfold exactRemaining?
  split
  · next hposition =>
    rw [remaining_of_position_eq_none hposition]
    rfl
  · next a hposition =>
    have ha := h a hposition
    rw [toNat_remaining hposition ha]
    rw [contains_iff] at ha
    have hrow := cursor.range.stop.row.toNat_lt
    have hcol := cursor.range.stop.col.toNat_lt
    rw [difference?_of_le (by omega), difference?_of_le (by omega), difference?_of_le (by omega)]
    simp only [Option.bind_eq_bind, Option.bind_some]
    rw [sum?_of_lt (by omega), sum?_of_lt (by omega)]
    simp only [Option.bind_some]
    have hbelow : (cursor.range.stop.row.toNat - a.row.toNat) *
        (cursor.range.stop.col.toNat - cursor.range.start.col.toNat + 1) ≤ 2 ^ 32 * 2 ^ 16 :=
      Nat.mul_le_mul (by omega) (by omega)
    rw [product?_of_lt (by omega)]
    exact sum?_of_lt (by omega)

end Cursor

end Range

end Worksheet
