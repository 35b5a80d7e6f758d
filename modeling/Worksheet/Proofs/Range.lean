import Mathlib
import Worksheet.Range

/-!
# The walk of a range

A range is walked row by row. This module shows that the walk visits the positions of the range,
each once and in row-major order, and that the count of the remaining positions never wraps.

There are three groups.

* The order of positions. `Address.Before` is strict row-major order, and `rowMajorLE_iff` ties it
  to the order in which a sheet is listed.
* One step. `Cursor.Inside` is the invariant of the walk: the next position lies in the range.
  `successor?_spec` says that a step leads to the next position of the range, and
  `toNat_remaining_step` that it takes one off the remaining count.
* The whole walk. `mem_toList_iff` and `pairwise_toList` follow by induction on the count.
-/

namespace Worksheet

/-! ## The order of positions -/

/-- Strict row-major order: by row, and by column within a row. -/
def Address.Before (a b : Address) : Prop :=
  a.row < b.row ∨ a.row = b.row ∧ a.col < b.col

namespace Address

theorem before_iff_toNat {a b : Address} :
    a.Before b ↔
      a.row.toNat < b.row.toNat ∨ a.row.toNat = b.row.toNat ∧ a.col.toNat < b.col.toNat := by
  simp only [Before, UInt32.lt_iff_toNat_lt, UInt16.lt_iff_toNat_lt, UInt32.toNat_inj]

theorem eq_iff_toNat {a b : Address} :
    a = b ↔ a.row.toNat = b.row.toNat ∧ a.col.toNat = b.col.toNat := by
  obtain ⟨row, col⟩ := a
  obtain ⟨row', col'⟩ := b
  rw [Address.mk.injEq, UInt32.toNat_inj, UInt16.toNat_inj]

theorem Before.trans {a b c : Address} (hab : a.Before b) (hbc : b.Before c) : a.Before c := by
  rw [before_iff_toNat] at *
  omega

theorem Before.ne {a b : Address} (h : a.Before b) : a ≠ b := by
  rw [before_iff_toNat] at h
  rw [Ne, eq_iff_toNat]
  omega

theorem Before.not_before {a b : Address} (h : a.Before b) : ¬b.Before a := by
  rw [before_iff_toNat] at *
  omega

theorem rowMajorLE_iff {a b : Address} : a.rowMajorLE b = true ↔ ¬b.Before a := by
  simp only [rowMajorLE, Bool.or_eq_true, Bool.and_eq_true, decide_eq_true_eq, beq_iff_eq,
    before_iff_toNat, UInt32.lt_iff_toNat_lt, UInt16.le_iff_toNat_le, ← UInt32.toNat_inj]
  omega

theorem rowMajorLE_trans {a b c : Address} (hab : a.rowMajorLE b = true)
    (hbc : b.rowMajorLE c = true) : a.rowMajorLE c = true := by
  rw [rowMajorLE_iff, before_iff_toNat] at *
  omega

theorem rowMajorLE_total {a b : Address} : (a.rowMajorLE b || b.rowMajorLE a) = true := by
  rw [Bool.or_eq_true, rowMajorLE_iff, rowMajorLE_iff, before_iff_toNat, before_iff_toNat]
  omega

theorem before_of_rowMajorLE {a b : Address} (h : a.rowMajorLE b = true) (hne : a ≠ b) :
    a.Before b := by
  rw [rowMajorLE_iff, before_iff_toNat] at h
  rw [Ne, eq_iff_toNat] at hne
  rw [before_iff_toNat]
  omega

end Address

namespace Range

/-! ## One step of the walk -/

theorem contains_iff {range : Range} {a : Address} :
    range.contains a = true ↔
      (range.start.row.toNat ≤ a.row.toNat ∧ a.row.toNat ≤ range.stop.row.toNat) ∧
        range.start.col.toNat ≤ a.col.toNat ∧ a.col.toNat ≤ range.stop.col.toNat := by
  simp only [contains, Bool.and_eq_true, decide_eq_true_eq, ge_iff_le, UInt32.le_iff_toNat_le,
    UInt16.le_iff_toNat_le]
  omega

theorem isEmpty_iff {range : Range} :
    range.isEmpty = true ↔
      range.stop.row.toNat < range.start.row.toNat ∨
        range.stop.col.toNat < range.start.col.toNat := by
  simp only [isEmpty, Bool.or_eq_true, decide_eq_true_eq, gt_iff_lt, UInt32.lt_iff_toNat_lt,
    UInt16.lt_iff_toNat_lt]

theorem toNat_col_succ {a b : UInt16} (h : a < b) : (a + 1).toNat = a.toNat + 1 := by
  have hb := b.toNat_lt
  rw [UInt16.lt_iff_toNat_lt] at h
  rw [UInt16.toNat_add, UInt16.toNat_one]
  omega

theorem toNat_row_succ {a b : UInt32} (h : a < b) : (a + 1).toNat = a.toNat + 1 := by
  have hb := b.toNat_lt
  rw [UInt32.lt_iff_toNat_lt] at h
  rw [UInt32.toNat_add, UInt32.toNat_one]
  omega

/-- A step from a position of the range leads to the next one in row-major order. -/
theorem successor?_spec {range : Range} {a next : Address} (ha : range.contains a = true)
    (h : range.successor? a = some next) :
    range.contains next = true ∧
      ∀ b, range.contains b = true → (a.Before b ↔ ¬b.Before next) := by
  rw [contains_iff] at ha
  unfold successor? at h
  split at h
  · next hcol =>
    cases h
    have hsucc := toNat_col_succ hcol
    rw [UInt16.lt_iff_toNat_lt] at hcol
    constructor
    · rw [contains_iff]
      dsimp only
      omega
    · intro b hb
      rw [contains_iff] at hb
      rw [Address.before_iff_toNat, Address.before_iff_toNat]
      dsimp only
      omega
  · next hcol =>
    rw [UInt16.lt_iff_toNat_lt] at hcol
    split at h
    · next hrow =>
      cases h
      have hsucc := toNat_row_succ hrow
      rw [UInt32.lt_iff_toNat_lt] at hrow
      constructor
      · rw [contains_iff]
        dsimp only
        omega
      · intro b hb
        rw [contains_iff] at hb
        rw [Address.before_iff_toNat, Address.before_iff_toNat]
        dsimp only
        omega
    · cases h

/-- The walk ends at the last position of the range. -/
theorem not_before_of_successor?_eq_none {range : Range} {a b : Address}
    (h : range.successor? a = none) (hb : range.contains b = true) : ¬a.Before b := by
  unfold successor? at h
  split at h
  · cases h
  · next hcol =>
    split at h
    · cases h
    · next hrow =>
      rw [UInt16.lt_iff_toNat_lt] at hcol
      rw [UInt32.lt_iff_toNat_lt] at hrow
      rw [contains_iff] at hb
      rw [Address.before_iff_toNat]
      omega

namespace Cursor

/-- The invariant of the walk: the next position lies in the range. -/
def Inside (cursor : Cursor) : Prop :=
  ∀ a, cursor.position = some a → cursor.range.contains a = true

theorem inside_cursor (range : Range) : range.cursor.Inside := by
  intro a ha
  unfold Range.cursor at ha
  dsimp only at ha
  split at ha
  · cases ha
  · next hempty =>
    cases ha
    rw [isEmpty_iff] at hempty
    rw [contains_iff]
    dsimp only [Range.cursor]
    omega

theorem Inside.next {cursor rest : Cursor} {a : Address} (h : cursor.Inside)
    (hnext : cursor.next? = some (a, rest)) : rest.Inside := by
  simp only [next?, Option.map_eq_some_iff, Prod.mk.injEq] at hnext
  obtain ⟨position, hposition, rfl, rfl⟩ := hnext
  intro b hb
  exact (successor?_spec (h position hposition) hb).1

/-! ## The remaining count -/

theorem remaining_of_position_eq_none {cursor : Cursor} (h : cursor.position = none) :
    cursor.remaining = 0 := by
  simp [remaining, h]

/-- The count of the remaining positions, in which nothing wraps: the positions of the rows below,
and those left in the row of the next position. -/
theorem toNat_remaining {cursor : Cursor} {a : Address} (hposition : cursor.position = some a)
    (ha : cursor.range.contains a = true) :
    cursor.remaining.toNat =
      (cursor.range.stop.row.toNat - a.row.toNat) *
          (cursor.range.stop.col.toNat - cursor.range.start.col.toNat + 1) +
        (cursor.range.stop.col.toNat - a.col.toNat + 1) := by
  rw [contains_iff] at ha
  have hrowBound := cursor.range.stop.row.toNat_lt
  have hcolBound := cursor.range.stop.col.toNat_lt
  have hwidth : (cursor.range.stop.col - cursor.range.start.col).toNat =
      cursor.range.stop.col.toNat - cursor.range.start.col.toNat :=
    UInt16.toNat_sub_of_le _ _ (UInt16.le_iff_toNat_le.mpr (by omega))
  have hrows : (cursor.range.stop.row - a.row).toNat =
      cursor.range.stop.row.toNat - a.row.toNat :=
    UInt32.toNat_sub_of_le _ _ (UInt32.le_iff_toNat_le.mpr (by omega))
  have hinRow : (cursor.range.stop.col - a.col).toNat =
      cursor.range.stop.col.toNat - a.col.toNat :=
    UInt16.toNat_sub_of_le _ _ (UInt16.le_iff_toNat_le.mpr (by omega))
  have hproduct : (cursor.range.stop.row.toNat - a.row.toNat) *
      (cursor.range.stop.col.toNat - cursor.range.start.col.toNat + 1) ≤ 2 ^ 32 * 2 ^ 16 :=
    Nat.mul_le_mul (by omega) (by omega)
  simp only [remaining, hposition, UInt64.toNat_add, UInt64.toNat_mul, UInt16.toNat_toUInt64,
    UInt32.toNat_toUInt64, UInt64.toNat_one, hwidth, hrows, hinRow]
  have hwidthSmall : (cursor.range.stop.col.toNat - cursor.range.start.col.toNat + 1) % 2 ^ 64 =
      cursor.range.stop.col.toNat - cursor.range.start.col.toNat + 1 :=
    Nat.mod_eq_of_lt (by omega)
  rw [hwidthSmall]
  generalize (cursor.range.stop.row.toNat - a.row.toNat) *
    (cursor.range.stop.col.toNat - cursor.range.start.col.toNat + 1) = product at hproduct ⊢
  omega

/-- A step takes one off the remaining count. -/
theorem toNat_remaining_step {cursor rest : Cursor} {a : Address} (h : cursor.Inside)
    (hnext : cursor.next? = some (a, rest)) :
    cursor.remaining.toNat = rest.remaining.toNat + 1 := by
  have hrest := h.next hnext
  simp only [next?, Option.map_eq_some_iff, Prod.mk.injEq] at hnext
  obtain ⟨position, hposition, rfl, rfl⟩ := hnext
  have ha := h position hposition
  have hcontains := contains_iff.mp ha
  rw [toNat_remaining hposition ha]
  unfold Inside at hrest
  dsimp only at hrest
  cases hsucc : cursor.range.successor? position with
  | none =>
    rw [remaining_of_position_eq_none (by rfl)]
    have hlast := not_before_of_successor?_eq_none hsucc (b := cursor.range.stop)
    rw [contains_iff, Address.before_iff_toNat] at hlast
    have hrow : cursor.range.stop.row.toNat - position.row.toNat = 0 := by omega
    have hcol : cursor.range.stop.col.toNat - position.col.toNat = 0 := by omega
    rw [hrow, hcol]
    simp
  | some next =>
    rw [@toNat_remaining ⟨cursor.range, some next⟩ next rfl (hrest next hsucc)]
    dsimp only
    unfold successor? at hsucc
    split at hsucc
    · next hcol =>
      cases hsucc
      have hnextCol := toNat_col_succ hcol
      rw [UInt16.lt_iff_toNat_lt] at hcol
      dsimp only
      omega
    · next hcol =>
      split at hsucc
      · next hrow =>
        cases hsucc
        have hnextRow := toNat_row_succ hrow
        rw [UInt32.lt_iff_toNat_lt] at hrow
        rw [UInt16.lt_iff_toNat_lt] at hcol
        have hrows : cursor.range.stop.row.toNat - position.row.toNat =
            cursor.range.stop.row.toNat - (position.row.toNat + 1) + 1 := by omega
        dsimp only
        rw [hnextRow, hrows, Nat.succ_mul]
        omega
      · cases hsucc

/-! ## The whole walk -/

theorem toList_of_next?_eq_none {cursor : Cursor} (h : cursor.next? = none) :
    cursor.toList = [] := by
  simp only [next?, Option.map_eq_none_iff] at h
  simp [toList, remaining_of_position_eq_none h, take]

theorem toList_of_next? {cursor rest : Cursor} {a : Address} (h : cursor.Inside)
    (hnext : cursor.next? = some (a, rest)) : cursor.toList = a :: rest.toList := by
  rw [toList, toNat_remaining_step h hnext, take, hnext]
  rfl

/-- What holds at the end of a walk, and is carried back over every step, holds of every walk. -/
theorem Inside.induction {P : Cursor → Prop} (hdone : ∀ cursor, cursor.next? = none → P cursor)
    (hstep : ∀ cursor a rest, cursor.Inside → cursor.next? = some (a, rest) → P rest → P cursor)
    {cursor : Cursor} (h : cursor.Inside) : P cursor := by
  generalize hcount : cursor.remaining.toNat = count
  induction count generalizing cursor with
  | zero =>
    cases hnext : cursor.next? with
    | none => exact hdone cursor hnext
    | some step =>
      have hremaining := toNat_remaining_step h hnext
      omega
  | succ count ih =>
    cases hnext : cursor.next? with
    | none => exact hdone cursor hnext
    | some step =>
      obtain ⟨a, rest⟩ := step
      have hremaining := toNat_remaining_step h hnext
      exact hstep cursor a rest h hnext (ih (h.next hnext) (by omega))

/-- The positions ahead of a walk: those of the range that do not come before the next one. -/
def Ahead (cursor : Cursor) (a : Address) : Prop :=
  ∃ next, cursor.position = some next ∧ cursor.range.contains a = true ∧ ¬a.Before next

theorem ahead_step {cursor rest : Cursor} {next : Address} (h : cursor.Inside)
    (hnext : cursor.next? = some (next, rest)) (a : Address) :
    cursor.Ahead a ↔ a = next ∨ rest.Ahead a := by
  simp only [next?, Option.map_eq_some_iff, Prod.mk.injEq] at hnext
  obtain ⟨next, hposition, rfl, rfl⟩ := hnext
  have hinside := h _ hposition
  constructor
  · rintro ⟨_, hnow, ha, hbefore⟩
    rw [hposition] at hnow
    cases hnow
    by_cases heq : a = next
    · exact Or.inl heq
    · have hle : next.rowMajorLE a = true := Address.rowMajorLE_iff.mpr hbefore
      have hlater : next.Before a := Address.before_of_rowMajorLE hle (Ne.symm heq)
      cases hsucc : cursor.range.successor? next with
      | none => exact absurd hlater (not_before_of_successor?_eq_none hsucc ha)
      | some after =>
        have hafter := ((successor?_spec hinside hsucc).2 a ha).mp hlater
        exact Or.inr ⟨after, rfl, ha, hafter⟩
  · rintro (rfl | ⟨after, hsucc, ha, hafter⟩)
    · exact ⟨a, hposition, hinside, fun hself => hself.ne rfl⟩
    · have hlater := ((successor?_spec hinside hsucc).2 a ha).mpr hafter
      exact ⟨next, hposition, ha, hlater.not_before⟩

/-- A walk visits what is ahead of it. -/
theorem mem_toList_iff {cursor : Cursor} (h : cursor.Inside) (a : Address) :
    a ∈ cursor.toList ↔ cursor.Ahead a := by
  refine Inside.induction (P := fun cursor => a ∈ cursor.toList ↔ cursor.Ahead a) ?_ ?_ h
  · intro cursor hnext
    rw [toList_of_next?_eq_none hnext]
    simp only [next?, Option.map_eq_none_iff] at hnext
    simp [Ahead, hnext]
  · intro cursor next rest hinside hnext ih
    rw [toList_of_next? hinside hnext, List.mem_cons, ih, ahead_step hinside hnext]

/-- A walk goes in row-major order, and so visits no position twice. -/
theorem pairwise_toList {cursor : Cursor} (h : cursor.Inside) :
    cursor.toList.Pairwise Address.Before := by
  refine Inside.induction (P := fun cursor => cursor.toList.Pairwise Address.Before) ?_ ?_ h
  · intro cursor hnext
    rw [toList_of_next?_eq_none hnext]
    exact List.Pairwise.nil
  · intro cursor next rest hinside hnext ih
    rw [toList_of_next? hinside hnext, List.pairwise_cons]
    refine ⟨fun a ha => ?_, ih⟩
    rw [mem_toList_iff (hinside.next hnext)] at ha
    simp only [next?, Option.map_eq_some_iff, Prod.mk.injEq] at hnext
    obtain ⟨_, hposition, rfl, rfl⟩ := hnext
    obtain ⟨after, hsucc, hcontains, hafter⟩ := ha
    exact ((successor?_spec (hinside _ hposition) hsucc).2 a hcontains).mpr hafter

end Cursor

/-- The walk of a range visits exactly the positions of the range. -/
theorem mem_toList_cursor {range : Range} {a : Address} :
    a ∈ range.cursor.toList ↔ range.contains a = true := by
  rw [Cursor.mem_toList_iff (Cursor.inside_cursor range)]
  constructor
  · rintro ⟨next, -, ha, -⟩
    exact ha
  · intro ha
    have hbounds := contains_iff.mp ha
    have hempty : ¬range.isEmpty = true := by
      rw [isEmpty_iff]
      omega
    refine ⟨range.start, if_neg hempty, ha, ?_⟩
    rw [Address.before_iff_toNat]
    omega

theorem pairwise_toList_cursor (range : Range) :
    range.cursor.toList.Pairwise Address.Before :=
  Cursor.pairwise_toList (Cursor.inside_cursor range)

end Range

end Worksheet
