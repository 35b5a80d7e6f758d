import Worksheet.Proofs.Range.Exact
import Worksheet.Proofs.Snapshot
import Worksheet.Proofs.Steps

/-!
# What a walk yields

A walk is made by its calls. From its start it yields every position of the range, once and in
row-major order, and its count is exact before every call. A pass over the occupied cells yields
them in the same way, and what is still to come lies within its bounds.

* `Cursor.Inside.yields` and `Cursor.Inside.length_toList` are the two facts about a walk. The
  invariant is kept by every call (`Cursor.Inside.inside_stateAfter`), so both hold after any
  number of them.
* `Traversal.Inside` is the same invariant for a pass, and `Traversal.Inside.within_bounds` what
  its bounds promise.
* `yields_cursor` puts these together with the arithmetic that never wraps.
-/

namespace Worksheet

namespace Range

namespace Cursor

variable {cursor : Cursor}

/-- The calls of a walk yield the positions still to be visited. -/
theorem Inside.yields (h : cursor.Inside) : Yields next? cursor cursor.toList := by
  refine Inside.induction (P := fun cursor => Yields next? cursor cursor.toList) ?_ ?_ h
  · intro cursor hnext
    rw [toList_of_next?_eq_none hnext]
    exact yields_nil hnext
  · intro cursor a rest hinside hnext ih
    rw [toList_of_next? hinside hnext]
    exact ih.cons hnext

/-- The remaining count is the number of positions still to be visited. -/
theorem Inside.length_toList (h : cursor.Inside) :
    cursor.toList.length = cursor.remaining.toNat := by
  refine Inside.induction (P := fun cursor => cursor.toList.length = cursor.remaining.toNat)
    ?_ ?_ h
  · intro cursor hnext
    rw [toList_of_next?_eq_none hnext]
    simp only [next?, Option.map_eq_none_iff] at hnext
    rw [remaining_of_position_eq_none hnext]
    rfl
  · intro cursor a rest hinside hnext ih
    rw [toList_of_next? hinside hnext, List.length_cons, ih, toNat_remaining_step hinside hnext]

theorem Inside.inside_stateAfter (h : cursor.Inside) (calls : Nat) :
    (stateAfter next? calls cursor).Inside :=
  stateAfter_induction (fun _ _ _ hinside hnext => hinside.next hnext) h calls

theorem Inside.toList_stateAfter (h : cursor.Inside) (calls : Nat) :
    (stateAfter next? calls cursor).toList = cursor.toList.drop calls :=
  (h.inside_stateAfter calls).yields.unique (h.yields.drop calls)

end Cursor

/-- There are as many positions as the area says. -/
theorem length_toList_cursor (range : Range) :
    range.cursor.toList.length = range.area.toNat := by
  rw [(Cursor.inside_cursor range).length_toList]
  by_cases hempty : range.isEmpty = true
  · rw [Cursor.remaining_of_position_eq_none (if_pos hempty), area, if_pos hempty]
  · have hposition : range.cursor.position = some range.start := if_neg hempty
    have hstart := Cursor.inside_cursor range _ hposition
    rw [Cursor.toNat_remaining hposition hstart, toNat_area hempty, Nat.succ_mul]
    rfl

/-- A walk has nothing to visit exactly if the corners are reversed on some axis. -/
theorem toList_cursor_eq_nil_iff {range : Range} :
    range.cursor.toList = [] ↔
      range.stop.row < range.start.row ∨ range.stop.col < range.start.col := by
  rw [UInt32.lt_iff_toNat_lt, UInt16.lt_iff_toNat_lt, ← isEmpty_iff]
  constructor
  · intro hnil
    by_contra hempty
    have hstart : range.start ∈ range.cursor.toList :=
      mem_toList_cursor.mpr (Cursor.inside_cursor range _ (if_neg hempty))
    rw [hnil] at hstart
    exact List.not_mem_nil hstart
  · intro hempty
    have hnext : range.cursor.next? = none := by
      simp only [Cursor.next?, cursor, if_pos hempty, Option.map_none]
    exact Cursor.toList_of_next?_eq_none hnext

theorem contains_self_iff {a b : Address} : (⟨a, a⟩ : Range).contains b = true ↔ b = a := by
  rw [contains_iff, Address.eq_iff_toNat]
  dsimp only
  omega

/-- A walk from a position to itself visits it alone. -/
theorem toList_cursor_self (a : Address) : (⟨a, a⟩ : Range).cursor.toList = [a] := by
  have hnodup : (⟨a, a⟩ : Range).cursor.toList.Nodup :=
    (pairwise_toList_cursor _).imp Address.Before.ne
  refine List.perm_singleton.mp
    ((List.perm_ext_iff_of_nodup hnodup (List.nodup_singleton a)).mpr ?_)
  intro b
  rw [mem_toList_cursor, contains_self_iff, List.mem_singleton]

end Range

/-- The cell at a position that is read back is the one that is read from it to itself. -/
theorem Snapshot.cellsWithin_self {a : Address} (h : a.IsReadable) (cells : Snapshot) :
    cells.cellsWithin ⟨a, a⟩ = (cells.getAt? a).toList := by
  have hreadable : cells.ReadableWithin ⟨a, a⟩ := by
    intro b hb _
    rwa [Range.contains_self_iff.mp hb]
  rw [cellsWithin_eq_walk hreadable, walk, Range.toList_cursor_self]
  cases hcell : cells.getAt? a with
  | none => rw [List.filterMap_cons_none hcell, List.filterMap_nil, Option.toList_none]
  | some cell => rw [List.filterMap_cons_some hcell, List.filterMap_nil, Option.toList_some]

/-! ## Passes over occupied cells -/

namespace Traversal

/-- The calls of a pass yield the cells that it visits. -/
theorem Visits.yields {traversal : Traversal} {cells : List Cell}
    (h : traversal.Visits cells) : Yields next? traversal cells := by
  induction h with
  | done hnext => exact yields_nil hnext
  | step hnext _ ih => exact ih.cons hnext

/-- The invariant of a pass: if it looks up positions, its next one lies in the range. -/
def Inside : Traversal → Prop
  | stepwise _ cursor => cursor.Inside
  | picked _ => True

variable {traversal : Traversal}

theorem Inside.visits (h : traversal.Inside) : traversal.Visits traversal.toList := by
  cases traversal with
  | stepwise cells cursor => exact visits_stepwise h
  | picked cells => exact visits_picked cells

theorem Inside.next {rest : Traversal} {cell : Cell} (h : traversal.Inside)
    (hnext : traversal.next? = some (cell, rest)) : rest.Inside := by
  cases traversal with
  | stepwise cells cursor =>
    rw [next?, Option.map_eq_some_iff] at hnext
    obtain ⟨⟨found, after⟩, hfound, heq⟩ := hnext
    cases heq
    exact (Range.Cursor.findSome?_eq_some h hfound).1
  | picked cells =>
    cases cells with
    | nil => cases hnext
    | cons first others =>
      cases hnext
      trivial

/-- A pass that looks up positions may find nothing at them, and no more than one cell at each. -/
theorem Inside.within_bounds (h : traversal.Inside) :
    traversal.bounds.least ≤ traversal.toList.length ∧
      traversal.toList.length ≤ traversal.bounds.greatest := by
  cases traversal with
  | stepwise cells cursor =>
    refine ⟨Nat.zero_le _, ?_⟩
    calc (cursor.toList.filterMap cells.getAt?).length
        ≤ cursor.toList.length := List.length_filterMap_le _ _
      _ = cursor.remaining.toNat := Range.Cursor.Inside.length_toList h
  | picked cells => exact ⟨Nat.le_refl _, Nat.le_refl _⟩

theorem Inside.inside_stateAfter (h : traversal.Inside) (calls : Nat) :
    (stateAfter next? calls traversal).Inside :=
  stateAfter_induction (fun _ _ _ hinside hnext => hinside.next hnext) h calls

theorem Inside.toList_stateAfter (h : traversal.Inside) (calls : Nat) :
    (stateAfter next? calls traversal).toList = traversal.toList.drop calls :=
  (h.inside_stateAfter calls).visits.yields.unique (h.visits.yields.drop calls)

end Traversal

theorem Snapshot.inside_traversal (cells : Snapshot) (range : Range) :
    (cells.traversal range).Inside := by
  unfold traversal
  split
  · exact Range.Cursor.inside_cursor range
  · trivial

/-! ## The walk of a range -/

/-- The walk of a range yields exactly the positions of the range, in strict row-major order, as
many as the area says, and nothing from then on. After any number of calls its count is the number
of positions still to come. No operation on words leaves its word. A pass over the occupied cells
yields them, and after any number of calls its bounds enclose the number of those still to come. -/
theorem Range.yields_cursor (range : Range) :
    (Yields Cursor.next? range.cursor range.cursor.toList ∧
      (∀ a, a ∈ range.cursor.toList ↔ range.contains a = true) ∧
      range.cursor.toList.Pairwise Address.Before ∧
      range.cursor.toList.length = range.area.toNat ∧
      (range.cursor.toList = [] ↔
        range.stop.row < range.start.row ∨ range.stop.col < range.start.col)) ∧
    (∀ calls, let cursor := stateAfter Cursor.next? calls range.cursor
      Yields Cursor.next? cursor (range.cursor.toList.drop calls) ∧
        cursor.remaining.toNat = (range.cursor.toList.drop calls).length) ∧
    (∀ calls more, (stateAfter Cursor.next? calls range.cursor).next? = none →
      (stateAfter Cursor.next? (calls + more) range.cursor).next? = none) ∧
    (range.exactArea? = some range.area.toNat ∧
      (∀ a, range.exactSuccessor? a =
        some ((range.successor? a).map fun next => (next.row.toNat, next.col.toNat))) ∧
      ∀ calls, let cursor := stateAfter Cursor.next? calls range.cursor
        cursor.exactRemaining? = some cursor.remaining.toNat) ∧
    ∀ (cells : Snapshot) (calls : Nat),
      let traversal := stateAfter Traversal.next? calls (cells.traversal range)
      let ahead := (cells.cellsWithin range).drop calls
      Yields Traversal.next? traversal ahead ∧
        traversal.bounds.least ≤ ahead.length ∧ ahead.length ≤ traversal.bounds.greatest := by
  have hinside := Cursor.inside_cursor range
  refine ⟨⟨hinside.yields, fun a => mem_toList_cursor, pairwise_toList_cursor range,
    length_toList_cursor range, toList_cursor_eq_nil_iff⟩, ?_, ?_,
    ⟨exactArea?_eq range, exactSuccessor?_eq range, fun calls =>
      (hinside.inside_stateAfter calls).exactRemaining?_eq⟩, ?_⟩
  · intro calls cursor
    refine ⟨hinside.yields.drop calls, ?_⟩
    rw [← hinside.toList_stateAfter, (hinside.inside_stateAfter calls).length_toList]
  · intro calls more hnone
    rw [hinside.yields.next?_eq_none_iff] at hnone ⊢
    omega
  · intro cells calls traversal ahead
    have hpass := cells.inside_traversal range
    refine ⟨(cells.visits_cellsWithin range).yields.drop calls, ?_⟩
    have hahead : traversal.toList = ahead := hpass.toList_stateAfter calls
    rw [← hahead]
    exact (hpass.inside_stateAfter calls).within_bounds

/-- In the two last positions of the grid, the walk is over after two calls and stays so. -/
theorem Range.yields_cursor_lastPositions :
    let range : Range := ⟨⟨4294967295, 65534⟩, ⟨4294967295, 65535⟩⟩
    (stateAfter Cursor.next? 2 range.cursor).next? = none ∧
      (stateAfter Cursor.next? 9 range.cursor).next? = none := by
  intro range
  have hover : (stateAfter Cursor.next? 2 range.cursor).next? = none := by decide
  exact ⟨hover, (yields_cursor range).2.2.1 2 7 hover⟩

end Worksheet
