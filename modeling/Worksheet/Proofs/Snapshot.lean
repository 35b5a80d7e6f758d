import Mathlib
import Worksheet.Proofs.Address
import Worksheet.Proofs.Range
import Worksheet.Snapshot.Traversal

/-!
# The two ways through a range

The cells of a range are found by looking up its positions, or by picking the stored names that lie
in it, whichever takes fewer steps. This module compares both with `Snapshot.walk`, the plain way
that looks up every position.

There are three groups, behind two facts about the stored entries: `get?_eq_some_iff` ties the
look-up to them, and `size_insert` counts them.

* The steps of a pass. `Traversal.Visits` says which cells a pass visits, step after step, and
  `visits_cellsWithin` that `cellsWithin` lists the cells of the chosen pass.
* The pick. `pick_eq_filterMap` says that picking looks up the readable positions, and no others.
* The comparison. `cellsWithin_eq_walk_iff` is the exact condition under which the choice of the
  way does not show: no occupied position of the range is unreadable. The last row of the grid and
  the columns without a letter break it.
-/

namespace Worksheet

namespace Snapshot

theorem get?_eq_some_iff {cells : Snapshot} {name : String} {cell : Cell} :
    cells.get? name = some cell ↔ (name, cell) ∈ cells.entries := by
  obtain ⟨entries, hnodup⟩ := cells
  simp only [get?]
  induction entries with
  | nil => simp
  | cons entry rest ih =>
    obtain ⟨key, stored⟩ := entry
    simp only [List.map_cons, List.nodup_cons] at hnodup
    by_cases hkey : key = name
    · subst hkey
      have hfresh : (key, cell) ∉ rest := fun hmem =>
        hnodup.1 (List.mem_map_of_mem hmem)
      simp [hfresh, eq_comm]
    · have hname : name ≠ key := Ne.symm hkey
      simp [hkey, hname, ih hnodup.2]

theorem mem_map_fst_iff {cells : Snapshot} {name : String} :
    name ∈ cells.entries.map Prod.fst ↔ cells.contains name = true := by
  rw [contains, Option.isSome_iff_exists, List.mem_map]
  constructor
  · rintro ⟨⟨_, cell⟩, hentry, rfl⟩
    exact ⟨cell, get?_eq_some_iff.mpr hentry⟩
  · rintro ⟨cell, hcell⟩
    exact ⟨(name, cell), get?_eq_some_iff.mp hcell, rfl⟩

/-- A cell that is put under a new name is one cell more. -/
theorem size_insert (cells : Snapshot) (name : String) (cell : Cell) :
    (cells.insert name cell).size =
      if cells.contains name then cells.size else cells.size + 1 := by
  have herased : (cells.erase name).entries.length =
      ((cells.entries.map Prod.fst).erase name).length := by
    rw [cells.nodup.erase_eq_filter, List.filter_map, List.length_map]
    rfl
  rw [size, insert, List.length_append, List.length_singleton, herased, List.length_erase,
    List.length_map, size]
  split
  · next hmem =>
    have hpos := List.length_pos_of_mem hmem
    rw [List.length_map] at hpos
    rw [if_pos (mem_map_fst_iff.mp hmem)]
    omega
  · next hfresh => rw [if_neg (fun hname => hfresh (mem_map_fst_iff.mpr hname))]

/-- The plain way through a range: every position is looked up, row by row. -/
def walk (cells : Snapshot) (range : Range) : List Cell :=
  range.cursor.toList.filterMap cells.getAt?

end Snapshot

/-! ## The steps of a pass -/

namespace Range.Cursor

theorem findSome?_eq_none {α : Type} {f : Address → Option α} {cursor : Cursor}
    (hinside : cursor.Inside) (h : cursor.findSome? f cursor.remaining.toNat = none) :
    cursor.toList.filterMap f = [] := by
  revert h
  refine Inside.induction (P := fun cursor =>
    cursor.findSome? f cursor.remaining.toNat = none →
      cursor.toList.filterMap f = []) ?_ ?_ hinside
  · intro cursor hnext _
    rw [toList_of_next?_eq_none hnext, List.filterMap_nil]
  · intro cursor a rest hinside hnext ih h
    rw [toNat_remaining_step hinside hnext, findSome?, hnext] at h
    dsimp only at h
    cases hfound : f a with
    | none =>
      rw [hfound] at h
      rw [toList_of_next? hinside hnext, List.filterMap_cons_none hfound]
      exact ih h
    | some found =>
      rw [hfound] at h
      cases h

theorem findSome?_eq_some {α : Type} {f : Address → Option α} {cursor rest : Cursor} {found : α}
    (hinside : cursor.Inside)
    (h : cursor.findSome? f cursor.remaining.toNat = some (found, rest)) :
    rest.Inside ∧ cursor.toList.filterMap f = found :: rest.toList.filterMap f := by
  revert h
  refine Inside.induction (P := fun cursor =>
    cursor.findSome? f cursor.remaining.toNat = some (found, rest) →
      rest.Inside ∧ cursor.toList.filterMap f = found :: rest.toList.filterMap f) ?_ ?_ hinside
  · intro cursor hnext h
    simp only [next?, Option.map_eq_none_iff] at hnext
    rw [remaining_of_position_eq_none hnext] at h
    cases h
  · intro cursor a after hinside hnext ih h
    rw [toNat_remaining_step hinside hnext, findSome?, hnext] at h
    dsimp only at h
    rw [toList_of_next? hinside hnext]
    cases hfound : f a with
    | none =>
      rw [hfound] at h
      rw [List.filterMap_cons_none hfound]
      exact ih h
    | some value =>
      rw [hfound] at h
      cases h
      exact ⟨hinside.next hnext, List.filterMap_cons_some hfound⟩

end Range.Cursor

namespace Traversal

/-- A pass visits these cells, step after step, until no step is left. -/
inductive Visits : Traversal → List Cell → Prop where
  | done {traversal : Traversal} (hnext : traversal.next? = none) : Visits traversal []
  | step {traversal rest : Traversal} {cell : Cell} {cells : List Cell}
      (hnext : traversal.next? = some (cell, rest)) (hrest : Visits rest cells) :
      Visits traversal (cell :: cells)

theorem visits_picked (cells : List Cell) : Visits (.picked cells) cells := by
  induction cells with
  | nil => exact .done rfl
  | cons cell rest ih => exact .step rfl ih

/-- A pass that looks up positions visits the cells that it finds on its walk. -/
theorem visits_stepwise {cells : Snapshot} {cursor : Range.Cursor} (h : cursor.Inside) :
    Visits (.stepwise cells cursor) (cursor.toList.filterMap cells.getAt?) := by
  generalize hfound : cursor.toList.filterMap cells.getAt? = found
  induction found generalizing cursor with
  | nil =>
    cases hstep : cursor.findSome? cells.getAt? cursor.remaining.toNat with
    | none => exact .done (by simp [next?, hstep])
    | some step =>
      have hsome := (Range.Cursor.findSome?_eq_some h hstep).2
      rw [hfound] at hsome
      cases hsome
  | cons cell others ih =>
    cases hstep : cursor.findSome? cells.getAt? cursor.remaining.toNat with
    | none =>
      rw [Range.Cursor.findSome?_eq_none h hstep] at hfound
      cases hfound
    | some step =>
      obtain ⟨first, rest⟩ := step
      obtain ⟨hrest, hsome⟩ := Range.Cursor.findSome?_eq_some h hstep
      rw [hfound, List.cons.injEq] at hsome
      obtain ⟨rfl, hothers⟩ := hsome
      exact .step (by simp [next?, hstep]) (ih hrest hothers.symm)

end Traversal

namespace Snapshot

/-- The cells of a range are those that the chosen pass visits. -/
theorem visits_cellsWithin (cells : Snapshot) (range : Range) :
    (cells.traversal range).Visits (cells.cellsWithin range) := by
  unfold cellsWithin traversal
  split
  · exact Traversal.visits_stepwise (Range.Cursor.inside_cursor range)
  · exact Traversal.visits_picked _

/-! ## The pick -/

/-- The stored cells that lie in a range and can be read back, with their positions, in the order
in which they are stored. -/
def found (cells : Snapshot) (range : Range) : List (Address × Cell) :=
  cells.entries.filterMap fun (name, cell) =>
    match Address.parse? name with
    | some address =>
      if range.contains address && address.text == name then some (address, cell) else none
    | none => none

theorem pick_eq_map_found (cells : Snapshot) (range : Range) :
    cells.pick range =
      ((cells.found range).mergeSort fun a b => a.1.rowMajorLE b.1).map Prod.snd :=
  rfl

/-- A stored name is found if it is the written name of a readable position of the range. -/
theorem found_entry_iff {range : Range} {name : String} {cell : Cell} {hit : Address × Cell} :
    (match Address.parse? name with
      | some address =>
        if range.contains address && address.text == name then some (address, cell) else none
      | none => none) = some hit ↔
      name = hit.1.text ∧ cell = hit.2 ∧ hit.1.IsReadable ∧ range.contains hit.1 = true := by
  obtain ⟨a, stored⟩ := hit
  constructor
  · intro h
    split at h
    · next address hparse =>
      split at h
      · next hhit =>
        rw [Bool.and_eq_true, beq_iff_eq] at hhit
        obtain ⟨hcontains, rfl⟩ := hhit
        cases h
        rw [Address.parse?_text] at hparse
        split at hparse
        · next hreadable => exact ⟨rfl, rfl, hreadable, hcontains⟩
        · cases hparse
      · cases h
    · cases h
  · rintro ⟨rfl, rfl, hreadable, hcontains⟩
    simp [Address.parse?_text, hreadable, hcontains]

theorem mem_found_iff {cells : Snapshot} {range : Range} {a : Address} {cell : Cell} :
    (a, cell) ∈ cells.found range ↔
      (a.IsReadable ∧ range.contains a = true) ∧ cells.getAt? a = some cell := by
  rw [found, List.mem_filterMap, getAt?, get?_eq_some_iff]
  constructor
  · rintro ⟨⟨name, stored⟩, hentry, hfound⟩
    obtain ⟨rfl, rfl, hreadable, hcontains⟩ := found_entry_iff.mp hfound
    exact ⟨⟨hreadable, hcontains⟩, hentry⟩
  · rintro ⟨⟨hreadable, hcontains⟩, hentry⟩
    exact ⟨_, hentry, found_entry_iff.mpr ⟨rfl, rfl, hreadable, hcontains⟩⟩

/-- No two finds are at one position, since no two stored names are equal. -/
theorem pairwise_found (cells : Snapshot) (range : Range) :
    (cells.found range).Pairwise fun p q => p.1 ≠ q.1 := by
  refine List.Pairwise.filterMap _ ?_ (List.pairwise_map.mp cells.nodup)
  rintro ⟨name, cell⟩ ⟨name', cell'⟩ hne hit hhit hit' hhit' heq
  rw [found_entry_iff] at hhit hhit'
  exact hne (by rw [hhit.1, hhit'.1, heq])

theorem pairwise_sorted_found (cells : Snapshot) (range : Range) :
    ((cells.found range).mergeSort fun p q => p.1.rowMajorLE q.1).Pairwise
      fun p q => p.1.Before q.1 := by
  have hsorted : ((cells.found range).mergeSort fun p q => p.1.rowMajorLE q.1).Pairwise
      fun p q => p.1.rowMajorLE q.1 = true :=
    List.pairwise_mergeSort (fun p q r => @Address.rowMajorLE_trans p.1 q.1 r.1)
      (fun p q => @Address.rowMajorLE_total p.1 q.1) _
  have hdistinct : ((cells.found range).mergeSort fun p q => p.1.rowMajorLE q.1).Pairwise
      fun p q => p.1 ≠ q.1 :=
    (List.mergeSort_perm _ _).symm.pairwise (pairwise_found cells range) Ne.symm
  exact (hsorted.and hdistinct).imp fun h => Address.before_of_rowMajorLE h.1 h.2

/-- The cells at the given positions, each with its position. -/
def hits (cells : Snapshot) (positions : List Address) : List (Address × Cell) :=
  positions.filterMap fun a => (cells.getAt? a).map fun cell => (a, cell)

theorem map_hits (cells : Snapshot) (positions : List Address) :
    (cells.hits positions).map Prod.snd = positions.filterMap cells.getAt? := by
  rw [hits, List.map_filterMap]
  congr 1
  funext a
  cases cells.getAt? a <;> rfl

theorem mem_hits_iff {cells : Snapshot} {positions : List Address} {a : Address} {cell : Cell} :
    (a, cell) ∈ cells.hits positions ↔ a ∈ positions ∧ cells.getAt? a = some cell := by
  simp only [hits, List.mem_filterMap, Option.map_eq_some_iff, Prod.mk.injEq]
  constructor
  · rintro ⟨b, hb, stored, hstored, rfl, rfl⟩
    exact ⟨hb, hstored⟩
  · rintro ⟨ha, hcell⟩
    exact ⟨a, ha, cell, hcell, rfl, rfl⟩

theorem pairwise_hits (cells : Snapshot) {positions : List Address}
    (h : positions.Pairwise Address.Before) :
    (cells.hits positions).Pairwise fun p q => p.1.Before q.1 := by
  refine List.Pairwise.filterMap _ ?_ h
  intro a b hbefore p hp q hq
  obtain ⟨_, _, rfl⟩ := Option.map_eq_some_iff.mp hp
  obtain ⟨_, _, rfl⟩ := Option.map_eq_some_iff.mp hq
  exact hbefore

/-- Lists in strict row-major order are equal if they have the same entries. -/
theorem eq_of_pairwise_before {xs ys : List (Address × Cell)}
    (hxs : xs.Pairwise fun p q => p.1.Before q.1) (hys : ys.Pairwise fun p q => p.1.Before q.1)
    (hmem : ∀ p, p ∈ xs ↔ p ∈ ys) : xs = ys := by
  have hne : ∀ {p q : Address × Cell}, p.1.Before q.1 → p ≠ q := fun hbefore heq =>
    hbefore.ne (congrArg Prod.fst heq)
  have hperm : xs.Perm ys :=
    (List.perm_ext_iff_of_nodup (hxs.imp hne) (hys.imp hne)).mpr hmem
  exact hperm.eq_of_pairwise (fun p q _ _ hpq hqp => absurd hqp hpq.not_before) hxs hys

/-- Picking the stored names of a range is looking up its readable positions, row by row. -/
theorem pick_eq_filterMap (cells : Snapshot) (range : Range) :
    cells.pick range =
      (range.cursor.toList.filter fun a => a.IsReadable).filterMap cells.getAt? := by
  rw [pick_eq_map_found, ← map_hits]
  refine congrArg _ (eq_of_pairwise_before (pairwise_sorted_found cells range)
    (pairwise_hits cells ((Range.pairwise_toList_cursor range).filter _)) ?_)
  rintro ⟨a, cell⟩
  rw [List.mem_mergeSort, mem_found_iff, mem_hits_iff, List.mem_filter,
    Range.mem_toList_cursor, decide_eq_true_iff, and_comm (a := a.IsReadable)]

/-! ## The comparison -/

/-- Leaving out some elements before a search changes what is found, unless nothing is found at
them. -/
theorem filterMap_filter_eq_iff {α β : Type} (p : α → Bool) (f : α → Option β) (xs : List α) :
    (xs.filter p).filterMap f = xs.filterMap f ↔ ∀ x ∈ xs, (f x).isSome = true → p x = true := by
  induction xs with
  | nil => simp
  | cons x xs ih =>
    have hle : ((xs.filter p).filterMap f).length ≤ (xs.filterMap f).length :=
      (List.filter_sublist.filterMap f).length_le
    rw [List.forall_mem_cons, ← ih]
    by_cases hp : p x = true
    · rw [List.filter_cons_of_pos hp, List.filterMap_cons, List.filterMap_cons]
      cases f x with
      | none => simp
      | some y => simp [hp]
    · rw [List.filter_cons_of_neg hp, List.filterMap_cons]
      cases f x with
      | none => simp
      | some y =>
        have hlonger : (xs.filter p).filterMap f ≠ y :: xs.filterMap f := fun heq => by
          have hlength := congrArg List.length heq
          rw [List.length_cons] at hlength
          omega
        simp [hp, hlonger]

/-- Whether every occupied position of a range is readable. -/
def ReadableWithin (cells : Snapshot) (range : Range) : Prop :=
  ∀ a, range.contains a = true → (cells.getAt? a).isSome = true → a.IsReadable

theorem pick_eq_walk_iff (cells : Snapshot) (range : Range) :
    cells.pick range = cells.walk range ↔ cells.ReadableWithin range := by
  rw [pick_eq_filterMap, walk, filterMap_filter_eq_iff]
  simp only [Range.mem_toList_cursor, decide_eq_true_iff, ReadableWithin]

theorem cellsWithin_of_area_le {cells : Snapshot} {range : Range}
    (h : range.area.toNat ≤ cells.size) : cells.cellsWithin range = cells.walk range := by
  rw [cellsWithin, traversal, if_pos h]
  rfl

theorem cellsWithin_of_lt_area {cells : Snapshot} {range : Range}
    (h : ¬range.area.toNat ≤ cells.size) : cells.cellsWithin range = cells.pick range := by
  rw [cellsWithin, traversal, if_neg h]
  rfl

theorem cellsWithin_eq_walk {cells : Snapshot} {range : Range} (h : cells.ReadableWithin range) :
    cells.cellsWithin range = cells.walk range := by
  by_cases harea : range.area.toNat ≤ cells.size
  · exact cellsWithin_of_area_le harea
  · rw [cellsWithin_of_lt_area harea, (pick_eq_walk_iff cells range).mpr h]

theorem walk_congr {cells other : Snapshot} {range : Range}
    (h : ∀ a, range.contains a = true → other.getAt? a = cells.getAt? a) :
    other.walk range = cells.walk range :=
  List.filterMap_congr fun a ha => h a (Range.mem_toList_cursor.mp ha)

theorem pick_congr {cells other : Snapshot} {range : Range}
    (h : ∀ a, range.contains a = true → other.getAt? a = cells.getAt? a) :
    other.pick range = cells.pick range := by
  rw [pick_eq_filterMap, pick_eq_filterMap]
  refine List.filterMap_congr fun a ha => h a ?_
  exact Range.mem_toList_cursor.mp (List.mem_filter.mp ha).1

/-- The cells of a range are those of the plain way exactly if positions are looked up or every
occupied position of the range is readable. Cells outside the range matter exactly if they change
the choice of the way while some occupied position is unreadable. -/
theorem cellsWithin_eq_walk_iff (cells : Snapshot) (range : Range) :
    (cells.traversal range).Visits (cells.cellsWithin range) ∧
    (cells.cellsWithin range = cells.walk range ↔
      range.area.toNat ≤ cells.size ∨ cells.ReadableWithin range) ∧
    ∀ other : Snapshot, (∀ a, range.contains a = true → other.getAt? a = cells.getAt? a) →
      (other.cellsWithin range = cells.cellsWithin range ↔
        (range.area.toNat ≤ other.size ↔ range.area.toNat ≤ cells.size) ∨
          cells.ReadableWithin range) := by
  refine ⟨visits_cellsWithin cells range, ?_, ?_⟩
  · by_cases harea : range.area.toNat ≤ cells.size
    · simp [cellsWithin_of_area_le harea, harea]
    · simp [cellsWithin_of_lt_area harea, harea, pick_eq_walk_iff]
  · intro other hother
    have hwalk := walk_congr hother
    have hpick := pick_congr hother
    by_cases harea : range.area.toNat ≤ cells.size <;>
      by_cases hotherArea : range.area.toNat ≤ other.size
    · simp [cellsWithin_of_area_le, harea, hotherArea, hwalk]
    · simp [cellsWithin_of_area_le harea, cellsWithin_of_lt_area hotherArea, harea, hotherArea,
        hpick, pick_eq_walk_iff]
    · simp [cellsWithin_of_lt_area harea, cellsWithin_of_area_le hotherArea, harea, hotherArea,
        hwalk, ← pick_eq_walk_iff, eq_comm]
    · simp [cellsWithin_of_lt_area, harea, hotherArea, hpick]

/-- A cell in the last row is not picked for the last two rows of its column, and a cell far from
them makes it appear. -/
theorem cellsWithin_lastRow :
    let range : Range := ⟨⟨4294967294, 0⟩, ⟨4294967295, 0⟩⟩
    let cells := Snapshot.ofList [("A4294967296", .ofText "5")]
    cells.cellsWithin range ≠ cells.walk range ∧
      (cells.insert "Q1" (.ofText "x")).cellsWithin range ≠ cells.cellsWithin range := by
  intro range cells
  have hunreadable : ¬cells.ReadableWithin range := fun h =>
    absurd (h ⟨4294967295, 0⟩ (by decide) (by decide)) (by decide)
  have hother : ∀ a, range.contains a = true →
      (cells.insert "Q1" (.ofText "x")).getAt? a = cells.getAt? a := by
    intro a ha
    have hname : a.text ≠ "Q1" := fun hname => by
      have hq : (⟨0, 16⟩ : Address) = a := Address.eq_of_text_eq (by decide) hname.symm
      exact absurd ha (by rw [← hq]; decide)
    rw [getAt?, get?_insert, if_neg hname, getAt?]
  obtain ⟨-, hplain, houtside⟩ := cellsWithin_eq_walk_iff cells range
  constructor
  · rw [Ne, hplain]
    exact not_or.mpr ⟨by decide, hunreadable⟩
  · rw [Ne, houtside _ hother]
    exact not_or.mpr ⟨by decide, hunreadable⟩

end Snapshot

end Worksheet
