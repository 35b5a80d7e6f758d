import Worksheet.Formula.Evaluate
import Worksheet.Proofs.Formula.RangeSearch
import Worksheet.Proofs.Formula.Reference

/-!
# What a formula reads

A formula names cells: arithmetic by its references, an aggregate by the range of its arguments,
and a text function not at all. Its value depends on nothing but what the named cells show, where
a cell that is not there counts as one that shows nothing.

There are three groups.

* What is shown. `Snapshot.displayAt` is the text under a name, and `displayAt_insert` says how a
  change of one cell shows.
* The two ways to read. `filled_congr` is the replacement of references, and `numbersIn_congr` the
  numbers of a range; neither sees more than `displayAt`.
* The value. `Reads` lists the names that a formula reads, and `result_eq_of_displayAt_eq` says
  that they decide the value.
-/

namespace Worksheet

/-! ## What is shown under a name -/

namespace Snapshot

/-- What is shown under a name; nothing where there is no cell. -/
def displayAt (cells : Snapshot) (name : String) : String :=
  ((cells.get? name).map Cell.display).getD ""

theorem displayAt_insert (cells : Snapshot) (name other : String) (cell : Cell) :
    (cells.insert name cell).displayAt other =
      if other = name then cell.display else cells.displayAt other := by
  rw [displayAt, get?_insert]
  split
  · rfl
  · rfl

/-- A cell that shows what was shown before in its place does not change what is shown. -/
theorem displayAt_insert_of_display_eq {cells : Snapshot} {name : String} {cell : Cell}
    (h : cell.display = cells.displayAt name) (other : String) :
    (cells.insert name cell).displayAt other = cells.displayAt other := by
  rw [displayAt_insert]
  split
  · next hother => rw [hother, h]
  · rfl

end Snapshot

namespace Formula

open Address (Spelling nameOf ofName letter?)

/-! ## Names of the last row -/

/-- The names of the last row are those that no reader accepts, so they are free where every
occupied name is read. -/
theorem lastRowFree_of_parse? {cells : Snapshot}
    (h : ∀ name cell, cells.get? name = some cell → (Address.parse? name).isSome = true) :
    LastRowFree cells := by
  intro letter hletter
  have hunreadable : ¬(ofName letter 4294967296).IsReadable := by
    rintro ⟨-, hrow⟩
    rw [Address.toNat_row_ofName (by decide)] at hrow
    exact absurd hrow (by decide)
  rw [Option.eq_none_iff_forall_ne_some]
  intro cell hcell
  have hparse := h _ _ hcell
  rw [← Address.text_ofName hletter (by decide) (by decide), Address.parse?_text,
    if_neg hunreadable] at hparse
  cases hparse

/-! ## Reading references -/

theorem replacement_eq (cells : Snapshot) (name : String) :
    replacement cells name =
      if cells.displayAt name = "" then blankReplacement else cells.displayAt name := by
  unfold replacement Snapshot.displayAt
  cases cells.get? name <;> rfl

theorem filled_congr {cells other : Snapshot} {text : List Char}
    (h : ∀ spelling, Piece.address spelling ∈ pieces text →
      other.displayAt (String.ofList spelling.text) =
        cells.displayAt (String.ofList spelling.text)) :
    filled other text = filled cells text := by
  refine List.flatMap_congr fun piece hpiece => ?_
  cases piece with
  | address spelling =>
    rw [Piece.replace, Piece.replace, replacement_eq, replacement_eq, h spelling hpiece]
  | other text => rfl

/-! ## Reading a range -/

/-- A cell that is not there counts as one that shows nothing: neither begins with a number. -/
theorem filterMap_leading?_getAt? (cells : Snapshot) (positions : List Address) :
    (positions.filterMap cells.getAt?).filterMap (fun cell => Number.leading? cell.display) =
      positions.filterMap fun a => Number.leading? (cells.displayAt a.text) := by
  rw [List.filterMap_filterMap]
  refine List.filterMap_congr fun a _ => ?_
  rw [Snapshot.getAt?, Snapshot.displayAt]
  cases cells.get? a.text <;> rfl

/-- The numbers of a range are those shown under the names of its readable positions, whichever
way through the range is taken. -/
theorem numbersIn_eq_filterMap {args : String} {range : Range} (h : rangeIn args = .ok range)
    {cells : Snapshot} (hlast : LastRowFree cells) :
    numbersIn args cells =
      .ok ((range.cursor.toList.filter fun a => a.IsReadable).filterMap fun a =>
        Number.leading? (cells.displayAt a.text)) := by
  obtain ⟨first, second, ⟨-, hsecond, -⟩, rfl⟩ := rangeIn_eq_ok_iff.mp h
  have hreadable := @readableWithin_rangeBetween first second hsecond cells hlast
  rw [numbersIn_of_rangeIn h, Snapshot.cellsWithin_eq_walk hreadable,
    ← (Snapshot.pick_eq_walk_iff cells _).mpr hreadable, Snapshot.pick_eq_filterMap,
    filterMap_leading?_getAt?]

theorem numbersIn_congr {args : String} {cells other : Snapshot} (hlast : LastRowFree cells)
    (hotherLast : LastRowFree other)
    (h : ∀ range, rangeIn args = .ok range → ∀ a : Address, a.IsReadable →
      range.contains a = true → other.displayAt a.text = cells.displayAt a.text) :
    numbersIn args other = numbersIn args cells := by
  cases hrange : rangeIn args with
  | error cause =>
    rw [numbersIn, numbersIn, hrange]
    rfl
  | ok range =>
    rw [numbersIn_eq_filterMap hrange hlast, numbersIn_eq_filterMap hrange hotherLast]
    refine congrArg _ (List.filterMap_congr fun a ha => ?_)
    rw [List.mem_filter, Range.mem_toList_cursor, decide_eq_true_iff] at ha
    rw [h range hrange a ha.2 ha.1]

/-! ## The value of a formula -/

/-- Whether a function reads the cells of a range. -/
def Function.readsRange : Function → Bool
  | sum | average | max | min | count => true
  | trim | upper | lower => false

/-- Whether a formula names a cell: by a reference, if it is no function call, and by the range in
the arguments of a function that reads one. -/
def Reads (formula name : String) : Prop :=
  match Function.ofCall? (body formula) with
  | none => ∃ spelling, Piece.address spelling ∈ pieces (body formula) ∧
      name = String.ofList spelling.text
  | some (function, args) => function.readsRange = true ∧
      ∃ range, rangeIn (String.ofList args) = .ok range ∧
        ∃ a : Address, a.IsReadable ∧ range.contains a = true ∧ name = a.text

theorem reads_iff_of_rangeIn {formula : String} {function : Function} {args : List Char}
    {range : Range} (hcall : Function.ofCall? (body formula) = some (function, args))
    (hreads : function.readsRange = true) (hrange : rangeIn (String.ofList args) = .ok range)
    {a : Address} (ha : a.IsReadable) : Reads formula a.text ↔ range.contains a = true := by
  simp only [Reads, hcall]
  constructor
  · rintro ⟨-, found, hfound, b, -, hb, htext⟩
    cases hrange.symm.trans hfound
    rwa [Address.eq_of_text_eq ha htext]
  · exact fun hcontains => ⟨hreads, range, hrange, a, ha, hcontains, rfl⟩

theorem Function.call_congr {function : Function} {args : String} {cells other : Snapshot}
    (h : function.readsRange = true → numbersIn args other = numbersIn args cells) :
    function.call args other = function.call args cells := by
  cases function with
  | trim | upper | lower => rfl
  | sum | average | max | min | count => simp only [call, h rfl]

variable {formula : String} {cells other : Snapshot}

theorem resultWith_congr (evaluator : Evaluator) (hlast : LastRowFree cells)
    (hotherLast : LastRowFree other)
    (h : ∀ name, Reads formula name → other.displayAt name = cells.displayAt name) :
    resultWith evaluator formula other = resultWith evaluator formula cells := by
  unfold resultWith
  cases hcall : Function.ofCall? (body formula) with
  | none =>
    simp only [Reads, hcall] at h
    have hfilled : filled other (body formula) = filled cells (body formula) :=
      filled_congr fun spelling hspelling => h _ ⟨spelling, hspelling, rfl⟩
    simp only [replaceReferences_eq, String.toList_ofList, hfilled]
  | some found =>
    obtain ⟨function, args⟩ := found
    simp only [Reads, hcall] at h
    refine Function.call_congr fun hreads => numbersIn_congr hlast hotherLast ?_
    intro range hrange a hreadable ha
    exact h _ ⟨hreads, range, hrange, a, hreadable, ha, rfl⟩

theorem displayOfInput_congr {input : String} (hlast : LastRowFree cells)
    (hotherLast : LastRowFree other)
    (h : isFormula input = true → ∀ name, Reads input name →
      other.displayAt name = cells.displayAt name) :
    displayOfInput input other = displayOfInput input cells := by
  unfold displayOfInput
  split
  · next hformula =>
    rw [display, display, displayWith, displayWith,
      resultWith_congr arithmetic hlast hotherLast (h hformula)]
  · rfl

/-- The value of a formula, or the cause of its failure, is the same on cells that show the same
under the names that the formula reads. So it does not change with a cell that is put in, unless
the formula names the cell and what is shown there changes. -/
theorem result_eq_of_displayAt_eq (hlast : LastRowFree cells) (hotherLast : LastRowFree other)
    (h : ∀ name, Reads formula name → other.displayAt name = cells.displayAt name) :
    result formula other = result formula cells ∧
      ∀ name cell, LastRowFree (cells.insert name cell) →
        (Reads formula name → cell.display = cells.displayAt name) →
          result formula (cells.insert name cell) = result formula cells := by
  refine ⟨resultWith_congr arithmetic hlast hotherLast h, fun name cell hnewLast hcell => ?_⟩
  refine resultWith_congr arithmetic hlast hnewLast fun named hnamed => ?_
  rw [Snapshot.displayAt_insert]
  split
  · next heq =>
    rw [heq] at hnamed ⊢
    exact hcell hnamed
  · rfl

/-- The sum of `A1:B2` is the same if `A1` gets another formula and a format but shows the same,
and `B2` becomes an empty cell; a cell under `Q9` does not change it either. -/
theorem result_sum_of_displayAt_eq :
    let cells := Snapshot.ofList [("A1", .ofText "2")]
    let other := (cells.insert "A1" ⟨"2", "=1+1", { bold := true }⟩).insert "B2" {}
    result "=SUM(A1:B2)" other = result "=SUM(A1:B2)" cells ∧
      result "=SUM(A1:B2)" (cells.insert "Q9" (.ofText "7")) = result "=SUM(A1:B2)" cells := by
  intro cells other
  have hlast : ∀ {s : Snapshot}, (∀ entry ∈ s.entries, (Address.parse? entry.1).isSome = true) →
      LastRowFree s := fun hparse =>
    lastRowFree_of_parse? fun name cell hcell => hparse _ (Snapshot.get?_eq_some_iff.mp hcell)
  have hshown : ∀ name, other.displayAt name = cells.displayAt name := by
    intro name
    rw [Snapshot.displayAt_insert_of_display_eq (by decide),
      Snapshot.displayAt_insert_of_display_eq (by decide)]
  have hunnamed : ¬Reads "=SUM(A1:B2)" "Q9" := by
    have hcall : Function.ofCall? (body "=SUM(A1:B2)") = some (.sum, "(A1:B2)".toList) := by decide
    have hrange : rangeIn "(A1:B2)" = .ok ⟨⟨0, 0⟩, ⟨1, 1⟩⟩ := by decide
    rw [← String.ofList_toList (s := "(A1:B2)")] at hrange
    exact fun hread => absurd
      ((reads_iff_of_rangeIn hcall rfl hrange (a := ⟨8, 16⟩) (by decide)).mp hread) (by decide)
  have hboth : ∀ name, Reads "=SUM(A1:B2)" name → other.displayAt name = cells.displayAt name :=
    fun name _ => hshown name
  obtain ⟨hother, hinsert⟩ :=
    result_eq_of_displayAt_eq (hlast (by decide)) (hlast (by decide)) hboth
  exact ⟨hother, hinsert "Q9" _ (hlast (by decide)) fun hnamed => absurd hnamed hunnamed⟩

end Formula

end Worksheet
