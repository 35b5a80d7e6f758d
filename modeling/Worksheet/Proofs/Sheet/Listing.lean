import Worksheet.Proofs.Formula.OneLine
import Worksheet.Proofs.Sheet.History
import Worksheet.Proofs.Snapshot.Sorted

/-!
# The listing of a sheet

What a run of calls leaves can be listed line by line: every cell stands under the written name of
its position, and shows one line if every input was one.

* `canonical_run` and `showsLines_run` are the two invariants of a run.
* `map_address_history` gives the positions of the calls that are taken, so that `size_run` counts
  the cells by them.
-/

namespace Worksheet

/-- Whether every cell shows one line. -/
def Snapshot.ShowsLines (cells : Snapshot) : Prop :=
  ∀ name cell, cells.get? name = some cell → '\n' ∉ cell.display.toList

/-- Whether a call enters one line, if it enters an input. -/
def Call.EntersLine (call : Call) : Prop :=
  ∀ input, call.input? = some input → '\n' ∉ input.toList

/-! ## Cells that show one line -/

section

variable {sheet : Sheet} {call : Call} {a : Address}

theorem Call.lineFeed_not_mem_cell (hcall : call.EntersLine) (hsheet : sheet.cells.ShowsLines) :
    '\n' ∉ (call.cell sheet a).display.toList := by
  cases call with
  | enter name input =>
    exact Formula.lineFeed_not_mem_displayOfInput (hcall input rfl) sheet.cells
  | enterAt address input =>
    exact Formula.lineFeed_not_mem_displayOfInput (hcall input rfl) sheet.cells
  | changeFormat name change =>
    cases hcell : sheet.cells.get? a.text with
    | none =>
      simp only [cell, Snapshot.getD, hcell]
      exact List.not_mem_nil
    | some cell =>
      simp only [Call.cell, Snapshot.getD, hcell]
      exact hsheet _ _ hcell

theorem showsLines_after (hcall : call.EntersLine) (hsheet : sheet.cells.ShowsLines) :
    (sheet.after call).cells.ShowsLines := by
  cases htarget : call.target? sheet.options with
  | none => rwa [Sheet.after_of_target?_eq_none htarget]
  | some a =>
    rw [Sheet.after_of_target? htarget]
    intro name cell hcell
    rw [Sheet.put, Snapshot.get?_insert] at hcell
    split at hcell
    · cases hcell
      exact Call.lineFeed_not_mem_cell hcall hsheet
    · exact hsheet name cell hcell

theorem showsLines_run {calls : List Call} (hcalls : ∀ call ∈ calls, call.EntersLine)
    (hsheet : sheet.cells.ShowsLines) : (sheet.run calls).cells.ShowsLines := by
  induction calls generalizing sheet with
  | nil => exact hsheet
  | cons call calls ih =>
    exact ih (fun other hother => hcalls other (List.mem_cons_of_mem _ hother))
      (showsLines_after (hcalls call List.mem_cons_self) hsheet)

end

/-! ## Names and positions -/

theorem canonical_run {options : Options} (hbuilt : options.Built) (calls : List Call) :
    ((Sheet.ofOptions options).run calls).cells.Canonical := by
  intro name cell hcell
  have haccounts := accounts_run hbuilt calls
  obtain ⟨event, hevent, rfl, -⟩ := haccounts.named name cell hcell
  exact ⟨event.address, hbuilt.isReadable (haccounts.holds event hevent), rfl⟩

/-- The events of a run are at the positions at which its calls are taken. -/
theorem map_address_history (sheet : Sheet) (calls : List Call) :
    (sheet.history calls).map Event.address = calls.filterMap fun call =>
      call.target? sheet.options := by
  induction calls generalizing sheet with
  | nil => rfl
  | cons call calls ih =>
    rw [Sheet.history, List.map_append, ih, Sheet.options_after, List.filterMap_cons]
    cases htarget : call.target? sheet.options with
    | none => rw [Sheet.event?_of_target?_eq_none htarget]; rfl
    | some a => rw [Sheet.event?_of_target? htarget]; rfl

/-- There are as many cells as positions at which calls were taken. -/
theorem size_run {options : Options} (hbuilt : options.Built) (calls : List Call) :
    ((Sheet.ofOptions options).run calls).size =
      (calls.filterMap fun call => call.target? options).dedup.length := by
  have hsize := size_eq_of_accounts hbuilt (accounts_run hbuilt calls)
  rw [map_address_history] at hsize
  exact hsize

end Worksheet
