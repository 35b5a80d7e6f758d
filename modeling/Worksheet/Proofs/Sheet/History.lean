import Worksheet.Proofs.Sheet.Run
import Worksheet.Proofs.Snapshot

/-!
# The cells of a sheet and its history

Every cell of a sheet can be told from the calls that the sheet has taken. A cell is there if a
call was taken at its position; its formula is the last input entered there, under whatever name,
and it shows what that input came to when it was entered.

* `lastAt?` looks for the last event at a position, and `Recorded` is the cell that the last entry
  has left.
* `Accounts` ties the cells to a history. `Accounts.put` is the step: it is kept by every call that
  is taken, also by a change of format that makes a cell.
* `recorded_run` is the result for a whole run, and `size_eq_of_accounts` counts the cells.
-/

namespace Worksheet

/-! ## The last event at a position -/

/-- The input of an event and the cells as they stood before it, if it is an entry. -/
def Event.entry? (event : Event) : Option (String × Snapshot) :=
  event.call.input?.map fun input => (input, event.before)

/-- What is read off the last event at a position off which something can be read. -/
def lastAt? {α : Type} (f : Event → Option α) (a : Address) (history : List Event) : Option α :=
  history.reverse.findSome? fun event => if event.address = a then f event else none

section

variable {α : Type} {f : Event → Option α} {a : Address} {history : List Event} {event : Event}

theorem lastAt?_append_singleton :
    lastAt? f a (history ++ [event]) =
      ((if event.address = a then f event else none) <|> lastAt? f a history) := by
  rw [lastAt?, List.reverse_append, List.reverse_singleton, List.singleton_append,
    List.findSome?_cons]
  cases (if event.address = a then f event else none) <;> rfl

theorem lastAt?_append_of_eq_some {found : α} (haddress : event.address = a)
    (hfound : f event = some found) : lastAt? f a (history ++ [event]) = some found := by
  rw [lastAt?_append_singleton, if_pos haddress, hfound]
  rfl

theorem lastAt?_append_of_eq_none (h : event.address = a → f event = none) :
    lastAt? f a (history ++ [event]) = lastAt? f a history := by
  rw [lastAt?_append_singleton]
  split
  · next haddress =>
    rw [h haddress]
    rfl
  · rfl

theorem lastAt?_eq_none (h : ∀ event ∈ history, event.address ≠ a) :
    lastAt? f a history = none := by
  rw [lastAt?, List.findSome?_eq_none_iff]
  intro event hevent
  rw [if_neg (h event (List.mem_reverse.mp hevent))]

end

/-! ## The cells that a history leaves -/

/-- Whether a cell is what the last entry at its position has left: the input, and what it came to
on the cells of that moment. Where nothing has been entered, the cell is empty. -/
def Recorded (history : List Event) (a : Address) (cell : Cell) : Prop :=
  match lastAt? Event.entry? a history with
  | some (input, before) => cell.formula = input ∧
      cell.display = if isFormula input then Formula.display input before else input
  | none => cell.formula = "" ∧ cell.display = ""

theorem Recorded.exists_before {history : List Event} {a : Address} {cell : Cell}
    (h : Recorded history a cell) (input : String) (seen : Snapshot → Prop)
    (hlast : ∃ entry ∈ lastAt? Event.entry? a history, entry.1 = input ∧ seen entry.2) :
    ∃ before, seen before ∧ cell.formula = input ∧
      cell.display = if isFormula input then Formula.display input before else input := by
  obtain ⟨⟨_, before⟩, hentry, rfl, hseen⟩ := hlast
  rw [Recorded, Option.mem_def.mp hentry] at h
  exact ⟨before, hseen, h⟩

/-- Whether the cells are accounted for by the events at positions of the sheet. -/
structure Accounts (options : Options) (history : List Event) (cells : Snapshot) : Prop where
  holds : ∀ event ∈ history, options.Holds event.address
  occupied : ∀ event ∈ history, (cells.getAt? event.address).isSome = true
  named : ∀ name cell, cells.get? name = some cell →
    ∃ event ∈ history, name = event.address.text ∧ Recorded history event.address cell

section

variable {options : Options} {history : List Event} {sheet : Sheet} {call : Call} {a : Address}

theorem Accounts.recorded_of_getAt? {cells : Snapshot} {cell : Cell} (hbuilt : options.Built)
    (h : Accounts options history cells) (ha : options.Holds a)
    (hcell : cells.getAt? a = some cell) : Recorded history a cell := by
  obtain ⟨event, -, hname, hrecorded⟩ := h.named _ _ hcell
  rw [Address.eq_of_text_eq (hbuilt.isReadable ha) hname]
  exact hrecorded

theorem Accounts.lastAt?_eq_none_of_getAt? {cells : Snapshot}
    (h : Accounts options history cells) (hcell : cells.getAt? a = none) :
    lastAt? Event.entry? a history = none := by
  refine lastAt?_eq_none fun event hevent heq => ?_
  have hoccupied := h.occupied event hevent
  rw [heq, hcell] at hoccupied
  cases hoccupied

/-- The cell that a call puts at its position is the one that the last entry there has left. -/
theorem Accounts.recorded_cell (hbuilt : options.Built)
    (h : Accounts options history sheet.cells) (ha : options.Holds a) :
    Recorded (history ++ [⟨call, a, sheet.cells⟩]) a (call.cell sheet a) := by
  unfold Recorded
  cases call with
  | enter name input =>
    have hentry : Event.entry? ⟨.enter name input, a, sheet.cells⟩ = some (input, sheet.cells) :=
      rfl
    rw [lastAt?_append_of_eq_some rfl hentry]
    exact ⟨rfl, rfl⟩
  | enterAt address input =>
    have hentry : Event.entry? ⟨.enterAt address input, a, sheet.cells⟩ =
        some (input, sheet.cells) := rfl
    rw [lastAt?_append_of_eq_some rfl hentry]
    exact ⟨rfl, rfl⟩
  | changeFormat name change =>
    rw [lastAt?_append_of_eq_none fun _ => rfl]
    cases hcell : sheet.cells.getAt? a with
    | none =>
      have hget : sheet.cells.get? a.text = none := hcell
      rw [h.lastAt?_eq_none_of_getAt? hcell]
      simp only [Call.cell, Snapshot.getD, hget]
      exact ⟨rfl, rfl⟩
    | some cell =>
      have hget : sheet.cells.get? a.text = some cell := hcell
      have hrecorded := h.recorded_of_getAt? hbuilt ha hcell
      simp only [Call.cell, Snapshot.getD, hget]
      exact hrecorded

/-- A call that is taken keeps the account, with its own event added. -/
theorem Accounts.put (hbuilt : options.Built) (h : Accounts options history sheet.cells)
    (ha : options.Holds a) :
    Accounts options (history ++ [⟨call, a, sheet.cells⟩])
      (sheet.put a (call.cell sheet a)).cells := by
  have hnew : (⟨call, a, sheet.cells⟩ : Event) ∈ history ++ [⟨call, a, sheet.cells⟩] :=
    List.mem_append_right _ List.mem_cons_self
  refine ⟨?_, ?_, ?_⟩
  · intro event hevent
    rcases List.mem_append.mp hevent with hold | hlast
    · exact h.holds event hold
    · rw [List.mem_singleton.mp hlast]
      exact ha
  · intro event hevent
    rw [Sheet.put, Snapshot.getAt?, Snapshot.get?_insert]
    split
    · rfl
    · next hname =>
      rcases List.mem_append.mp hevent with hold | hlast
      · exact h.occupied event hold
      · exact absurd (by rw [List.mem_singleton.mp hlast]) hname
  · intro name cell hcell
    rw [Sheet.put, Snapshot.get?_insert] at hcell
    split at hcell
    · next hname =>
      cases hcell
      exact ⟨_, hnew, hname, h.recorded_cell hbuilt ha⟩
    · next hname =>
      obtain ⟨event, hevent, rfl, hrecorded⟩ := h.named name cell hcell
      refine ⟨event, List.mem_append_left _ hevent, rfl, ?_⟩
      have hne : a ≠ event.address := fun heq => hname (by rw [heq])
      unfold Recorded
      rw [lastAt?_append_of_eq_none fun heq => absurd heq hne]
      exact hrecorded

end

theorem accounts_run {options : Options} (hbuilt : options.Built) (calls : List Call) :
    Accounts options ((Sheet.ofOptions options).history calls)
      ((Sheet.ofOptions options).run calls).cells := by
  -- Runs grow at the end: what an event has seen is fixed by the calls in front of it.
  induction calls using List.reverseRecOn with
  | nil => exact ⟨by simp [Sheet.history], by simp [Sheet.history], by
      intro name cell hcell
      cases hcell⟩
  | append_singleton calls call ih =>
    have hoptions : ((Sheet.ofOptions options).run calls).options = options :=
      Sheet.options_run _ _
    rw [Sheet.run_append_singleton, Sheet.history_append_singleton]
    cases htarget : call.target? ((Sheet.ofOptions options).run calls).options with
    | none =>
      rw [Sheet.after_of_target?_eq_none htarget, Sheet.event?_of_target?_eq_none htarget]
      simpa using ih
    | some a =>
      rw [Sheet.after_of_target? htarget, Sheet.event?_of_target? htarget]
      have ha := (Call.target?_eq_some_iff.mp htarget).2
      rw [hoptions] at ha
      exact ih.put hbuilt ha

/-- There are as many cells as positions at which calls were taken. -/
theorem size_eq_of_accounts {options : Options} {history : List Event} {cells : Snapshot}
    (hbuilt : options.Built) (h : Accounts options history cells) :
    cells.size = (history.map Event.address).dedup.length := by
  have hinj : ∀ a ∈ (history.map Event.address).dedup, ∀ b ∈ (history.map Event.address).dedup,
      a.text = b.text → a = b := by
    intro a ha b _ htext
    obtain ⟨event, hevent, rfl⟩ := List.mem_map.mp (List.mem_dedup.mp ha)
    exact Address.eq_of_text_eq (hbuilt.isReadable (h.holds event hevent)) htext
  have hnodup : ((history.map Event.address).dedup.map Address.text).Nodup :=
    (List.nodup_dedup _).map_on hinj
  have hperm : (cells.entries.map Prod.fst).Perm
      ((history.map Event.address).dedup.map Address.text) := by
    refine (List.perm_ext_iff_of_nodup cells.nodup hnodup).mpr fun name => ?_
    simp only [List.mem_map, List.mem_dedup]
    constructor
    · rintro ⟨⟨key, cell⟩, hentry, rfl⟩
      obtain ⟨event, hevent, hname, -⟩ := h.named _ _ (Snapshot.get?_eq_some_iff.mpr hentry)
      exact ⟨event.address, ⟨event, hevent, rfl⟩, hname.symm⟩
    · rintro ⟨_, ⟨event, hevent, rfl⟩, rfl⟩
      obtain ⟨cell, hcell⟩ := Option.isSome_iff_exists.mp (h.occupied event hevent)
      exact ⟨_, Snapshot.get?_eq_some_iff.mp hcell, rfl⟩
  have hlength := hperm.length_eq
  rw [List.length_map, List.length_map] at hlength
  exact hlength

/-- Every cell of a sheet that was made with the setters stands under the name of a position of the
sheet, from which the position is read back, and is what the last entry at that position has left,
whatever name it was entered under. There are as many cells as positions at which calls were
taken. -/
theorem recorded_run {options : Options} (hbuilt : options.Built) (calls : List Call) :
    (∀ name cell, ((Sheet.ofOptions options).run calls).cells.get? name = some cell →
      ∃ a : Address, name = a.text ∧ (a.row < options.rows ∧ a.col < options.cols) ∧
        Address.parse name = .ok a ∧
        Recorded ((Sheet.ofOptions options).history calls) a cell) ∧
    ((Sheet.ofOptions options).run calls).size =
      (((Sheet.ofOptions options).history calls).map Event.address).dedup.length := by
  have haccounts := accounts_run hbuilt calls
  refine ⟨fun name cell hcell => ?_, size_eq_of_accounts hbuilt haccounts⟩
  obtain ⟨event, hevent, rfl, hrecorded⟩ := haccounts.named name cell hcell
  have hholds := haccounts.holds event hevent
  have hparse := Address.parse?_text event.address
  rw [if_pos (hbuilt.isReadable hholds)] at hparse
  exact ⟨event.address, rfl, hholds, Address.parse?_eq_some_iff.mp hparse, hrecorded⟩

/-- `A1` and `A01` are one cell, and a formula in it reads what it showed before. A change of
format leaves the entry, and a name outside the sheet is refused. -/
theorem recorded_run_twoNames :
    let options := (({} : Options).setRows 3).setCols 30
    let sheet := (Sheet.ofOptions options).run [.enter "A1" "5", .enter "A01" "=A1+1",
      .changeFormat "A1" { bold := some true }, .enter "A9" "x", .changeFormat "B2" {}]
    options.Built ∧ sheet.size = 2 ∧ ∃ cell, sheet.cells.get? "A1" = some cell ∧
      ∃ before : Snapshot, before.get? "A1" = some (.ofText "5") ∧
        cell.formula = "=A1+1" ∧ cell.display = Formula.display "=A1+1" before := by
  intro options sheet
  have hbuilt : options.Built := .setCols 30 (.setRows 3 .default)
  obtain ⟨hcells, hsize⟩ := recorded_run hbuilt [.enter "A1" "5", .enter "A01" "=A1+1",
    .changeFormat "A1" { bold := some true }, .enter "A9" "x", .changeFormat "B2" {}]
  obtain ⟨cell, hcell⟩ : ∃ cell, sheet.cells.get? "A1" = some cell :=
    Option.isSome_iff_exists.mp (by decide)
  obtain ⟨a, hname, -, -, hrecorded⟩ := hcells "A1" cell hcell
  obtain rfl : (⟨0, 0⟩ : Address) = a := Address.eq_of_text_eq (by decide) hname
  obtain ⟨before, hbefore, hformula, hdisplay⟩ :=
    hrecorded.exists_before "=A1+1" (fun cells => cells.get? "A1" = some (.ofText "5")) (by decide)
  exact ⟨hbuilt, hsize.trans (by decide), cell, hcell, before, hbefore, hformula, hdisplay⟩

end Worksheet
