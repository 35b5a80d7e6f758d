import Worksheet.Proofs.Sheet.Refusal

/-!
# Reading what was entered

A sheet takes every name of a position, and keeps the cell under the plain one. It looks a name up
as it stands. So a cell that was just entered is found under the plain name, and under the name
that it was entered with if that is the plain one; a name with zeros in front of its number still
finds what it found before.

* `Sheet.ReadsBack` is what can be read after a change, and `Sheet.Puts.readsBack` says that it is
  what follows from the change of one cell.
* `puts_of_enter` and `puts_of_changeFormat` say which cell a call changes and what it gives back.
* `readsBack_written` is the result, and `cell?_paddedName` a name that finds nothing.
-/

namespace Worksheet.Sheet

variable {sheet changed : Sheet} {name : String} {a : Address} {cell : Cell}

/-- What is read after a cell was put at a position by one of its names: the cell under the plain
name, and under a name with zeros in front of its number whatever was there before. -/
structure ReadsBack (sheet changed : Sheet) (name : String) (a : Address) (cell : Cell) :
    Prop where
  plain : changed.cell? a.text = some cell ∧ changed.display? a.text = some cell.display
  unpadded : ¬Address.IsPadded name →
    changed.cell? name = some cell ∧ changed.display? name = some cell.display
  padded : Address.IsPadded name →
    changed.cell? name = sheet.cell? name ∧ changed.display? name = sheet.display? name

theorem Puts.readsBack (hname : Address.Names name a) (h : sheet.Puts a cell changed) :
    sheet.ReadsBack changed name a cell := by
  have hstored : changed.cell? a.text = some cell := h.stored
  have hplain : changed.cell? a.text = some cell ∧ changed.display? a.text = some cell.display :=
    ⟨hstored, by rw [display?, hstored]; rfl⟩
  refine ⟨hplain, fun hunpadded => ?_, fun hpadded => ?_⟩
  · rw [(Address.eq_text_iff hname).mpr hunpadded]
    exact hplain
  · have hne : name ≠ a.text := fun heq => (Address.eq_text_iff hname).mp heq hpadded
    have hkept : changed.cell? name = sheet.cell? name := h.others name hne
    exact ⟨hkept, by rw [display?, display?, hkept]⟩

/-- An entry gives back the cell that it puts. -/
theorem puts_of_enter {input : String} (h : sheet.enter name input = .ok (cell, changed)) :
    ∃ a, Address.Names name a ∧ sheet.Puts a cell changed := by
  rw [enter] at h
  cases haddress : sheet.addressOf name with
  | error cause =>
    rw [haddress] at h
    cases h
  | ok a =>
    obtain ⟨hname, hholds⟩ := addressOf_eq_ok_iff.mp haddress
    have hcheck := Options.check_of_holds hholds
    simp only [haddress, bind, Except.bind, enterAt, hcheck] at h
    cases h
    exact ⟨a, Address.parse?_eq_some_iff_names.mp hname, sheet.puts_put a _⟩

/-- A change of format gives back the format of the cell that it puts. -/
theorem puts_of_changeFormat {change : FormatChange} {format : Format}
    (h : sheet.changeFormat name change = .ok (format, changed)) :
    ∃ a cell, Address.Names name a ∧ cell.format = format ∧ sheet.Puts a cell changed := by
  rw [changeFormat] at h
  cases haddress : sheet.addressOf name with
  | error cause =>
    rw [haddress] at h
    cases h
  | ok a =>
    obtain ⟨hname, -⟩ := addressOf_eq_ok_iff.mp haddress
    simp only [haddress, bind, Except.bind] at h
    cases h
    exact ⟨a, _, Address.parse?_eq_some_iff_names.mp hname, rfl, sheet.puts_put a _⟩

/-- A cell that was just entered, or whose format was just changed, is read under the plain name of
its position, and under the name that was given if no zero stands in front of its number. A name
with such zeros is looked up as it stands and finds what it found before. -/
theorem readsBack_written (sheet : Sheet) (name : String) :
    (∀ input cell changed, sheet.enter name input = .ok (cell, changed) →
      ∃ a, Address.Names name a ∧ sheet.ReadsBack changed name a cell) ∧
    ∀ change format changed, sheet.changeFormat name change = .ok (format, changed) →
      ∃ a cell, Address.Names name a ∧ cell.format = format ∧
        sheet.ReadsBack changed name a cell := by
  constructor
  · intro input cell changed h
    obtain ⟨a, hname, hputs⟩ := puts_of_enter h
    exact ⟨a, hname, hputs.readsBack hname⟩
  · intro change format changed h
    obtain ⟨a, cell, hname, hformat, hputs⟩ := puts_of_changeFormat h
    exact ⟨a, cell, hname, hformat, hputs.readsBack hname⟩

/-- On cells with the stored name `B02`, an entry under `B2` is read under `B2`, and one under
`B02` leaves the stored cell to be read. -/
theorem readsBack_written_storedName :
    let sheet : Sheet := { cells := Snapshot.ofList [("B02", .ofText "old")] }
    (∃ cell changed, sheet.enter "B2" "new" = .ok (cell, changed) ∧
      changed.cell? "B2" = some cell) ∧
    ∃ cell changed, sheet.enter "B02" "new" = .ok (cell, changed) ∧
      changed.cell? "B02" = some (.ofText "old") := by
  intro sheet
  constructor
  · obtain ⟨cell, changed, henter⟩ : ∃ cell changed,
        sheet.enter "B2" "new" = .ok (cell, changed) :=
      ⟨_, _, rfl⟩
    obtain ⟨a, -, hread⟩ := (readsBack_written sheet "B2").1 _ _ _ henter
    have hname : Address.Names "B2" ⟨1, 1⟩ := Address.parse?_eq_some_iff_names.mp (by decide)
    have hunpadded : ¬Address.IsPadded "B2" := (Address.eq_text_iff hname).mp (by decide)
    exact ⟨cell, changed, henter, (hread.unpadded hunpadded).1⟩
  · obtain ⟨cell, changed, henter⟩ : ∃ cell changed,
        sheet.enter "B02" "new" = .ok (cell, changed) :=
      ⟨_, _, rfl⟩
    obtain ⟨a, -, hread⟩ := (readsBack_written sheet "B02").1 _ _ _ henter
    have hpadded : Address.IsPadded "B02" := ⟨'B', ['2'], by decide⟩
    exact ⟨cell, changed, henter, (hread.padded hpadded).1.trans (by decide)⟩

/-- An entry under `A01` is found under `A1` only, and so is a change of format. -/
theorem cell?_paddedName :
    (∃ cell changed, ({} : Sheet).enter "A01" "5" = .ok (cell, changed) ∧
      changed.cell? "A01" = none ∧ changed.display? "A01" = none) ∧
    ∃ format changed, ({} : Sheet).changeFormat "A01" { bold := some true } =
      .ok (format, changed) ∧ changed.cell? "A01" = none :=
  ⟨⟨_, _, rfl, by decide, by decide⟩, _, _, rfl, by decide⟩

end Worksheet.Sheet
