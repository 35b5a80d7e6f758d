import Worksheet.Proofs.Address.Name
import Worksheet.Proofs.Sheet.Run
import Worksheet.Proofs.Snapshot

/-!
# What a sheet refuses, and what it changes

A sheet refuses a text that names no position, and a position outside its size. Nothing else is
refused: a formula that fails shows its failure in the cell. A call that is taken changes one cell.

There are three groups.

* The position. `Options.Refuses` gives the cause for which a position is refused, the row before
  the column, and `check_eq_error_iff` says that it is the one that is reported.
* The name. `Options.RefusesName` puts the faults of a text in front, and
  `addressOf_eq_error_iff`, `enter_eq_error_iff` and `changeFormat_eq_error_iff` follow it through
  the calls.
* The change. `Sheet.Puts` says what a sheet looks like with a cell put at a position of another
  one, and `Call.puts_of_perform` that a call does no more. `refuses_or_puts` is the result.
-/

namespace Worksheet

/-! ## Refused positions -/

namespace Options

/-- Why a position is refused: its row lies outside the sheet, or its column does and its row does
not. The greatest index is reported beside it, which is zero where there is none. -/
inductive Refuses (options : Options) (a : Address) : Error → Prop where
  | row {greatest : UInt32} (hrow : ¬a.row < options.rows)
      (hgreatest : greatest.toNat = options.rows.toNat - 1) :
      Refuses options a (.rowOutOfBounds a.row greatest)
  | col {greatest : UInt16} (hrow : a.row < options.rows) (hcol : ¬a.col < options.cols)
      (hgreatest : greatest.toNat = options.cols.toNat - 1) :
      Refuses options a (.columnOutOfBounds a.col greatest)

theorem greatestRow_eq_iff {rows greatest : UInt32} :
    (if rows = 0 then 0 else rows - 1) = greatest ↔ greatest.toNat = rows.toNat - 1 := by
  rw [← UInt32.toNat_inj, eq_comm]
  split
  · next hrows => simp [hrows]
  · next hrows =>
    rw [← UInt32.toNat_inj, UInt32.toNat_zero] at hrows
    have hle : 1 ≤ rows := UInt32.le_iff_toNat_le.mpr (Nat.one_le_iff_ne_zero.mpr hrows)
    rw [UInt32.toNat_sub_of_le _ _ hle]
    rfl

theorem greatestCol_eq_iff {cols greatest : UInt16} :
    (if cols = 0 then 0 else cols - 1) = greatest ↔ greatest.toNat = cols.toNat - 1 := by
  rw [← UInt16.toNat_inj, eq_comm]
  split
  · next hcols => simp [hcols]
  · next hcols =>
    rw [← UInt16.toNat_inj, UInt16.toNat_zero] at hcols
    have hle : 1 ≤ cols := UInt16.le_iff_toNat_le.mpr (Nat.one_le_iff_ne_zero.mpr hcols)
    rw [UInt16.toNat_sub_of_le _ _ hle]
    rfl

theorem check_eq_error_iff {options : Options} {a : Address} {cause : Error} :
    options.check a = .error cause ↔ options.Refuses a cause := by
  constructor
  · intro h
    unfold check at h
    split at h
    · next hrow =>
      cases h
      exact .row (UInt32.not_lt.mpr hrow) (greatestRow_eq_iff.mp rfl)
    · next hrow =>
      split at h
      · next hcol =>
        cases h
        exact .col (UInt32.not_le.mp hrow) (UInt16.not_lt.mpr hcol) (greatestCol_eq_iff.mp rfl)
      · cases h
  · intro h
    cases h with
    | row hrow hgreatest =>
      rw [check, if_pos (UInt32.not_lt.mp hrow), greatestRow_eq_iff.mpr hgreatest]
    | col hrow hcol hgreatest =>
      rw [check, if_neg (UInt32.not_le.mpr hrow), if_pos (UInt16.not_lt.mp hcol),
        greatestCol_eq_iff.mpr hgreatest]

theorem exists_refuses_iff {options : Options} {a : Address} :
    (∃ cause, options.Refuses a cause) ↔ ¬options.Holds a := by
  constructor
  · rintro ⟨cause, h⟩ hholds
    rw [← check_eq_error_iff, check_of_holds hholds] at h
    cases h
  · intro houtside
    obtain ⟨cause, hcause⟩ := exists_check_of_not_holds houtside
    exact ⟨cause, check_eq_error_iff.mp hcause⟩

/-! ## Refused names -/

/-- Why a name is refused: it names no position, or the position that it names is refused. -/
inductive RefusesName (options : Options) (name : String) : Error → Prop where
  | fault {fault : AddressFault} (hname : ∀ a, ¬Address.Names name a)
      (hfault : Address.Faulty name.toList fault) :
      RefusesName options name (.invalidAddress fault name)
  | position {a : Address} {cause : Error} (hname : Address.Names name a)
      (hcause : options.Refuses a cause) : RefusesName options name cause

end Options

theorem Address.parse_eq_error_iff {name : String} {cause : Error} :
    Address.parse name = .error cause ↔
      ∃ fault, Address.Faulty name.toList fault ∧ cause = .invalidAddress fault name := by
  rw [Address.parse]
  cases hread : Address.read name.toList with
  | error fault =>
    have hfault := Address.read_eq_error_iff.mp hread
    constructor
    · intro h
      cases h
      exact ⟨fault, hfault, rfl⟩
    · rintro ⟨found, hfound, rfl⟩
      rw [← Address.read_eq_error_iff, hread] at hfound
      cases hfound
      rfl
  | ok a =>
    constructor
    · intro h
      cases h
    · rintro ⟨found, hfound, -⟩
      rw [← Address.read_eq_error_iff, hread] at hfound
      cases hfound

namespace Sheet

variable {sheet : Sheet} {name : String} {cause : Error}

theorem addressOf_eq_error_iff :
    sheet.addressOf name = .error cause ↔ sheet.options.RefusesName name cause := by
  cases hparse : Address.parse name with
  | error found =>
    have hnone : ∀ a, ¬Address.Names name a := fun a ha => by
      rw [← Address.parse?_eq_some_iff_names, Address.parse?_eq_some_iff, hparse] at ha
      cases ha
    have hrefused : sheet.addressOf name = .error found := by
      rw [addressOf, hparse]
      rfl
    rw [hrefused, Except.error.injEq]
    constructor
    · rintro rfl
      obtain ⟨fault, hfault, rfl⟩ := Address.parse_eq_error_iff.mp hparse
      exact .fault hnone hfault
    · intro h
      cases h with
      | fault _ hfault =>
        have hsame := Address.parse_eq_error_iff.mpr ⟨_, hfault, rfl⟩
        rw [hparse] at hsame
        exact Except.error.inj hsame
      | position hname _ => exact absurd hname (hnone _)
  | ok a =>
    have hname : Address.Names name a :=
      Address.parse?_eq_some_iff_names.mp (Address.parse?_eq_some_iff.mpr hparse)
    have hrefused : sheet.addressOf name = .error cause ↔
        sheet.options.check a = .error cause := by
      rw [addressOf, hparse]
      simp only [bind, Except.bind]
      cases sheet.options.check a <;> simp [pure, Except.pure]
    rw [hrefused, Options.check_eq_error_iff]
    constructor
    · exact .position hname
    · intro h
      cases h with
      | fault hnone _ => exact absurd hname (hnone a)
      | position hname' hcause =>
        have hsame := Address.parse?_eq_some_iff_names.mpr hname'
        rw [Address.parse?_eq_some_iff, hparse] at hsame
        cases hsame
        exact hcause

theorem enterAt_eq_error_iff {a : Address} {input : String} :
    sheet.enterAt a input = .error cause ↔ sheet.options.Refuses a cause := by
  rw [← Options.check_eq_error_iff, enterAt]
  cases sheet.options.check a <;> simp [bind, Except.bind, pure, Except.pure]

/-- The check of the name covers the one of the position, so that the second finds nothing. -/
theorem enter_eq_error_iff {input : String} :
    sheet.enter name input = .error cause ↔ sheet.options.RefusesName name cause := by
  rw [← addressOf_eq_error_iff, enter]
  cases haddress : sheet.addressOf name with
  | error found => simp [bind, Except.bind]
  | ok a =>
    have hholds := Options.check_of_holds (addressOf_eq_ok_iff.mp haddress).2
    simp [bind, Except.bind, pure, Except.pure, enterAt, hholds]

/-- A name is refused unless it names a position of the sheet. -/
theorem exists_refusesName_iff :
    (∃ cause, sheet.options.RefusesName name cause) ↔
      ∀ a, Address.Names name a → ¬sheet.options.Holds a := by
  constructor
  · rintro ⟨cause, h⟩ a ha hholds
    have herror := addressOf_eq_error_iff.mpr h
    rw [addressOf_of_holds (Address.parse?_eq_some_iff_names.mpr ha) hholds] at herror
    cases herror
  · intro h
    obtain ⟨cause, hcause⟩ := exists_addressOf_eq_error fun a ha =>
      h a (Address.parse?_eq_some_iff_names.mp ha)
    exact ⟨cause, addressOf_eq_error_iff.mp hcause⟩

theorem changeFormat_eq_error_iff {change : FormatChange} :
    sheet.changeFormat name change = .error cause ↔ sheet.options.RefusesName name cause := by
  rw [← addressOf_eq_error_iff, changeFormat]
  cases sheet.addressOf name <;> simp [bind, Except.bind, pure, Except.pure]

end Sheet

/-! ## Changed sheets -/

/-- Whether a changed sheet is a sheet with a cell put at a position: the other names, the options
and the number of the other cells are as before. -/
structure Sheet.Puts (sheet : Sheet) (a : Address) (cell : Cell) (changed : Sheet) : Prop where
  stored : changed.cells.get? a.text = some cell
  others : ∀ name, name ≠ a.text → changed.cells.get? name = sheet.cells.get? name
  options : changed.options = sheet.options
  size : changed.size = if sheet.cells.contains a.text then sheet.size else sheet.size + 1

theorem Sheet.puts_put (sheet : Sheet) (a : Address) (cell : Cell) :
    sheet.Puts a cell (sheet.put a cell) where
  stored := by rw [get?_put, if_pos rfl]
  others name hname := by rw [get?_put, if_neg hname]
  options := rfl
  size := Snapshot.size_insert _ _ _

theorem Call.target?_of_perform {call : Call} {sheet changed : Sheet}
    (h : call.perform sheet = .ok changed) :
    ∃ a, call.target? sheet.options = some a ∧ changed = sheet.put a (call.cell sheet a) := by
  cases htarget : call.target? sheet.options with
  | none =>
    obtain ⟨cause, hcause⟩ := perform_of_target?_eq_none htarget
    rw [h] at hcause
    cases hcause
  | some a =>
    rw [perform_of_target? htarget] at h
    cases h
    exact ⟨a, rfl, rfl⟩

/-- A call that is taken puts its cell at its position, and no more. -/
theorem Call.puts_of_perform {call : Call} {sheet changed : Sheet}
    (h : call.perform sheet = .ok changed) :
    ∃ a, call.address? = some a ∧ sheet.options.Holds a ∧
      sheet.Puts a (call.cell sheet a) changed := by
  obtain ⟨a, htarget, rfl⟩ := call.target?_of_perform h
  obtain ⟨haddress, hholds⟩ := target?_eq_some_iff.mp htarget
  exact ⟨a, haddress, hholds, sheet.puts_put a _⟩

theorem Call.cell_of_input?_eq_none {call : Call} {sheet : Sheet} {a : Address} {old : Cell}
    (hcall : call.input? = none) (hold : sheet.cells.get? a.text = some old) :
    (call.cell sheet a).display = old.display ∧ (call.cell sheet a).formula = old.formula := by
  cases call with
  | enter name input => cases hcall
  | enterAt address input => cases hcall
  | changeFormat name change =>
    simp only [cell, Snapshot.getD, hold]
    exact ⟨rfl, rfl⟩

/-- A formula that fails is entered all the same, and its cell shows the failure. -/
theorem Call.perform_of_failure {call : Call} {sheet : Sheet} {a : Address} {input : String}
    {cause : Formula.EvalError} (hinput : call.input? = some input)
    (haddress : call.address? = some a) (hholds : sheet.options.Holds a)
    (hformula : isFormula input = true)
    (hcause : Formula.result input sheet.cells = .error cause) :
    ∃ cell changed, call.perform sheet = .ok changed ∧ sheet.Puts a cell changed ∧
      cell.formula = input ∧ cell.display = cause.shownAs.text := by
  refine ⟨_, _, perform_of_target? (target?_eq_some_iff.mpr ⟨haddress, hholds⟩),
    sheet.puts_put a _, ?_⟩
  have hshown : Formula.displayOfInput input sheet.cells = cause.shownAs.text := by
    rw [Formula.displayOfInput, if_pos hformula, Formula.display, Formula.displayWith,
      ← Formula.result, hcause]
    rfl
  rw [cell_of_input? hinput]
  exact ⟨rfl, hshown⟩

/-- Names and positions outside the sheet are refused, and no others: a text that is no name first,
then a row that is too large, then a column. A refused call leaves the sheet as it was. A call that
is taken puts one cell under the plain name of its position; a change of format keeps what the cell
holds, and a formula that fails is entered like any other. -/
theorem refuses_or_puts (sheet : Sheet) :
    ((∀ name input cause, sheet.enter name input = .error cause ↔
        sheet.options.RefusesName name cause) ∧
      (∀ name change cause, sheet.changeFormat name change = .error cause ↔
        sheet.options.RefusesName name cause) ∧
      (∀ name, (∃ cause, sheet.options.RefusesName name cause) ↔
        ∀ a, Address.Names name a → ¬(a.row < sheet.options.rows ∧ a.col < sheet.options.cols)) ∧
      (∀ a input cause, sheet.enterAt a input = .error cause ↔ sheet.options.Refuses a cause) ∧
      ∀ a, (∃ cause, sheet.options.Refuses a cause) ↔
        ¬(a.row < sheet.options.rows ∧ a.col < sheet.options.cols)) ∧
    (∀ call cause, Call.perform call sheet = .error cause → sheet.after call = sheet) ∧
    (∀ call changed, Call.perform call sheet = .ok changed → sheet.after call = changed ∧
      ∃ a cell, call.address? = some a ∧ sheet.Puts a cell changed ∧
        (call.input? = none → ∀ old, sheet.cells.get? a.text = some old →
          cell.display = old.display ∧ cell.formula = old.formula)) ∧
    ∀ (call : Call) a input cause, call.input? = some input → call.address? = some a →
      a.row < sheet.options.rows ∧ a.col < sheet.options.cols → isFormula input = true →
      Formula.result input sheet.cells = .error cause →
        ∃ cell changed, call.perform sheet = .ok changed ∧ sheet.Puts a cell changed ∧
          cell.formula = input ∧ cell.display = cause.shownAs.text := by
  refine ⟨⟨?_, ?_, ?_, ?_, ?_⟩, ?_, ?_, ?_⟩
  · exact fun name input cause => Sheet.enter_eq_error_iff
  · exact fun name change cause => Sheet.changeFormat_eq_error_iff
  · exact fun name => Sheet.exists_refusesName_iff
  · exact fun a input cause => Sheet.enterAt_eq_error_iff
  · exact fun a => Options.exists_refuses_iff
  · intro call cause hcause
    rw [Sheet.after, hcause]
  · intro call changed hchanged
    obtain ⟨a, haddress, -, hputs⟩ := call.puts_of_perform hchanged
    refine ⟨by rw [Sheet.after, hchanged], a, _, haddress, hputs, fun hinput old hold => ?_⟩
    exact Call.cell_of_input?_eq_none hinput hold
  · intro call a input cause hinput haddress hholds hformula hcause
    exact Call.perform_of_failure hinput haddress hholds hformula hcause

/-- A sheet of two rows with a cell under `A01`: row three is refused, and so is a column outside
the sheet. A formula that fails is put under `A1` and leaves `A01` alone. -/
theorem refuses_or_puts_rawName :
    let sheet : Sheet :=
      { cells := Snapshot.ofList [("A01", .ofText "x")], options := { rows := 2, cols := 30 } }
    sheet.enter "A3" "1" = .error (.rowOutOfBounds 2 1) ∧
      sheet.enterAt ⟨0, 30⟩ "1" = .error (.columnOutOfBounds 30 29) ∧
      sheet.after (.enter "A3" "1") = sheet ∧
      ∃ cell changed, (Call.enter "A01" "=AVERAGE(C1:C1)").perform sheet = .ok changed ∧
        changed.size = 2 ∧ cell.display = "#DIV/0!" ∧ changed.cells.get? "A1" = some cell ∧
        changed.cells.get? "A01" = some (.ofText "x") := by
  intro sheet
  obtain ⟨⟨hname, -, -, hposition, -⟩, hrefused, -, hfailure⟩ := refuses_or_puts sheet
  have hthree : Address.Names "A3" ⟨2, 0⟩ := Address.parse?_eq_some_iff_names.mp (by decide)
  have hrow : sheet.enter "A3" "1" = .error (.rowOutOfBounds 2 1) :=
    (hname _ _ _).mpr (.position hthree (.row (by decide) (by decide)))
  have hcol : sheet.enterAt ⟨0, 30⟩ "1" = .error (.columnOutOfBounds 30 29) :=
    (hposition _ _ _).mpr (.col (by decide) (by decide) (by decide))
  have hcause : Formula.result "=AVERAGE(C1:C1)" sheet.cells = .error .divisionByZero := by decide
  obtain ⟨cell, changed, hchanged, hputs, -, hdisplay⟩ :=
    hfailure (.enter "A01" "=AVERAGE(C1:C1)") ⟨0, 0⟩ _ _ rfl (by decide) (by decide) (by decide)
      hcause
  refine ⟨hrow, hcol, hrefused _ (.rowOutOfBounds 2 1) ?_, cell, changed, hchanged, ?_, ?_, ?_, ?_⟩
  · rw [Call.perform, hrow]
    rfl
  · rw [hputs.size]
    decide
  · rw [hdisplay]
    rfl
  · exact hputs.stored
  · rw [hputs.others _ (by decide)]
    decide

end Worksheet
