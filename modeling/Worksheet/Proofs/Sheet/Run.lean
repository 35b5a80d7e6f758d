import Worksheet.Proofs.Address
import Worksheet.Sheet

/-!
# Runs of a sheet

A sheet is worked on by calls: an input is entered under a name or at a position, or the format of
a cell is changed. The sheet takes a call or refuses it, and a refused call leaves no trace.

There are three groups.

* The size. `Options.Built` lists the options that the setters can make; their positions are all
  read back from their names.
* One call. `Call.target?` is the position at which a call is taken, and `Call.cell` the cell that
  it puts there. `perform_of_target?` and `perform_of_target?_eq_none` say all that a call can do.
* A run. `Sheet.run` makes one call after the other, and `Sheet.history` keeps an account of the
  calls that are taken, each with the cells as they stood before it.
-/

namespace Worksheet

/-! ## The size of a sheet -/

namespace Options

/-- The options that the setters make of the default ones. -/
inductive Built : Options → Prop where
  | default : Built {}
  | setRows {options : Options} (rows : UInt32) (h : Built options) : Built (options.setRows rows)
  | setCols {options : Options} (cols : UInt16) (h : Built options) : Built (options.setCols cols)
  | setDefaultFormat {options : Options} (format : Format) (h : Built options) :
      Built (options.setDefaultFormat format)

/-- Whether a position lies in the sheet. -/
def Holds (options : Options) (a : Address) : Prop :=
  a.row < options.rows ∧ a.col < options.cols

instance (options : Options) (a : Address) : Decidable (options.Holds a) :=
  inferInstanceAs (Decidable (_ ∧ _))

theorem Built.cols_le {options : Options} (h : options.Built) :
    options.cols.toNat ≤ Address.letteredColumns.toNat := by
  induction h with
  | default => decide
  | setRows | setDefaultFormat => assumption
  | setCols cols _ _ =>
    rw [Options.setCols]
    split
    · next hcols => exact Nat.le_of_lt hcols
    · exact Nat.le_refl _

/-- A position of a sheet is read back from its name: the greatest number of rows leaves out the
last row of the grid. -/
theorem Built.isReadable {options : Options} {a : Address} (h : options.Built)
    (ha : options.Holds a) : a.IsReadable := by
  obtain ⟨hrow, hcol⟩ := ha
  have hcols := h.cols_le
  have hrows := options.rows.toNat_lt
  have hsize : UInt32.size = 4294967296 := rfl
  rw [UInt32.lt_iff_toNat_lt] at hrow
  rw [UInt16.lt_iff_toNat_lt] at hcol
  refine ⟨?_, by omega⟩
  rw [UInt16.lt_iff_toNat_lt]
  omega

theorem check_of_holds {options : Options} {a : Address} (h : options.Holds a) :
    options.check a = .ok () := by
  have hrow : ¬options.rows ≤ a.row := UInt32.not_le.mpr h.1
  have hcol : ¬options.cols ≤ a.col := UInt16.not_le.mpr h.2
  rw [check, if_neg hrow, if_neg hcol]

theorem exists_check_of_not_holds {options : Options} {a : Address} (h : ¬options.Holds a) :
    ∃ cause, options.check a = .error cause := by
  unfold check
  split
  · exact ⟨_, rfl⟩
  · next hrow =>
    split
    · exact ⟨_, rfl⟩
    · next hcol => exact absurd ⟨UInt32.not_le.mp hrow, UInt16.not_le.mp hcol⟩ h

end Options

/-! ## One call -/

/-- A call that may change a sheet. -/
inductive Call where
  | enter (name input : String)
  | enterAt (address : Address) (input : String)
  | changeFormat (name : String) (change : FormatChange)

namespace Call

/-- The changed sheet, or why the sheet refuses. -/
def perform (call : Call) (sheet : Sheet) : Except Error Sheet :=
  match call with
  | enter name input => (sheet.enter name input).map Prod.snd
  | enterAt address input => (sheet.enterAt address input).map Prod.snd
  | changeFormat name change => (sheet.changeFormat name change).map Prod.snd

/-- The position that a call names, if it names one. -/
def address? : Call → Option Address
  | enter name _ => Address.parse? name
  | enterAt address _ => some address
  | changeFormat name _ => Address.parse? name

/-- The input that a call enters, if it enters one. -/
def input? : Call → Option String
  | enter _ input => some input
  | enterAt _ input => some input
  | changeFormat _ _ => none

/-- The position at which a call is taken. -/
def target? (call : Call) (options : Options) : Option Address :=
  call.address?.filter fun a => options.Holds a

/-- The cell that a call puts at a position. -/
def cell (call : Call) (sheet : Sheet) (a : Address) : Cell :=
  match call with
  | enter _ input => sheet.enteredCell a input
  | enterAt _ input => sheet.enteredCell a input
  | changeFormat _ change =>
    let cell := sheet.cells.getD a.text { format := sheet.options.defaultFormat }
    { cell with format := cell.format.apply change }

theorem cell_of_input? {call : Call} {sheet : Sheet} {a : Address} {input : String}
    (h : call.input? = some input) :
    call.cell sheet a = sheet.enteredCell a input := by
  cases call <;> cases h <;> rfl

theorem target?_eq_some_iff {call : Call} {options : Options} {a : Address} :
    call.target? options = some a ↔ call.address? = some a ∧ options.Holds a := by
  rw [target?, Option.filter_eq_some_iff, decide_eq_true_iff]

end Call

namespace Sheet

/-- The sheet with a cell put at a position. -/
def put (sheet : Sheet) (a : Address) (cell : Cell) : Sheet :=
  { sheet with cells := sheet.cells.insert a.text cell }

theorem get?_put (sheet : Sheet) (a : Address) (cell : Cell) (name : String) :
    (sheet.put a cell).cells.get? name =
      if name = a.text then some cell else sheet.cells.get? name :=
  Snapshot.get?_insert _ _ _ _

theorem addressOf_of_holds {sheet : Sheet} {name : String} {a : Address}
    (hname : Address.parse? name = some a) (ha : sheet.options.Holds a) :
    sheet.addressOf name = .ok a := by
  rw [addressOf, Address.parse?_eq_some_iff.mp hname]
  simp only [bind, Except.bind, Options.check_of_holds ha]
  rfl

theorem exists_addressOf_eq_error {sheet : Sheet} {name : String}
    (h : ∀ a, Address.parse? name = some a → ¬sheet.options.Holds a) :
    ∃ cause, sheet.addressOf name = .error cause := by
  unfold addressOf
  cases hparse : Address.parse name with
  | error cause => exact ⟨cause, rfl⟩
  | ok a =>
    obtain ⟨cause, hcause⟩ :=
      Options.exists_check_of_not_holds (h a (Address.parse?_eq_some_iff.mpr hparse))
    exact ⟨cause, by simp only [bind, Except.bind, hcause]⟩

theorem addressOf_eq_ok_iff {sheet : Sheet} {name : String} {a : Address} :
    sheet.addressOf name = .ok a ↔ Address.parse? name = some a ∧ sheet.options.Holds a := by
  constructor
  · intro h
    by_cases hall : ∀ b, Address.parse? name = some b → ¬sheet.options.Holds b
    · obtain ⟨cause, hcause⟩ := exists_addressOf_eq_error hall
      rw [hcause] at h
      cases h
    · push Not at hall
      obtain ⟨b, hparse, hb⟩ := hall
      rw [addressOf_of_holds hparse hb] at h
      cases h
      exact ⟨hparse, hb⟩
  · rintro ⟨hparse, ha⟩
    exact addressOf_of_holds hparse ha

end Sheet

namespace Call

/-- A call that is taken puts one cell at its position and leaves everything else alone. -/
theorem perform_of_target? {call : Call} {sheet : Sheet} {a : Address}
    (h : call.target? sheet.options = some a) :
    call.perform sheet = .ok (sheet.put a (call.cell sheet a)) := by
  obtain ⟨haddress, ha⟩ := target?_eq_some_iff.mp h
  have hcheck := Options.check_of_holds ha
  cases call with
  | enter name input =>
    have hname := Sheet.addressOf_of_holds haddress ha
    simp only [perform, Sheet.enter, Sheet.enterAt, hname, bind, Except.bind, hcheck]
    rfl
  | enterAt address input =>
    cases haddress
    simp only [perform, Sheet.enterAt, bind, Except.bind, hcheck]
    rfl
  | changeFormat name change =>
    have hname := Sheet.addressOf_of_holds haddress ha
    simp only [perform, Sheet.changeFormat, hname, bind, Except.bind]
    rfl

theorem perform_of_target?_eq_none {call : Call} {sheet : Sheet}
    (h : call.target? sheet.options = none) : ∃ cause, call.perform sheet = .error cause := by
  have hnone : ∀ a, call.address? = some a → ¬sheet.options.Holds a := by
    intro a haddress ha
    rw [target?_eq_some_iff.mpr ⟨haddress, ha⟩] at h
    cases h
  cases call with
  | enter name input =>
    obtain ⟨cause, hcause⟩ := Sheet.exists_addressOf_eq_error hnone
    exact ⟨cause, by simp only [perform, Sheet.enter, hcause]; rfl⟩
  | enterAt address input =>
    obtain ⟨cause, hcause⟩ := Options.exists_check_of_not_holds (hnone address rfl)
    exact ⟨cause, by simp only [perform, Sheet.enterAt, hcause]; rfl⟩
  | changeFormat name change =>
    obtain ⟨cause, hcause⟩ := Sheet.exists_addressOf_eq_error hnone
    exact ⟨cause, by simp only [perform, Sheet.changeFormat, hcause]; rfl⟩

end Call

/-! ## A run of calls -/

/-- A call that was taken, with its position and the cells as they stood before it. -/
structure Event where
  call : Call
  address : Address
  before : Snapshot

/-- The event of a call, if the sheet takes it. -/
def Call.event? (call : Call) (sheet : Sheet) : Option Event :=
  match call.perform sheet with
  | .ok _ => call.address?.map fun a => ⟨call, a, sheet.cells⟩
  | .error _ => none

namespace Sheet

/-- The sheet after a call; a refused call leaves it as it was. -/
def after (sheet : Sheet) (call : Call) : Sheet :=
  match call.perform sheet with
  | .ok changed => changed
  | .error _ => sheet

/-- The sheet after one call after the other. -/
def run (sheet : Sheet) (calls : List Call) : Sheet :=
  calls.foldl after sheet

/-- The events of one call after the other. -/
def history (sheet : Sheet) : List Call → List Event
  | [] => []
  | call :: calls => (call.event? sheet).toList ++ (sheet.after call).history calls

section

variable {sheet : Sheet} {call : Call}

theorem after_of_target? {a : Address} (h : call.target? sheet.options = some a) :
    sheet.after call = sheet.put a (call.cell sheet a) := by
  rw [after, Call.perform_of_target? h]

theorem after_of_target?_eq_none (h : call.target? sheet.options = none) :
    sheet.after call = sheet := by
  obtain ⟨cause, hcause⟩ := Call.perform_of_target?_eq_none h
  rw [after, hcause]

theorem event?_of_target? {a : Address} (h : call.target? sheet.options = some a) :
    call.event? sheet = some ⟨call, a, sheet.cells⟩ := by
  rw [Call.event?, Call.perform_of_target? h, (Call.target?_eq_some_iff.mp h).1]
  rfl

theorem event?_of_target?_eq_none (h : call.target? sheet.options = none) :
    call.event? sheet = none := by
  obtain ⟨cause, hcause⟩ := Call.perform_of_target?_eq_none h
  rw [Call.event?, hcause]

theorem options_after (sheet : Sheet) (call : Call) :
    (sheet.after call).options = sheet.options := by
  cases h : call.target? sheet.options with
  | none => rw [after_of_target?_eq_none h]
  | some a => rw [after_of_target? h, put]

end

theorem run_append_singleton (sheet : Sheet) (calls : List Call) (call : Call) :
    sheet.run (calls ++ [call]) = (sheet.run calls).after call := by
  rw [run, run, List.foldl_append]
  rfl

theorem history_append_singleton (sheet : Sheet) (calls : List Call) (call : Call) :
    sheet.history (calls ++ [call]) =
      sheet.history calls ++ (call.event? (sheet.run calls)).toList := by
  induction calls generalizing sheet with
  | nil => simp [history, run]
  | cons first calls ih =>
    rw [List.cons_append, history, history, ih, List.append_assoc]
    rfl

theorem options_run (sheet : Sheet) (calls : List Call) :
    (sheet.run calls).options = sheet.options := by
  induction calls using List.reverseRecOn with
  | nil => rfl
  | append_singleton calls call ih => rw [run_append_singleton, options_after, ih]

end Sheet

end Worksheet
