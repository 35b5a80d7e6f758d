import Worksheet.Proofs.Formula.Dependence
import Worksheet.Proofs.Sheet.Run

/-!
# Calls in either order

Two calls to a sheet give the same cells in either order if neither sees what the other does. An
entry sees what is shown under the names that its formula reads, and the format of its own cell; a
change of format sees its own cell, and changes nothing that is shown.

* `Sheet.SameCells` compares two sheets by look-up, and `Call.cell_congr` says on what the cell of
  a call depends.
* `Sheet.IsRegular` is what a sheet needs for that: every call keeps it, so that every sheet that
  calls can make has it (`isRegular_run`).
* `commute_of_apart` is the case of two positions, and `commute_changeFormat_entry` the case of
  an entry and a change of format at one position.
* `commute_entries`, `commute_changeFormat` and `commute_formats` are the pairs of calls, and
  `commute_run` puts them together for the sheets that calls can make.
-/

namespace Worksheet

open Formula (Reads displayOfInput LastRowFree)

/-- Whether two sheets hold the same cells. -/
def Sheet.SameCells (sheet other : Sheet) : Prop :=
  ∀ name, sheet.cells.get? name = other.cells.get? name

/-- Whether two calls to a sheet give the same cells in either order. -/
def Sheet.Commute (sheet : Sheet) (first second : Call) : Prop :=
  ((sheet.after first).after second).SameCells ((sheet.after second).after first)

/-- Whether a call enters a formula that names a position. -/
def Call.ReadsAt (call : Call) (a : Address) : Prop :=
  ∃ input, call.input? = some input ∧ isFormula input = true ∧ Reads input a.text

/-! ## What the cell of a call depends on -/

namespace Sheet

variable {sheet : Sheet}

theorem formatAt_congr {other : Sheet} {name : String} (hoptions : other.options = sheet.options)
    (h : other.cells.get? name = sheet.cells.get? name) :
    other.formatAt name = sheet.formatAt name := by
  rw [formatAt, formatAt, h, hoptions]

end Sheet

namespace Call

variable {call : Call} {sheet other : Sheet} {a : Address} {input : String}

theorem cell_changeFormat (sheet : Sheet) (a : Address) (name : String) (change : FormatChange) :
    (changeFormat name change).cell sheet a =
      { display := sheet.cells.displayAt a.text
        formula := ((sheet.cells.get? a.text).map Cell.formula).getD ""
        format := (sheet.formatAt a.text).apply change } := by
  simp only [cell, Snapshot.getD, Snapshot.displayAt, Sheet.formatAt]
  cases sheet.cells.get? a.text <;> rfl

/-- The cell of a call depends on the cell in its place and on what its input comes to. -/
theorem cell_congr (hoptions : other.options = sheet.options)
    (hcell : other.cells.get? a.text = sheet.cells.get? a.text)
    (hinput : ∀ input, call.input? = some input →
      displayOfInput input other.cells = displayOfInput input sheet.cells) :
    call.cell other a = call.cell sheet a := by
  have hformat := Sheet.formatAt_congr hoptions hcell
  cases call with
  | enter name input =>
    simp only [cell, Sheet.enteredCell, hformat, hinput input rfl]
  | enterAt address input =>
    simp only [cell, Sheet.enteredCell, hformat, hinput input rfl]
  | changeFormat name change =>
    simp only [cell, Snapshot.getD, hcell, hoptions]

end Call

/-! ## Regular sheets -/

/-- A sheet whose positions are all read back from their names, and whose occupied names are all
names of positions. -/
structure Sheet.IsRegular (sheet : Sheet) : Prop where
  readable : ∀ a, sheet.options.Holds a → a.IsReadable
  named : ∀ name cell, sheet.cells.get? name = some cell → (Address.parse? name).isSome = true

namespace Sheet.IsRegular

variable {sheet : Sheet}

theorem lastRowFree (h : sheet.IsRegular) : LastRowFree sheet.cells :=
  Formula.lastRowFree_of_parse? h.named

/-- A call puts a cell under a name that is read back, or it puts none. -/
theorem after (h : sheet.IsRegular) (call : Call) : (sheet.after call).IsRegular := by
  refine ⟨?_, fun name cell hcell => ?_⟩
  · rw [options_after]
    exact h.readable
  · cases htarget : call.target? sheet.options with
    | none =>
      rw [after_of_target?_eq_none htarget] at hcell
      exact h.named name cell hcell
    | some a =>
      rw [after_of_target? htarget, get?_put] at hcell
      split at hcell
      · next hname =>
        have ha := (Call.target?_eq_some_iff.mp htarget).2
        rw [hname, Address.parse?_text, if_pos (h.readable a ha)]
        rfl
      · exact h.named name cell hcell

end Sheet.IsRegular

theorem isRegular_run {options : Options} (hbuilt : options.Built) (calls : List Call) :
    ((Sheet.ofOptions options).run calls).IsRegular := by
  induction calls using List.reverseRecOn with
  | nil =>
    refine ⟨fun a ha => hbuilt.isReadable ha, fun name cell hcell => ?_⟩
    cases hcell
  | append_singleton calls call ih =>
    rw [Sheet.run_append_singleton]
    exact ih.after call

/-! ## Two calls -/

namespace Sheet

variable {sheet : Sheet} {first second : Call} {a b : Address}

theorem Commute.symm (h : sheet.Commute first second) : sheet.Commute second first :=
  fun name => (h name).symm

theorem commute_of_target?_eq_none (h : second.target? sheet.options = none) :
    sheet.Commute first second := by
  have hafter : second.target? (sheet.after first).options = none := by
    rw [options_after, h]
  rw [Commute, after_of_target?_eq_none hafter, after_of_target?_eq_none h]
  exact fun _ => rfl

/-- Calls at two positions commute if neither changes the cell that the other puts. -/
theorem commute_of_cell_eq (ha : first.target? sheet.options = some a)
    (hb : second.target? sheet.options = some b) (hne : a.text ≠ b.text)
    (hfirst : first.cell (sheet.after second) a = first.cell sheet a)
    (hsecond : second.cell (sheet.after first) b = second.cell sheet b) :
    sheet.Commute first second := by
  have ha' : first.target? (sheet.after second).options = some a := by rw [options_after, ha]
  have hb' : second.target? (sheet.after first).options = some b := by rw [options_after, hb]
  intro name
  rw [after_of_target? ha', after_of_target? hb', hfirst, hsecond, after_of_target? ha,
    after_of_target? hb]
  simp only [get?_put]
  by_cases hnameA : name = a.text
  · rw [if_pos hnameA, if_pos hnameA, if_neg (by rw [hnameA]; exact hne)]
  · rw [if_neg hnameA, if_neg hnameA]

/-- A call does not change what an input comes to if the input is a text, if its formula does not
name the position of the call, or if the call changes nothing that is shown. -/
theorem displayOfInput_after {call : Call} {input : String} (hregular : sheet.IsRegular)
    (h : ∀ b, call.target? sheet.options = some b → isFormula input = true →
      Reads input b.text → (call.cell sheet b).display = sheet.cells.displayAt b.text) :
    displayOfInput input (sheet.after call).cells = displayOfInput input sheet.cells := by
  have hafterLast := (hregular.after call).lastRowFree
  cases htarget : call.target? sheet.options with
  | none => rw [after_of_target?_eq_none htarget]
  | some b =>
    refine Formula.displayOfInput_congr hregular.lastRowFree hafterLast
      fun hformula name hname => ?_
    rw [after_of_target? htarget, put, Snapshot.displayAt_insert]
    split
    · next heq =>
      rw [heq] at hname ⊢
      exact h b htarget hformula hname
    · rfl

/-- The cell of a call is the same after a call elsewhere that changes nothing it reads. -/
theorem cell_after (hregular : sheet.IsRegular) (hb : second.target? sheet.options = some b)
    (hne : a.text ≠ b.text)
    (h : first.ReadsAt b → (second.cell sheet b).display = sheet.cells.displayAt b.text) :
    first.cell (sheet.after second) a = first.cell sheet a := by
  refine Call.cell_congr (options_after _ _) ?_ fun input hinput => ?_
  · rw [after_of_target? hb, get?_put, if_neg hne]
  · refine displayOfInput_after hregular fun c hc hformula hread => ?_
    cases hb.symm.trans hc
    exact h ⟨input, hinput, hformula, hread⟩

/-- Calls that do not meet in one position commute if neither enters a formula that reads the
other's position, or if the call there changes nothing that is shown. -/
theorem commute_of_apart (hregular : sheet.IsRegular)
    (hapart : ∀ a, first.target? sheet.options = some a → second.target? sheet.options ≠ some a)
    (hfirst : ∀ b, second.target? sheet.options = some b → first.ReadsAt b →
      (second.cell sheet b).display = sheet.cells.displayAt b.text)
    (hsecond : ∀ a, first.target? sheet.options = some a → second.ReadsAt a →
      (first.cell sheet a).display = sheet.cells.displayAt a.text) :
    sheet.Commute first second := by
  cases ha : first.target? sheet.options with
  | none => exact (commute_of_target?_eq_none ha).symm
  | some a =>
    cases hb : second.target? sheet.options with
    | none => exact commute_of_target?_eq_none hb
    | some b =>
      have hholds := (Call.target?_eq_some_iff.mp ha).2
      have hne : a.text ≠ b.text := by
        intro htext
        rw [← Address.eq_of_text_eq (hregular.readable a hholds) htext] at hb
        exact hapart a ha hb
      exact commute_of_cell_eq ha hb hne (cell_after hregular hb hne (hfirst b hb))
        (cell_after hregular ha hne.symm (hsecond a ha))

/-- An entry and a change of format at one position commute: the entry keeps the format, and the
change of format keeps the entry, also where it makes the cell that the entry reads. -/
theorem commute_changeFormat_entry {name : String} {change : FormatChange} {entry : Call}
    {input : String} (hregular : sheet.IsRegular) (hentry : entry.input? = some input)
    (ha : (Call.changeFormat name change).target? sheet.options = some a)
    (hb : entry.target? sheet.options = some a) :
    sheet.Commute (.changeFormat name change) entry := by
  -- The cell that the change of format makes shows nothing, as if it were not there.
  have hdisplay : displayOfInput input (sheet.after (.changeFormat name change)).cells =
      displayOfInput input sheet.cells :=
    displayOfInput_after hregular fun b _ _ _ => by rw [Call.cell_changeFormat]
  have ha' : (Call.changeFormat name change).target? (sheet.after entry).options = some a := by
    rw [options_after, ha]
  have hb' : entry.target? (sheet.after (.changeFormat name change)).options = some a := by
    rw [options_after, hb]
  have hformat : (sheet.after (.changeFormat name change)).formatAt a.text =
      (sheet.formatAt a.text).apply change := by
    rw [after_of_target? ha, Call.cell_changeFormat, formatAt, get?_put, if_pos rfl]
    rfl
  have hentered : (sheet.after entry).cells.get? a.text = some (sheet.enteredCell a input) := by
    rw [after_of_target? hb, Call.cell_of_input? hentry, get?_put, if_pos rfl]
  have hkept : (sheet.after entry).formatAt a.text = sheet.formatAt a.text := by
    rw [formatAt, hentered]
    rfl
  intro other
  rw [after_of_target? ha', after_of_target? hb', get?_put, get?_put]
  split
  · rw [Call.cell_of_input? hentry, Call.cell_changeFormat, enteredCell, hdisplay, hformat,
      Snapshot.displayAt, hentered, hkept]
    rfl
  · next hname =>
    rw [after_of_target? ha, after_of_target? hb, get?_put, get?_put, if_neg hname, if_neg hname]

/-! ## The pairs of calls -/

theorem not_readsAt_changeFormat (name : String) (change : FormatChange) (a : Address) :
    ¬(Call.changeFormat name change).ReadsAt a := by
  intro hread
  obtain ⟨input, hinput, -⟩ := hread
  cases hinput

/-- Two entries commute if they are at different positions and neither is a formula that reads the
other's position. -/
theorem commute_entries {i j : String} (hregular : sheet.IsRegular)
    (hi : first.input? = some i) (hj : second.input? = some j)
    (ha : first.address? = some a) (hb : second.address? = some b) (hne : a ≠ b)
    (hunreadI : ¬(isFormula i = true ∧ Reads i b.text))
    (hunreadJ : ¬(isFormula j = true ∧ Reads j a.text)) : sheet.Commute first second := by
  have htargetA : ∀ c, first.target? sheet.options = some c → c = a := fun c hc =>
    Option.some.inj ((Call.target?_eq_some_iff.mp hc).1.symm.trans ha)
  have htargetB : ∀ c, second.target? sheet.options = some c → c = b := fun c hc =>
    Option.some.inj ((Call.target?_eq_some_iff.mp hc).1.symm.trans hb)
  refine commute_of_apart hregular ?_ ?_ ?_
  · intro c hc hc'
    exact hne ((htargetA c hc).symm.trans (htargetB c hc'))
  · intro c hc hread
    obtain ⟨input, hinput, hreads⟩ := hread
    cases hi.symm.trans hinput
    rw [htargetB c hc] at hreads
    exact absurd hreads hunreadI
  · intro c hc hread
    obtain ⟨input, hinput, hreads⟩ := hread
    cases hj.symm.trans hinput
    rw [htargetA c hc] at hreads
    exact absurd hreads hunreadJ

/-- A change of format and an entry always commute. -/
theorem commute_changeFormat {entry : Call} {input : String} (hregular : sheet.IsRegular)
    (hentry : entry.input? = some input) (name : String) (change : FormatChange) :
    sheet.Commute (.changeFormat name change) entry := by
  by_cases hsame : ∃ a, (Call.changeFormat name change).target? sheet.options = some a ∧
      entry.target? sheet.options = some a
  · obtain ⟨a, ha, hb⟩ := hsame
    exact commute_changeFormat_entry hregular hentry ha hb
  · refine commute_of_apart hregular ?_ ?_ ?_
    · exact fun a ha hb => hsame ⟨a, ha, hb⟩
    · exact fun b _ hread => absurd hread (not_readsAt_changeFormat name change b)
    · intro a _ _
      rw [Call.cell_changeFormat]

/-- Changes of format at different positions commute. -/
theorem commute_formats {name name' : String} {change change' : FormatChange}
    (hregular : sheet.IsRegular) (ha : Address.parse? name = some a)
    (hb : Address.parse? name' = some b) (hne : a ≠ b) :
    sheet.Commute (.changeFormat name change) (.changeFormat name' change') := by
  refine commute_of_apart hregular ?_ ?_ ?_
  · intro c hc hc'
    cases ha.symm.trans (Call.target?_eq_some_iff.mp hc).1
    cases hb.symm.trans (Call.target?_eq_some_iff.mp hc').1
    exact hne rfl
  · exact fun b _ hread => absurd hread (not_readsAt_changeFormat name change b)
  · exact fun a _ hread => absurd hread (not_readsAt_changeFormat name' change' a)

end Sheet

/-- Calls to a sheet that was made with the setters and by calls give the same cells in either
order: two entries at different positions, of which neither is a formula that names the position of
the other; an entry and a change of format, anywhere; and two changes of format at different
positions. -/
theorem commute_run {options : Options} (hbuilt : options.Built) (calls : List Call) :
    let sheet := (Sheet.ofOptions options).run calls
    (∀ (first second : Call) (i j : String) (a b : Address),
      first.input? = some i → second.input? = some j →
      first.address? = some a → second.address? = some b → a ≠ b →
      ¬(isFormula i = true ∧ Reads i b.text) → ¬(isFormula j = true ∧ Reads j a.text) →
        sheet.Commute first second) ∧
    (∀ (entry : Call) (input name : String) (change : FormatChange), entry.input? = some input →
      sheet.Commute (.changeFormat name change) entry) ∧
    ∀ (name name' : String) (change change' : FormatChange) (a b : Address),
      Address.parse? name = some a → Address.parse? name' = some b → a ≠ b →
        sheet.Commute (.changeFormat name change) (.changeFormat name' change') := by
  intro sheet
  have hregular : sheet.IsRegular := isRegular_run hbuilt calls
  refine ⟨?_, ?_, ?_⟩
  · intro first second i j a b hi hj ha hb hne hunreadI hunreadJ
    exact Sheet.commute_entries hregular hi hj ha hb hne hunreadI hunreadJ
  · intro entry input name change hentry
    exact Sheet.commute_changeFormat hregular hentry name change
  · intro name name' change change' a b ha hb hne
    exact Sheet.commute_formats hregular ha hb hne

/-- A sheet with `5` in `A1`: another input there and a sum that leaves `A1` out, a format that
makes the empty cell `B1` and a formula that reads it, and two formats. -/
theorem commute_run_sum :
    let sheet := (Sheet.ofOptions {}).run [.enter "A1" "5"]
    let bold : FormatChange := { bold := some true }
    sheet.Commute (.enter "A1" "7") (.enter "C3" "=SUM(A2:B9)") ∧
      sheet.Commute (.changeFormat "B1" bold) (.enter "A1" "=B1+1") ∧
      sheet.Commute (.changeFormat "A1" bold) (.changeFormat "B2" {}) := by
  intro sheet bold
  obtain ⟨hentries, hentry, hformats⟩ := commute_run .default [.enter "A1" "5"]
  have hunread : ¬Reads "=SUM(A2:B9)" (⟨0, 0⟩ : Address).text := by
    have hcall : Formula.Function.ofCall? (Formula.body "=SUM(A2:B9)") =
        some (.sum, "(A2:B9)".toList) := by decide
    have hrange : Formula.rangeIn "(A2:B9)" = .ok ⟨⟨1, 0⟩, ⟨8, 1⟩⟩ := by decide
    rw [← String.ofList_toList (s := "(A2:B9)")] at hrange
    exact fun hread => absurd
      ((Formula.reads_iff_of_rangeIn hcall rfl hrange (by decide)).mp hread) (by decide)
  refine ⟨?_, ?_, ?_⟩
  · exact hentries (.enter "A1" "7") (.enter "C3" "=SUM(A2:B9)") _ _ ⟨0, 0⟩ ⟨2, 2⟩ rfl rfl
      (by decide) (by decide) (by decide) (fun hread => absurd hread.1 (by decide))
      fun hread => hunread hread.2
  · exact hentry (.enter "A1" "=B1+1") _ "B1" bold rfl
  · exact hformats "A1" "B2" bold {} ⟨0, 0⟩ ⟨1, 1⟩ (by decide) (by decide) (by decide)

end Worksheet
