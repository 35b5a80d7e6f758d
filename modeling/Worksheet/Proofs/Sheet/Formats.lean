import Worksheet.Proofs.Sheet.History

/-!
# The formats of a sheet and its history

A format is changed attribute by attribute. Each attribute of a cell has the value that it was last
set to at the position of the cell, under whatever name, or else the one of the default format. An
entry never changes it, whether it makes the cell or finds it there.

There are three groups.

* One attribute. `Format.Attribute` is what the five attributes have in common, and
  `value_foldl_apply` says that the last change that sets an attribute decides its value.
* One position. `formatAt_after` is the step and `formatAt_run` the run: the format at a position
  is the default format with the changes at this position applied in turn.
* The history. `filterMap_changeAt?_history` finds the same changes among the events of a run, and
  `formatted_run` puts this together.
-/

namespace Worksheet

/-! ## One attribute -/

/-- An attribute of a format: its value, and what a change sets it to, if the change sets it. -/
structure Format.Attribute (α : Type) where
  value : Format → α
  set? : FormatChange → Option α
  value_apply : ∀ format change, value (format.apply change) = (set? change).getD (value format)

namespace Format.Attribute

def bold : Attribute Bool := ⟨Format.bold, FormatChange.bold, fun _ _ => rfl⟩

def italic : Attribute Bool := ⟨Format.italic, FormatChange.italic, fun _ _ => rfl⟩

def fontSize : Attribute UInt16 := ⟨Format.fontSize, FormatChange.fontSize, fun _ _ => rfl⟩

def color : Attribute Color := ⟨Format.color, FormatChange.color, fun _ _ => rfl⟩

def backgroundColor : Attribute Color :=
  ⟨Format.backgroundColor, FormatChange.backgroundColor, fun _ _ => rfl⟩

/-- The last change that sets an attribute decides its value. -/
theorem value_foldl_apply {α : Type} (field : Attribute α) (format : Format)
    (changes : List FormatChange) :
    field.value (changes.foldl Format.apply format) =
      (changes.filterMap field.set?).getLast?.getD (field.value format) := by
  -- The induction is from the end, where the change stands that decides.
  induction changes using List.reverseRecOn with
  | nil => rfl
  | append_singleton changes change ih =>
    rw [List.foldl_append, List.foldl_cons, List.foldl_nil, field.value_apply, ih,
      List.filterMap_append, List.getLast?_append]
    cases hset : field.set? change with
    | none => simp [hset]
    | some value => simp [hset]

end Format.Attribute

/-! ## One position -/

/-- The change that a call asks for, if it changes a format. -/
def Call.change? : Call → Option FormatChange
  | enter _ _ => none
  | enterAt _ _ => none
  | changeFormat _ change => some change

/-- The change of the format at a position that a call makes, if it is taken there. -/
def Call.changeAt? (call : Call) (options : Options) (a : Address) : Option FormatChange :=
  if call.target? options = some a then call.change? else none

namespace Sheet

variable {sheet : Sheet} {call : Call} {a : Address}

theorem formatAt_of_get? {name : String} {cell : Cell} (h : sheet.cells.get? name = some cell) :
    sheet.formatAt name = cell.format := by
  rw [formatAt, h]
  rfl

/-- A cell that an entry puts has the format that was there, be it the default one. -/
theorem format_cell (call : Call) (sheet : Sheet) (a : Address) :
    (call.cell sheet a).format =
      call.change?.toList.foldl Format.apply (sheet.formatAt a.text) := by
  cases call with
  | enter name input => rfl
  | enterAt address input => rfl
  | changeFormat name change =>
    simp only [Call.cell, Snapshot.getD, formatAt]
    cases sheet.cells.get? a.text <;> rfl

/-- A call changes the format at its own position, if it changes one. -/
theorem formatAt_after (hbuilt : sheet.options.Built) :
    (sheet.after call).formatAt a.text =
      (call.changeAt? sheet.options a).toList.foldl Format.apply (sheet.formatAt a.text) := by
  cases htarget : call.target? sheet.options with
  | none =>
    rw [after_of_target?_eq_none htarget, Call.changeAt?, htarget,
      if_neg (Option.some_ne_none a).symm]
    rfl
  | some b =>
    have hb := hbuilt.isReadable (Call.target?_eq_some_iff.mp htarget).2
    rw [after_of_target? htarget, Call.changeAt?, htarget]
    by_cases hab : b = a
    · rw [if_pos (by rw [hab]), hab, formatAt_of_get? (by rw [get?_put, if_pos rfl])]
      exact format_cell call sheet a
    · -- A position of the sheet shares its name with no other one.
      have hname : a.text ≠ b.text := fun heq => hab (Address.eq_of_text_eq hb heq.symm)
      rw [if_neg (fun heq => hab (Option.some.inj heq)), formatAt, get?_put, if_neg hname]
      rfl

/-- The format at a position is the one that was there with the changes at this position applied in
turn. -/
theorem formatAt_run (hbuilt : sheet.options.Built) (calls : List Call) (a : Address) :
    (sheet.run calls).formatAt a.text =
      (calls.filterMap fun call => call.changeAt? sheet.options a).foldl Format.apply
        (sheet.formatAt a.text) := by
  induction calls using List.reverseRecOn with
  | nil => rfl
  | append_singleton calls call ih =>
    have hoptions : (sheet.run calls).options = sheet.options := options_run sheet calls
    rw [run_append_singleton, formatAt_after (by rwa [hoptions]), hoptions, ih,
      List.filterMap_append, List.foldl_append]
    cases hchange : call.changeAt? sheet.options a with
    | none => simp [hchange]
    | some change => simp [hchange]

end Sheet

/-! ## The history -/

/-- The change of the format at a position that an event has made, if it has made one. -/
def Event.changeAt? (event : Event) (a : Address) : Option FormatChange :=
  if event.address = a then event.call.change? else none

/-- What the last event at a position that sets an attribute has set it to. -/
def lastSet? {α : Type} (set? : FormatChange → Option α) (a : Address) (history : List Event) :
    Option α :=
  lastAt? (fun event => event.call.change?.bind set?) a history

theorem lastSet?_eq_getLast? {α : Type} (set? : FormatChange → Option α) (a : Address)
    (history : List Event) :
    lastSet? set? a history =
      ((history.filterMap fun event => event.changeAt? a).filterMap set?).getLast? := by
  rw [lastSet?, lastAt?, ← List.getLast?_filterMap, List.filterMap_filterMap]
  congr 2
  funext event
  unfold Event.changeAt?
  split
  · rfl
  · rfl

/-- The events of a run make the changes that its calls make. -/
theorem filterMap_changeAt?_history (sheet : Sheet) (calls : List Call) (a : Address) :
    (sheet.history calls).filterMap (fun event => event.changeAt? a) =
      calls.filterMap fun call => call.changeAt? sheet.options a := by
  induction calls generalizing sheet with
  | nil => rfl
  | cons call calls ih =>
    rw [Sheet.history, List.filterMap_append, ih, Sheet.options_after, List.filterMap_cons]
    cases htarget : call.target? sheet.options with
    | none =>
      rw [Sheet.event?_of_target?_eq_none htarget, Call.changeAt?, htarget,
        if_neg (Option.some_ne_none a).symm]
      rfl
    | some b =>
      rw [Sheet.event?_of_target? htarget, Call.changeAt?, htarget]
      simp only [Option.toList_some, List.filterMap_cons, List.filterMap_nil, Event.changeAt?,
        Option.some.injEq]
      split <;> simp_all

/-- Whether every attribute of a format is what the last event at a position has set it to, or else
what it is in the default format. -/
structure Formatted (default : Format) (history : List Event) (a : Address) (format : Format) :
    Prop where
  bold : format.bold = (lastSet? FormatChange.bold a history).getD default.bold
  italic : format.italic = (lastSet? FormatChange.italic a history).getD default.italic
  fontSize : format.fontSize = (lastSet? FormatChange.fontSize a history).getD default.fontSize
  color : format.color = (lastSet? FormatChange.color a history).getD default.color
  backgroundColor : format.backgroundColor =
    (lastSet? FormatChange.backgroundColor a history).getD default.backgroundColor

section

variable {options : Options}

theorem value_formatAt_run {α : Type} (hbuilt : options.Built) (field : Format.Attribute α)
    (calls : List Call) (a : Address) :
    field.value (((Sheet.ofOptions options).run calls).formatAt a.text) =
      (lastSet? field.set? a ((Sheet.ofOptions options).history calls)).getD
        (field.value options.defaultFormat) := by
  have hnew : (Sheet.ofOptions options).formatAt a.text = options.defaultFormat := rfl
  rw [Sheet.formatAt_run hbuilt, hnew, field.value_foldl_apply, lastSet?_eq_getLast?,
    filterMap_changeAt?_history]

theorem formatted_formatAt_run (hbuilt : options.Built) (calls : List Call) (a : Address) :
    Formatted options.defaultFormat ((Sheet.ofOptions options).history calls) a
      (((Sheet.ofOptions options).run calls).formatAt a.text) where
  bold := value_formatAt_run hbuilt .bold calls a
  italic := value_formatAt_run hbuilt .italic calls a
  fontSize := value_formatAt_run hbuilt .fontSize calls a
  color := value_formatAt_run hbuilt .color calls a
  backgroundColor := value_formatAt_run hbuilt .backgroundColor calls a

theorem Call.changeAt?_eq_none {call : Call} {a : Address}
    (h : call.change? = none ∨ call.address? ≠ some a) : call.changeAt? options a = none := by
  unfold changeAt?
  split
  · next htarget =>
    obtain hchange | haddress := h
    · exact hchange
    · exact absurd (target?_eq_some_iff.mp htarget).1 haddress
  · rfl

/-- Each of the five attributes of a cell has the value that the last change of format at its
position that sets it has given it, under whatever name, or else the value of the default format.
An entry does not matter for the format at a position, wherever in a run it stands, and neither
does a call at another position. -/
theorem formatted_run (hbuilt : options.Built) :
    (∀ calls name cell, ((Sheet.ofOptions options).run calls).cells.get? name = some cell →
      ∃ a : Address, name = a.text ∧ (a.row < options.rows ∧ a.col < options.cols) ∧
        Formatted options.defaultFormat ((Sheet.ofOptions options).history calls) a cell.format) ∧
    ∀ (before after : List Call) (call : Call) (a : Address),
      call.change? = none ∨ call.address? ≠ some a →
        ((Sheet.ofOptions options).run (before ++ call :: after)).formatAt a.text =
          ((Sheet.ofOptions options).run (before ++ after)).formatAt a.text := by
  constructor
  · intro calls name cell hcell
    have haccounts := accounts_run hbuilt calls
    obtain ⟨event, hevent, rfl, -⟩ := haccounts.named name cell hcell
    have hformatted := formatted_formatAt_run hbuilt calls event.address
    rw [Sheet.formatAt_of_get? hcell] at hformatted
    exact ⟨event.address, rfl, haccounts.holds event hevent, hformatted⟩
  · intro before after call a hcall
    have hskip : (call :: after).filterMap (fun call => call.changeAt? options a) =
        after.filterMap fun call => call.changeAt? options a :=
      List.filterMap_cons_none (Call.changeAt?_eq_none hcall)
    have hoptions : (Sheet.ofOptions options).options = options := rfl
    rw [Sheet.formatAt_run hbuilt, Sheet.formatAt_run hbuilt, hoptions, List.filterMap_append,
      List.filterMap_append, hskip]

end

/-- `A1` is made by a change of format, entered and changed again under `A01`, between calls that
do not matter. Its slant is that of the default format. -/
theorem formatted_run_twoNames :
    let options := ({} : Options).setDefaultFormat { italic := true }
    let calls : List Call := [.changeFormat "A1" { bold := some true, fontSize := some 20 },
      .enter "A1" "x", .changeFormat "B1" { fontSize := some 9 },
      .changeFormat "A01" { bold := some false }, .enterAt ⟨0, 0⟩ "=B1"]
    ∃ cell, ((Sheet.ofOptions options).run calls).cells.get? "A1" = some cell ∧
      cell.format.bold = false ∧ cell.format.italic = true ∧ cell.format.fontSize = 20 := by
  intro options calls
  have hbuilt : options.Built := .setDefaultFormat _ .default
  obtain ⟨cell, hcell⟩ : ∃ cell,
      ((Sheet.ofOptions options).run calls).cells.get? "A1" = some cell :=
    Option.isSome_iff_exists.mp (by decide)
  obtain ⟨a, hname, -, hformatted⟩ := (formatted_run hbuilt).1 calls "A1" cell hcell
  obtain rfl : (⟨0, 0⟩ : Address) = a := Address.eq_of_text_eq (by decide) hname
  exact ⟨cell, hcell, hformatted.bold.trans (by decide), hformatted.italic.trans (by decide),
    hformatted.fontSize.trans (by decide)⟩

end Worksheet
