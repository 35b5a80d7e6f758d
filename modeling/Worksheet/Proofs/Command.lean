import Worksheet.CommandLine
import Worksheet.Proofs.Address.Name
import Worksheet.Proofs.Formula.Lexeme
import Worksheet.Proofs.Script
import Worksheet.Proofs.Sheet.Listing

/-!
# What the commands print

A script that is written enters its entries into a new sheet, one after the other. If the sheet
takes them all, its cells are listed line by line; otherwise nothing is listed, and the line of the
first refused entry is named.

An input that is evaluated behind assignments shows what it would show as the last entry of a
script with the same entries, although the two commands take their entries apart in different
ways.

* `Performs` says that a step of a command makes one call. `foldlM_eq_ok_iff` ties the steps of a
  command to a run of calls, and `performs_enterLine` and `performs_assign` are the two commands.
* `Written.listed` is what a script leaves, and `apply_written` what is printed for it.
* `lines_listing` takes a listing apart. `evaluate_eq` is what is shown behind assignments, and
  `evaluate_iff_apply` compares the two.
-/

namespace Worksheet

/-! ## Steps that make calls -/

/-- Whether a step of a command makes a call, and reports why it is refused in its own way. -/
def Performs {ε : Type} (step : Sheet → Except ε Sheet) (call : Call) : Prop :=
  ∃ report : Error → ε, ∀ sheet, step sheet = (call.perform sheet).mapError report

section

variable {ε : Type} {step : Sheet → Except ε Sheet} {call : Call} {sheet : Sheet}

theorem Performs.of_target? (h : Performs step call) {a : Address}
    (htarget : call.target? sheet.options = some a) : step sheet = .ok (sheet.after call) := by
  obtain ⟨report, hstep⟩ := h
  rw [hstep, Call.perform_of_target? htarget, Sheet.after_of_target? htarget]
  rfl

theorem Performs.of_target?_eq_none (h : Performs step call)
    (htarget : call.target? sheet.options = none) : ∃ cause, step sheet = .error cause := by
  obtain ⟨report, hstep⟩ := h
  obtain ⟨cause, hcause⟩ := Call.perform_of_target?_eq_none htarget
  exact ⟨report cause, by rw [hstep, hcause]; rfl⟩

/-- Steps succeed one after the other exactly if each of their calls lies in the sheet, and leave
what the calls leave. -/
theorem foldlM_eq_ok_iff {α : Type} {steps : Sheet → α → Except ε Sheet} {calls : α → Call}
    {items : List α} {final : Sheet}
    (hsteps : ∀ item ∈ items, Performs (fun sheet => steps sheet item) (calls item)) :
    items.foldlM steps sheet = .ok final ↔
      (∀ item ∈ items, ((calls item).target? sheet.options).isSome = true) ∧
        final = sheet.run (items.map calls) := by
  induction items generalizing sheet with
  | nil =>
    have hsame : (pure sheet : Except ε Sheet) = .ok final ↔ final = sheet :=
      ⟨fun h => (Except.ok.inj h).symm, fun h => h ▸ rfl⟩
    simpa [Sheet.run] using hsame
  | cons item items ih =>
    have hfirst := hsteps item List.mem_cons_self
    rw [List.foldlM_cons, List.forall_mem_cons, List.map_cons]
    cases htarget : (calls item).target? sheet.options with
    | none =>
      obtain ⟨cause, hcause⟩ := hfirst.of_target?_eq_none htarget
      simp [hcause, bind, Except.bind]
    | some a =>
      have hrest : items.foldlM steps (sheet.after (calls item)) = .ok final ↔ _ :=
        ih fun other hother => hsteps other (List.mem_cons_of_mem _ hother)
      have hbind : (steps sheet item >>= fun sheet => items.foldlM steps sheet) =
          items.foldlM steps (sheet.after (calls item)) := by
        rw [hfirst.of_target? htarget]
        rfl
      rw [hbind, hrest, Sheet.options_after]
      simp [Sheet.run]

end

/-! ## Scripts -/

namespace Script

/-- The call that an entry stands for. -/
def Entry.call (entry : Entry) : Call :=
  .enter entry.address entry.input

theorem performs_enterLine (line : Nat × Entry) :
    Performs (fun sheet => enterLine sheet line) line.2.call := by
  refine ⟨fun cause => ⟨line.1, cause⟩, fun sheet => ?_⟩
  simp only [enterLine, Entry.call, Call.perform]
  cases sheet.enter line.2.address line.2.input <;> rfl

/-- Where every entry is taken, it is taken at the position that its address spells. -/
theorem filterMap_target?_eq {entries : List Entry} {options : Options}
    (h : ∀ entry ∈ entries, (entry.call.target? options).isSome = true) :
    (entries.map Entry.call).filterMap (fun call => call.target? options) =
      entries.filterMap fun entry => Address.parse? entry.address := by
  rw [List.filterMap_map]
  refine List.filterMap_congr fun entry hentry => ?_
  obtain ⟨a, htarget⟩ := Option.isSome_iff_exists.mp (h entry hentry)
  have hparse : Address.parse? entry.address = some a := (Call.target?_eq_some_iff.mp htarget).1
  rw [Function.comp_apply, htarget, hparse]

theorem Written.map_call_entries (script : Written) :
    script.entries.map Entry.call = script.numbered.map fun line => line.2.call := by
  rw [entries, List.map_map]
  rfl

/-- A script that is written leaves cells under written names that show one line each, as many as
positions are spelled. -/
theorem Written.listed (script : Written) {sheet : Sheet}
    (h : script.numbered.foldlM enterLine {} = .ok sheet) :
    sheet.cells.Canonical ∧ sheet.cells.ShowsLines ∧
      sheet.size = (script.entries.filterMap fun entry =>
        Address.parse? entry.address).dedup.length := by
  obtain ⟨htaken, hsheet⟩ := (foldlM_eq_ok_iff fun line _ => performs_enterLine line).mp h
  have hentries : ∀ entry ∈ script.entries,
      (entry.call.target? ({} : Sheet).options).isSome = true :=
    List.forall_mem_map.mpr htaken
  rw [← script.map_call_entries] at hsheet
  subst hsheet
  have hempty : ({} : Sheet).cells.ShowsLines := by
    intro name cell hcell
    cases hcell
  refine ⟨canonical_run .default _, showsLines_run (fun call hcall => ?_) hempty, ?_⟩
  · obtain ⟨entry, hentry, rfl⟩ := List.mem_map.mp hcall
    rintro _ ⟨⟩
    exact (script.isPlain_of_mem_entries entry hentry).input.lineFeed_not_mem
  · rw [← filterMap_target?_eq hentries]
    exact size_run .default _

end Script

namespace Command

/-- A script that is written does what its entries do on a new sheet, one after the other. If one
of them is refused, the script fails with the number of its line and the cause, and prints
nothing. If all are taken, the cells of the sheet are printed, one line for each and in row-major
order, and the number of cells that is reported is that of the positions that the addresses
spell. -/
theorem apply_written (script : Script.Written) :
    match script.numbered.foldlM Script.enterLine {} with
    | .error rejection => ∀ asJson, apply script.text asJson =
        { code := 1
          stdout := ""
          stderr := "Error: Line " ++ toString rejection.line ++ ": " ++ rejection.cause.message ++
            "\n" }
    | .ok sheet => ∃ rows : List (Address × Cell),
        apply script.text false =
          { code := 0
            stdout := String.join (rows.map fun (a, cell) =>
              a.text ++ "\t" ++ cell.display ++ "\n")
            stderr := "Applied " ++ toString (script.entries.filterMap fun entry =>
              Address.parse? entry.address).dedup.length ++ " cells\n" } ∧
        rows.Pairwise (fun p q => p.1.Before q.1) ∧
        (∀ a cell, (a, cell) ∈ rows ↔ sheet.cells.getAt? a = some cell) ∧
        (∀ name cell, sheet.cells.get? name = some cell → ∃ a : Address, name = a.text) ∧
        ∀ row ∈ rows, '\n' ∉ row.2.display.toList := by
  cases hfold : script.numbered.foldlM Script.enterLine {} with
  | error rejection =>
    intro asJson
    rw [apply, script.run_text, hfold]
    rfl
  | ok sheet =>
    obtain ⟨hcanonical, hlines, hsize⟩ := script.listed hfold
    refine ⟨sheet.cells.sorted, ?_, Snapshot.pairwise_before_sorted hcanonical.spellsApart,
      fun a cell => hcanonical.mem_sorted_iff, fun name cell hcell => ?_, ?_⟩
    · rw [apply, script.run_text, hfold, ← hsize]
      rfl
    · obtain ⟨a, -, hname⟩ := hcanonical name cell hcell
      exact ⟨a, hname⟩
    · rintro ⟨a, cell⟩ hrow
      exact hlines _ _ (hcanonical.mem_sorted_iff.mp hrow)

/-- The lines that are passed over are counted, and the cell that was entered is not printed. -/
example : apply "# rows\r\n\tA1  5\r\n\r\nZ99 x" false =
    { code := 1
      stdout := ""
      stderr := "Error: Line 4: Row index 98 out of bounds (max: 49)\n" } := by
  decide

end Command

/-! ## Accepted addresses -/

namespace Script

/-- A name that is read has no blank and no equals sign, and does not begin a comment. -/
theorem isWord_of_parse? {name : String} {a : Address} (h : Address.parse? name = some a) :
    IsWord name ∧ '=' ∉ name.toList := by
  obtain ⟨spelling, hproper, hname, -⟩ := Address.parse?_eq_some_iff_names.mp h
  have hword : ∀ c ∈ name.toList, Formula.continuesWord c = true := by
    rw [hname, Address.Spelling.text, List.forall_mem_cons]
    exact ⟨Formula.continuesWord_of_isUpper hproper.isUpper_letter, fun c hc =>
      Formula.continuesWord_of_isDigit (hproper.isDigit_digits c hc)⟩
  refine ⟨⟨?_, fun c hc => Formula.isBlank_eq_false_of_continuesWord (hword c hc), ?_⟩, ?_⟩
  · rw [hname]
    exact List.cons_ne_nil _ _
  · intro hcomment
    have hletter := hproper.isUpper_letter
    rw [hname, Address.Spelling.text, List.head?_cons, Option.some.injEq] at hcomment
    rw [hcomment] at hletter
    cases hletter
  · exact fun hmem => absurd (hword _ hmem) (by decide)

end Script

/-! ## Assignments -/

namespace Command

theorem splitAssignment?_append {address : String} (h : '=' ∉ address.toList) (input : String) :
    splitAssignment? (address ++ "=" ++ input) = some (address, input) := by
  have hword : ∀ c ∈ address.toList, (c != '=') = true := fun c hc =>
    bne_iff_ne.mpr fun heq => h (heq ▸ hc)
  have hfront : Text.NotInFront (· != '=') ('=' :: input.toList) :=
    Text.notInFront_cons.mpr (by decide)
  have htext : (address ++ "=" ++ input).toList = address.toList ++ '=' :: input.toList := by
    simp
  rw [splitAssignment?, htext, Text.dropWhile_append_of_front hword hfront,
    Text.takeWhile_append_of_front hword hfront]
  simp only [String.ofList_toList]

/-- An assignment of a text without blanks around it enters the input behind its equals sign. -/
theorem performs_assign {entry : Script.Entry} (haddress : Script.IsWord entry.address)
    (hequal : '=' ∉ entry.address.toList) :
    Performs (fun sheet => assign sheet (entry.address ++ "=" ++ entry.input)) entry.call := by
  have htrim : Text.trim entry.address.toList = entry.address.toList :=
    Text.trim_of_not_blank haddress.isBlank_eq_false
  refine ⟨fun cause => .rejectedAssignment entry.address cause, fun sheet => ?_⟩
  simp only [assign, splitAssignment?_append hequal, htrim, String.ofList_toList,
    Script.Entry.call, Call.perform]
  cases sheet.enter entry.address entry.input <;> rfl

/-! ## Lines of a listing -/

/-- A listing is split into its rows: no written name has a line feed in it. -/
theorem lines_listing {cells : Snapshot} (h : cells.ShowsLines) (hcanonical : cells.Canonical) :
    Script.lines (listing cells).toList =
      cells.sorted.map (fun (a, cell) => (a.text ++ "\t" ++ cell.display).toList) ++ [[]] := by
  have hrows : ∀ row ∈ cells.sorted.map fun (a, cell) => (a.text ++ "\t" ++ cell.display).toList,
      '\n' ∉ row := by
    intro row hrow
    obtain ⟨⟨a, cell⟩, hcell, rfl⟩ := List.mem_map.mp hrow
    have hname : '\n' ∉ a.text.toList := Address.not_mem_text (by decide) (by decide) (by decide)
    have hdisplay := h _ _ (hcanonical.mem_sorted_iff.mp hcell)
    simp [hname, hdisplay]
  rw [← Script.lines_flatMap hrows List.not_mem_nil]
  simp [listing, String.toList_join, List.flatMap_map]

/-- A row gives its position and what is shown there. -/
theorem row_inj {a b : Address} {shown shown' : String}
    (h : (a.text ++ "\t" ++ shown).toList = (b.text ++ "\t" ++ shown').toList) :
    a.text = b.text ∧ shown = shown' := by
  have htab (a : Address) : ∀ c ∈ a.text.toList, (c != '\t') = true := fun c hc =>
    bne_iff_ne.mpr fun heq =>
      Address.not_mem_text (by decide) (by decide) (by decide) (heq ▸ hc)
  have hfront (shown : String) : Text.NotInFront (· != '\t') ('\t' :: shown.toList) :=
    Text.notInFront_cons.mpr (by decide)
  have hsplit (a : Address) (shown : String) :
      (a.text ++ "\t" ++ shown).toList = a.text.toList ++ '\t' :: shown.toList := by
    simp
  rw [hsplit, hsplit] at h
  have hname := congrArg (List.takeWhile (· != '\t')) h
  have hshown := congrArg (List.dropWhile (· != '\t')) h
  rw [Text.takeWhile_append_of_front (htab a) (hfront shown),
    Text.takeWhile_append_of_front (htab b) (hfront shown')] at hname
  rw [Text.dropWhile_append_of_front (htab a) (hfront shown),
    Text.dropWhile_append_of_front (htab b) (hfront shown'), List.cons.injEq] at hshown
  exact ⟨String.toList_inj.mp hname, String.toList_inj.mp hshown.2⟩

/-- The rows of a position are those that show its cell. -/
theorem row_mem_lines_listing_iff {cells : Snapshot} (h : cells.ShowsLines)
    (hcanonical : cells.Canonical) {a : Address} {cell : Cell} (hcell : cells.getAt? a = some cell)
    (shown : String) :
    (a.text ++ "\t" ++ shown).toList ∈ Script.lines (listing cells).toList ↔
      cell.display = shown := by
  rw [lines_listing h hcanonical, List.mem_append, List.mem_map]
  constructor
  · rintro (⟨⟨b, stored⟩, hrow, heq⟩ | hlast)
    · obtain ⟨hname, rfl⟩ := row_inj heq
      have hstored := hcanonical.mem_sorted_iff.mp hrow
      rw [Snapshot.getAt?, hname, ← Snapshot.getAt?, hcell] at hstored
      cases hstored
      rfl
    · simp at hlast
  · rintro rfl
    exact Or.inl ⟨(a, cell), hcanonical.mem_sorted_iff.mpr hcell, rfl⟩

end Command

/-! ## The arguments of an evaluation -/

namespace Arguments

theorem collect?_set (arguments : Arguments) (texts rest : List String) :
    collect? arguments (texts.flatMap (fun text => ["--set", text]) ++ rest) =
      collect? { arguments with assignments := arguments.assignments ++ texts } rest := by
  induction texts generalizing arguments with
  | nil => simp
  | cons text texts ih =>
    rw [List.flatMap_cons, List.append_assoc, List.cons_append, List.singleton_append]
    simp [collect?, addAssignment, ih]

end Arguments

theorem Invocation.parse?_evaluate (assignments : List String) (input : String) :
    parse? ("eval" :: assignments.flatMap (fun text => ["--set", text]) ++ ["--", input]) =
      some ⟨.evaluate none assignments input, false⟩ := by
  have hcommand (rest : List String) : Arguments.collect? {} ("eval" :: rest) =
      Arguments.collect? { positional := ["eval"] } rest := by
    simp [Arguments.collect?, Arguments.behind?, Arguments.addPositional]
  rw [parse?, List.cons_append, hcommand, Arguments.collect?_set]
  simp [Arguments.collect?, Arguments.addPositional]

/-! ## Two ways to see what an input shows -/

namespace Command

open Script (Entry)

theorem target?_call {sheet : Sheet} {entry : Entry} {a : Address}
    (h : sheet.addressOf entry.address = .ok a) : entry.call.target? sheet.options = some a := by
  obtain ⟨hparse, ha⟩ := Sheet.addressOf_eq_ok_iff.mp h
  exact Call.target?_eq_some_iff.mpr ⟨hparse, ha⟩

theorem isSome_target?_call {sheet : Sheet} {entry : Entry}
    (h : ∃ a, sheet.addressOf entry.address = .ok a) :
    (entry.call.target? sheet.options).isSome = true := by
  obtain ⟨a, ha⟩ := h
  rw [target?_call ha]
  rfl

/-- Assignments to accepted addresses are entered, and the input is shown as it would be then. -/
theorem evaluate_eq {entries : List Entry}
    (haddresses : ∀ entry ∈ entries, ∃ a, ({} : Sheet).addressOf entry.address = .ok a)
    (input : String) :
    evaluate none (entries.map fun entry => entry.address ++ "=" ++ entry.input) input =
      { code := 0
        stdout := Formula.displayOfInput input
          (({} : Sheet).run (entries.map Entry.call)).cells ++ "\n"
        stderr := "" } := by
  have hsteps : ∀ entry ∈ entries,
      Performs (fun sheet => assign sheet (entry.address ++ "=" ++ entry.input)) entry.call := by
    intro entry hentry
    obtain ⟨a, ha⟩ := haddresses entry hentry
    obtain ⟨hword, hequal⟩ := Script.isWord_of_parse? (Sheet.addressOf_eq_ok_iff.mp ha).1
    exact performs_assign hword hequal
  have hfold : (entries.map fun entry => entry.address ++ "=" ++ entry.input).foldlM assign
      ({} : Sheet) = .ok (({} : Sheet).run (entries.map Entry.call)) := by
    rw [List.foldlM_map]
    exact (foldlM_eq_ok_iff hsteps).mpr
      ⟨fun entry hentry => isSome_target?_call (haddresses entry hentry), rfl⟩
  simp only [evaluate, readCells, bind, Except.bind, hfold]
  rfl

/-- A script of accepted entries is run to its end, and the last entry shows what its input shows
on the cells that the others leave. -/
theorem exists_cell_of_written {script : Script.Written} {entries : List Entry} {x f : String}
    {a : Address} (hscript : script.entries = entries ++ [⟨x, f⟩])
    (haddresses : ∀ entry ∈ entries, ∃ b, ({} : Sheet).addressOf entry.address = .ok b)
    (hx : ({} : Sheet).addressOf x = .ok a) :
    ∃ sheet cell, script.numbered.foldlM Script.enterLine {} = .ok sheet ∧
      sheet.cells.getAt? a = some cell ∧ cell.display = Formula.displayOfInput f
        (({} : Sheet).run (entries.map Entry.call)).cells := by
  have htaken : ∀ entry ∈ script.entries,
      (entry.call.target? ({} : Sheet).options).isSome = true := by
    rw [hscript, List.forall_mem_append, List.forall_mem_singleton]
    exact ⟨fun entry hentry => isSome_target?_call (haddresses entry hentry),
      isSome_target?_call ⟨a, hx⟩⟩
  have hfold := (foldlM_eq_ok_iff fun line _ => Script.performs_enterLine line).mpr
    ⟨List.forall_mem_map.mp htaken, rfl⟩
  have hlast : (Entry.call ⟨x, f⟩).target?
      (({} : Sheet).run (entries.map Entry.call)).options = some a := by
    rw [Sheet.options_run]
    exact target?_call hx
  have hsheet : ({} : Sheet).run (script.numbered.map fun line => line.2.call) =
      (({} : Sheet).run (entries.map Entry.call)).put a
        ((({} : Sheet).run (entries.map Entry.call)).enteredCell a f) := by
    have hcalls : script.numbered.map (fun line => line.2.call) =
        entries.map Entry.call ++ [Entry.call ⟨x, f⟩] := by
      rw [← script.map_call_entries, hscript, List.map_append, List.map_singleton]
    rw [hcalls, Sheet.run_append_singleton, Sheet.after_of_target? hlast]
    rfl
  refine ⟨_, (({} : Sheet).run (entries.map Entry.call)).enteredCell a f, hfold, ?_, rfl⟩
  rw [hsheet, Sheet.put, Snapshot.getAt?, Snapshot.get?_insert_self]

/-- The two commands agree. Assignments to accepted addresses and an input give the text that is
shown under the last address if a script enters all of them, the input last; it is shown on one
line, behind the written name of the position. -/
theorem evaluate_iff_apply {entries : List Entry} {x f : String} {a : Address}
    (haddresses : ∀ entry ∈ entries, ∃ b, ({} : Sheet).addressOf entry.address = .ok b)
    (hinputs : ∀ entry ∈ entries, Script.IsLineInput entry.input)
    (hx : ({} : Sheet).addressOf x = .ok a) (hf : Script.IsLineInput f) :
    let assignments := entries.map fun entry => entry.address ++ "=" ++ entry.input
    let script := String.join ((entries ++ [(⟨x, f⟩ : Entry)]).map fun entry =>
      entry.address ++ " " ++ entry.input ++ "\n")
    Invocation.parse? ("eval" :: assignments.flatMap (fun text => ["--set", text]) ++ ["--", f]) =
        some ⟨.evaluate none assignments f, false⟩ ∧
      (apply script false).code = 0 ∧
      ∃ d, evaluate none assignments f = { code := 0, stdout := d ++ "\n", stderr := "" } ∧
        ∀ shown : String, (a.text ++ "\t" ++ shown).toList ∈
          Script.lines (apply script false).stdout.toList ↔ shown = d := by
  intro assignments script
  have hword {name : String} (h : ∃ b, ({} : Sheet).addressOf name = .ok b) :
      Script.IsWord name := by
    obtain ⟨b, hb⟩ := h
    exact (Script.isWord_of_parse? (Sheet.addressOf_eq_ok_iff.mp hb).1).1
  have hplain : ∀ entry ∈ entries ++ [⟨x, f⟩], entry.IsPlain := by
    rw [List.forall_mem_append, List.forall_mem_singleton]
    exact ⟨fun entry hentry => ⟨hword (haddresses entry hentry), hinputs entry hentry⟩,
      hword ⟨a, hx⟩, hf⟩
  obtain ⟨written, hwritten, htext⟩ := Script.Written.exists_plain hplain
  obtain ⟨sheet, cell, hfold, hcell, hdisplay⟩ := exists_cell_of_written hwritten haddresses hx
  obtain ⟨hcanonical, hlines, -⟩ := written.listed hfold
  have hrun : Script.run script = .ok sheet := by
    rw [← hfold, ← written.run_text, htext]
  refine ⟨Invocation.parse?_evaluate _ _, by rw [apply, hrun], _, evaluate_eq haddresses f, ?_⟩
  intro shown
  rw [apply, hrun]
  exact (row_mem_lines_listing_iff hlines hcanonical hcell shown).trans (by rw [hdisplay, eq_comm])

/-- An address is assigned under two spellings, and an input with an equals sign is entered; the
last formula names its own address. -/
theorem evaluate_iff_apply_ownAddress :
    let entries : List Entry := [⟨"A1", "2"⟩, ⟨"A01", "=A1*3"⟩, ⟨"B2", "a=b"⟩]
    let assignments := entries.map fun entry => entry.address ++ "=" ++ entry.input
    let script := String.join ((entries ++ [(⟨"A1", "=A1+1"⟩ : Entry)]).map fun entry =>
      entry.address ++ " " ++ entry.input ++ "\n")
    ∃ d, evaluate none assignments "=A1+1" = { code := 0, stdout := d ++ "\n", stderr := "" } ∧
      ∀ shown : String, ((⟨0, 0⟩ : Address).text ++ "\t" ++ shown).toList ∈
        Script.lines (apply script false).stdout.toList ↔ shown = d := by
  intro entries assignments script
  have hinput : ∀ input ∈ ["2", "=A1*3", "a=b", "=A1+1"], Script.IsLineInput input := by
    intro input hinput
    simp only [List.mem_cons, List.not_mem_nil, or_false] at hinput
    rcases hinput with rfl | rfl | rfl | rfl <;>
      exact ⟨by decide, by simp [Text.NotInFront, Text.isBlank], by decide⟩
  have haddresses : ∀ entry ∈ entries, ∃ b, ({} : Sheet).addressOf entry.address = .ok b := by
    intro entry hentry
    simp only [entries, List.mem_cons, List.not_mem_nil, or_false] at hentry
    rcases hentry with rfl | rfl | rfl
    · exact ⟨⟨0, 0⟩, by decide⟩
    · exact ⟨⟨0, 0⟩, by decide⟩
    · exact ⟨⟨1, 1⟩, by decide⟩
  have hinputs : ∀ entry ∈ entries, Script.IsLineInput entry.input := by
    intro entry hentry
    exact hinput _ (by
      simp only [entries, List.mem_cons, List.not_mem_nil, or_false] at hentry
      rcases hentry with rfl | rfl | rfl <;> decide)
  exact (evaluate_iff_apply haddresses hinputs (a := ⟨0, 0⟩) (by decide)
    (hinput _ (by decide))).2.2

end Command

end Worksheet
