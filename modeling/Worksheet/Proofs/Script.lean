import Mathlib
import Worksheet.Proofs.Text.Blank
import Worksheet.Script

/-!
# Scripts that are written and run

`Written` is the form of a script: entries on lines of their own, with blank lines and comments
between them, and line ends of both kinds. Such a script does what its entries do, one after the
other, and names the line of the first entry that is refused.

* `lines_flatMap` splits a text at its line feeds.
* `Line` is a line that is written; `entry?_text` says what is read from it.
* `enterLine` enters the entry of one line. `run_text` says that a script is run by entering its
  numbered entries.
-/

namespace Worksheet.Script

/-! ## Lines -/

section

variable {text rest : List Char}

theorem lines_of_not_mem (h : '\n' ∉ text) : lines text = [text] := by
  induction text with
  | nil => rfl
  | cons c text ih =>
    obtain ⟨hc, htext⟩ := not_or.mp (List.mem_cons.not.mp h)
    rw [lines, if_neg (Ne.symm hc), ih htext]

theorem lines_append_lineFeed (h : '\n' ∉ text) :
    lines (text ++ '\n' :: rest) = text :: lines rest := by
  induction text with
  | nil => rw [List.nil_append, lines, if_pos rfl]
  | cons c text ih =>
    obtain ⟨hc, htext⟩ := not_or.mp (List.mem_cons.not.mp h)
    rw [List.cons_append, lines, if_neg (Ne.symm hc), ih htext]

/-- Lines that end in a line feed, and a last one that does not, are split where they end. -/
theorem lines_flatMap {parts : List (List Char)} {last : List Char}
    (hparts : ∀ part ∈ parts, '\n' ∉ part) (hlast : '\n' ∉ last) :
    lines (parts.flatMap (fun part => part ++ ['\n']) ++ last) = parts ++ [last] := by
  induction parts with
  | nil => exact lines_of_not_mem hlast
  | cons part parts ih =>
    have hothers : ∀ other ∈ parts, '\n' ∉ other := fun other hother =>
      hparts other (List.mem_cons_of_mem _ hother)
    rw [List.flatMap_cons, List.append_assoc, List.append_assoc, List.singleton_append,
      lines_append_lineFeed (hparts part List.mem_cons_self), ih hothers, List.cons_append]

/-! ## Carriage returns -/

theorem dropReturns_append (text : List Char) {returns : List Char} (h : ∀ c ∈ returns, c = '\r') :
    dropReturns (text ++ returns) = dropReturns text := by
  rw [dropReturns, List.reverse_append, List.dropWhile_append_of_pos]
  · rfl
  · intro c hc
    rw [h c (List.mem_reverse.mp hc)]
    rfl

theorem dropReturns_of_getLast? (h : text.getLast? ≠ some '\r') : dropReturns text = text := by
  have hfront : Text.NotInFront (· == '\r') text.reverse := by
    intro c hc
    rw [List.head?_reverse] at hc
    exact beq_eq_false_iff_ne.mpr fun heq => h (heq ▸ hc)
  rw [dropReturns, Text.dropWhile_of_front hfront, List.reverse_reverse]

/-- Behind a character that stays, only carriage returns are removed. -/
theorem exists_dropReturns_append_cons (text rest : List Char) {c : Char} (h : c ≠ '\r') :
    ∃ kept, dropReturns (text ++ c :: rest) = text ++ c :: kept := by
  have hc : (c == '\r') = false := beq_eq_false_iff_ne.mpr h
  rw [dropReturns, List.reverse_append, List.reverse_cons, List.append_assoc,
    List.singleton_append, List.dropWhile_append]
  split
  · exact ⟨[], by simp [hc]⟩
  · exact ⟨(rest.reverse.dropWhile (· == '\r')).reverse, by simp⟩

theorem mem_of_mem_dropReturns {c : Char} (h : c ∈ dropReturns text) : c ∈ text := by
  rw [dropReturns, List.mem_reverse] at h
  exact List.mem_reverse.mp ((List.dropWhile_sublist _).mem h)

end

/-! ## Lines that are written -/

/-- Spaces and tabs. -/
def IsSpacing (gap : List Char) : Prop :=
  ∀ c ∈ gap, c = ' ' ∨ c = '\t'

/-- Whether a text can stand first on a line and is taken for an address. -/
structure IsWord (address : String) : Prop where
  ne_nil : address.toList ≠ []
  isBlank_eq_false : ∀ c ∈ address.toList, Text.isBlank c = false
  head?_ne : address.toList.head? ≠ some '#'

/-- Whether a text can stand behind an address on a line. -/
structure IsLineInput (input : String) : Prop where
  lineFeed_not_mem : '\n' ∉ input.toList
  notInFront : Text.NotInFront Text.isBlank input.toList
  getLast?_ne : input.toList.getLast? ≠ some '\r'

/-- Whether an entry can be written on a line. -/
structure Entry.IsPlain (entry : Entry) : Prop where
  address : IsWord entry.address
  input : IsLineInput entry.input

/-- A line that gives an entry: the address behind any indentation, a gap, and the input. -/
structure EntryLine where
  indent : List Char
  entry : Entry
  gap : List Char
  isSpacing_indent : IsSpacing indent
  isSpacing_gap : IsSpacing gap
  gap_ne_nil : gap ≠ []
  isPlain : entry.IsPlain

/-- The characters of a line that gives an entry. -/
def EntryLine.text (line : EntryLine) : List Char :=
  line.indent ++ (line.entry.address.toList ++ (line.gap ++ line.entry.input.toList))

/-- Blanks that stand on one line. -/
def IsIndent (blanks : List Char) : Prop :=
  ∀ c ∈ blanks, Text.isBlank c = true ∧ c ≠ '\n'

/-- The lines that are passed over: blanks, and comments behind any indentation. -/
inductive IsPassed : List Char → Prop where
  | blank {blanks : List Char} (hblanks : IsIndent blanks) : IsPassed blanks
  | comment {indent remark : List Char} (hindent : IsIndent indent) (hremark : '\n' ∉ remark) :
      IsPassed (indent ++ '#' :: remark)

/-- A line of a script. -/
inductive Line where
  | entry (line : EntryLine)
  | passed (chars : List Char) (h : IsPassed chars)

namespace Line

/-- The characters of a line. -/
def text : Line → List Char
  | entry line => line.text
  | passed chars _ => chars

/-- The entry of a line, if it gives one. -/
def entered? : Line → Option Entry
  | entry line => some line.entry
  | passed _ _ => none

end Line

/-! ## Lines that are read -/

theorem IsSpacing.isBlank {gap : List Char} (h : IsSpacing gap) :
    ∀ c ∈ gap, Text.isBlank c = true := by
  intro c hc
  rcases h c hc with rfl | rfl <;> rfl

theorem IsSpacing.not_mem {gap : List Char} (h : IsSpacing gap) {c : Char}
    (hc : c ≠ ' ' ∧ c ≠ '\t') : c ∉ gap := by
  intro hmem
  rcases h c hmem with rfl | rfl
  · exact hc.1 rfl
  · exact hc.2 rfl

namespace EntryLine

variable (line : EntryLine)

theorem lineFeed_not_mem_text : '\n' ∉ line.text := by
  simp only [text, List.mem_append, not_or]
  refine ⟨line.isSpacing_indent.not_mem (by decide), fun hmem => ?_,
    line.isSpacing_gap.not_mem (by decide), line.isPlain.input.lineFeed_not_mem⟩
  exact absurd (line.isPlain.address.isBlank_eq_false _ hmem) (by decide)

/-- A line does not end in a carriage return: where there is no input, it ends in its gap. -/
theorem getLast?_text_ne : line.text.getLast? ≠ some '\r' := by
  have hgap : line.gap.getLast? ≠ some '\r' := fun heq =>
    line.isSpacing_gap.not_mem (by decide) (List.mem_of_getLast? heq)
  simp only [text, List.getLast?_append]
  cases hinput : line.entry.input.toList.getLast? with
  | some c => simpa [hinput] using line.isPlain.input.getLast?_ne
  | none =>
    cases hlast : line.gap.getLast? with
    | some c => simpa [hlast] using hgap
    | none => exact absurd (List.getLast?_eq_none_iff.mp hlast) line.gap_ne_nil

/-- The address and the input are read as they are written, whatever gap stands between them. -/
theorem entry?_eq {chars : List Char} (h : dropReturns chars = line.text) :
    entry? chars = some line.entry := by
  have hplain := line.isPlain
  have hgap := line.isSpacing_gap.isBlank
  obtain ⟨c, others, hcons⟩ := List.exists_cons_of_ne_nil hplain.address.ne_nil
  have hhash : c ≠ '#' := fun heq => hplain.address.head?_ne (by rw [hcons, heq]; rfl)
  have hword : ∀ d ∈ line.entry.address.toList, (!Text.isBlank d) = true := fun d hd => by
    rw [hplain.address.isBlank_eq_false d hd]
    rfl
  have hbehind : Text.NotInFront (!Text.isBlank ·) (line.gap ++ line.entry.input.toList) := by
    obtain ⟨d, gap, hd⟩ := List.exists_cons_of_ne_nil line.gap_ne_nil
    rw [hd, List.cons_append, Text.notInFront_cons, hgap d (hd ▸ List.mem_cons_self)]
    rfl
  have hfront : Text.NotInFront Text.isBlank
      (line.entry.address.toList ++ (line.gap ++ line.entry.input.toList)) := by
    rw [Text.notInFront_append_of_ne_nil hplain.address.ne_nil]
    exact Text.notInFront_of_forall hplain.address.isBlank_eq_false
  have hbody := Text.trimStart_append line.isSpacing_indent.isBlank hfront
  have haddress := Text.takeWhile_append_of_front hword hbehind
  have hrest := Text.dropWhile_append_of_front hword hbehind
  have hinput := Text.trimStart_append hgap hplain.input.notInFront
  unfold entry?
  rw [h, text, hbody]
  simp only [haddress, hrest, hinput, String.ofList_toList]
  rw [hcons, List.cons_append]
  split
  · next heq => cases heq
  · next heq => exact absurd (List.cons.inj heq).1 hhash
  · rfl

end EntryLine

theorem IsPassed.lineFeed_not_mem {chars : List Char} (h : IsPassed chars) : '\n' ∉ chars := by
  cases h with
  | blank hblanks => exact fun hmem => (hblanks _ hmem).2 rfl
  | comment hindent hremark =>
    simp only [List.mem_append, List.mem_cons, not_or]
    exact ⟨fun hmem => (hindent _ hmem).2 rfl, by decide, hremark⟩

/-- A blank line or a comment gives no entry, whatever carriage returns it ends in. -/
theorem IsPassed.entry?_eq_none {chars line : List Char} (h : IsPassed chars)
    (hline : dropReturns line = dropReturns chars) : entry? line = none := by
  cases h with
  | blank hblanks =>
    have hbody : Text.trimStart (dropReturns chars) = [] :=
      List.dropWhile_eq_nil_iff.mpr fun c hc => (hblanks c (mem_of_mem_dropReturns hc)).1
    unfold entry?
    rw [hline, hbody]
  | @comment indent remark hindent hremark =>
    obtain ⟨kept, hkept⟩ := exists_dropReturns_append_cons indent remark
      (show '#' ≠ '\r' by decide)
    have hbody : Text.trimStart (indent ++ '#' :: kept) = '#' :: kept :=
      Text.trimStart_append (fun c hc => (hindent c hc).1) (Text.notInFront_cons.mpr (by decide))
    unfold entry?
    rw [hline, hkept, hbody]
    rfl

namespace Line

theorem lineFeed_not_mem_text (line : Line) : '\n' ∉ line.text := by
  cases line with
  | entry line => exact line.lineFeed_not_mem_text
  | passed chars h => exact h.lineFeed_not_mem

/-- A line is read as its entry, with or without carriage returns at its end. -/
theorem entry?_text (line : Line) {returns : List Char} (hreturns : ∀ c ∈ returns, c = '\r') :
    entry? (line.text ++ returns) = line.entered? := by
  have hdrop := dropReturns_append line.text hreturns
  cases line with
  | entry line =>
    rw [text, dropReturns_of_getLast? line.getLast?_text_ne] at hdrop
    exact line.entry?_eq hdrop
  | passed chars h => exact h.entry?_eq_none hdrop

end Line

/-! ## Scripts that are written -/

/-- The two ends of a line. -/
inductive LineEnd where
  | lineFeed
  | returnAndLineFeed

/-- What stands in front of the line feed of a line end. -/
def LineEnd.returns : LineEnd → List Char
  | lineFeed => []
  | returnAndLineFeed => ['\r']

/-- Numbers lines from a given number on, and keeps those that give an entry. -/
def numberFrom (number : Nat) : List (Option Entry) → List (Nat × Entry)
  | [] => []
  | none :: others => numberFrom (number + 1) others
  | some entry :: others => (number, entry) :: numberFrom (number + 1) others

/-- A script that is written: lines with their ends, and perhaps a last one without an end. -/
structure Written where
  lines : List (Line × LineEnd)
  last? : Option Line

namespace Written

/-- The text of a script that is written. -/
def text (script : Written) : String :=
  String.ofList
    (script.lines.flatMap (fun (line, lineEnd) => line.text ++ lineEnd.returns ++ ['\n']) ++
      script.last?.elim [] Line.text)

/-- The entries of a script, each with the number of its line; lines are counted from one. -/
def numbered (script : Written) : List (Nat × Entry) :=
  numberFrom 1 (script.lines.map (fun (line, _) => line.entered?) ++
    [script.last?.bind Line.entered?])

/-- The entries of a script. -/
def entries (script : Written) : List Entry :=
  script.numbered.map Prod.snd

end Written

theorem map_snd_numberFrom (number : Nat) (found : List (Option Entry)) :
    (numberFrom number found).map Prod.snd = found.filterMap id := by
  induction found generalizing number with
  | nil => rfl
  | cons entry? found ih =>
    cases entry? with
    | none => exact ih (number + 1)
    | some entry => exact congrArg (entry :: ·) (ih (number + 1))

theorem Line.isPlain_of_entered? {line : Line} {entry : Entry} (h : line.entered? = some entry) :
    entry.IsPlain := by
  cases line with
  | entry line =>
    cases h
    exact line.isPlain
  | passed chars hpassed => cases h

theorem Written.isPlain_of_mem_entries (script : Written) :
    ∀ entry ∈ script.entries, entry.IsPlain := by
  intro entry hentry
  rw [entries, numbered, map_snd_numberFrom, List.mem_filterMap] at hentry
  obtain ⟨found, hfound, rfl⟩ := hentry
  rcases List.mem_append.mp hfound with hline | hlast
  · obtain ⟨line, -, heq⟩ := List.mem_map.mp hline
    exact Line.isPlain_of_entered? heq
  · obtain ⟨line, -, heq⟩ := Option.bind_eq_some_iff.mp (List.mem_singleton.mp hlast).symm
    exact Line.isPlain_of_entered? heq

/-! ## Scripts that are run -/

/-- Enters the entry of a numbered line. -/
def enterLine (sheet : Sheet) (line : Nat × Entry) : Except Rejection Sheet :=
  match sheet.enter line.2.address line.2.input with
  | .ok (_, sheet) => .ok sheet
  | .error cause => .error ⟨line.1, cause⟩

/-- Lines are run by entering the entries that they give, one after the other. -/
theorem runFrom_eq_foldlM (number : Nat) (sheet : Sheet) (lines : List (List Char)) :
    runFrom number sheet lines =
      (numberFrom number (lines.map entry?)).foldlM enterLine sheet := by
  induction lines generalizing number sheet with
  | nil => rfl
  | cons line others ih =>
    rw [runFrom, List.map_cons]
    cases entry? line with
    | none => exact ih (number + 1) sheet
    | some entry =>
      simp only [numberFrom, List.foldlM_cons, enterLine]
      cases sheet.enter entry.address entry.input with
      | error cause => rfl
      | ok entered => exact ih (number + 1) entered.2

namespace Written

variable (script : Written)

theorem lines_text :
    Script.lines script.text.toList =
      script.lines.map (fun (line, lineEnd) => line.text ++ lineEnd.returns) ++
        [script.last?.elim [] Line.text] := by
  rw [text, String.toList_ofList, ← lines_flatMap, List.flatMap_map]
  · rintro _ hpart
    obtain ⟨⟨line, lineEnd⟩, -, rfl⟩ := List.mem_map.mp hpart
    rw [List.mem_append, not_or]
    exact ⟨line.lineFeed_not_mem_text, by cases lineEnd <;> decide⟩
  · cases script.last? with
    | none => exact List.not_mem_nil
    | some line => exact line.lineFeed_not_mem_text

/-- A script that is written is run by entering its entries, one after the other. -/
theorem run_text : run script.text = script.numbered.foldlM enterLine {} := by
  have hended : ∀ line ∈ script.lines,
      entry? (line.1.text ++ line.2.returns) = line.1.entered? := fun line _ =>
    line.1.entry?_text (by cases line.2 <;> simp [LineEnd.returns])
  have hlast : entry? (script.last?.elim [] Line.text) = script.last?.bind Line.entered? := by
    cases script.last? with
    | none => rfl
    | some line =>
      have hline := line.entry?_text (fun _ hc => absurd hc List.not_mem_nil)
      rwa [List.append_nil] at hline
  rw [run, runFrom_eq_foldlM, lines_text, numbered, List.map_append, List.map_map,
    List.map_singleton, hlast]
  exact congrArg (fun found => (numberFrom 1 (found ++ _)).foldlM enterLine {})
    (List.map_congr_left hended)

theorem text_cons (line : Line) (lineEnd : LineEnd) (script : Written) :
    text ⟨(line, lineEnd) :: script.lines, script.last?⟩ =
      String.ofList (line.text ++ lineEnd.returns ++ ['\n']) ++ script.text := by
  rw [text, text, List.flatMap_cons, List.append_assoc _ _ (Option.elim ..), String.ofList_append]

/-- Every list of entries can be written: each on a line of its own, behind one blank. -/
theorem exists_plain {entries : List Entry} (h : ∀ entry ∈ entries, entry.IsPlain) :
    ∃ script : Written, script.entries = entries ∧
      script.text = String.join
        (entries.map fun entry => entry.address ++ " " ++ entry.input ++ "\n") := by
  induction entries with
  | nil => exact ⟨⟨[], none⟩, rfl, rfl⟩
  | cons entry entries ih =>
    obtain ⟨script, hentries, htext⟩ := ih fun other hother =>
      h other (List.mem_cons_of_mem _ hother)
    let line : EntryLine := {
      indent := []
      entry := entry
      gap := [' ']
      isSpacing_indent := fun _ hc => absurd hc List.not_mem_nil
      isSpacing_gap := fun _ hc => Or.inl (List.mem_singleton.mp hc)
      gap_ne_nil := List.cons_ne_nil _ _
      isPlain := h entry List.mem_cons_self }
    refine ⟨⟨(.entry line, .lineFeed) :: script.lines, script.last?⟩, ?_, ?_⟩
    · rw [Written.entries, numbered, map_snd_numberFrom] at hentries ⊢
      simpa [Line.entered?, line] using hentries
    · rw [text_cons, htext]
      apply String.toList_inj.mp
      simp [String.toList_join, Line.text, EntryLine.text, LineEnd.returns, line]

end Written

end Worksheet.Script
