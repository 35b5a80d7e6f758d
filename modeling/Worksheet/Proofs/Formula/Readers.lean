import Worksheet.Proofs.Formula.Failure
import Worksheet.Proofs.Formula.NumberText
import Worksheet.Proofs.Formula.RangeAgreement

/-!
# The two readers of numbers agree

What a cell shows is read as a number in two places: an aggregate looks for a number at the front
of the text, and arithmetic takes the text as an expression in the place of the reference. The two
readers share no code, and they agree on every text that is a number between blanks.

* `ShowsNumber` lists these texts.
* `ShowsNumber.leading?_eq` and `ShowsNumber.arithmetic_eq` are the two readers.
* `result_reference` and `result_extreme` carry them to the formulas that name one cell, and
  `readers_agree` puts all of this together.
-/

namespace Worksheet.Formula

open Address (Spelling nameOf ofName)
open Number (Signed)
open Text (NotInFront)

/-- Whether a text is a signed number between blanks. -/
def ShowsNumber (shown : String) (s : Signed) : Prop :=
  ∃ lead trail, Blanks lead ∧ Blanks trail ∧ shown.toList = lead ++ (s.text ++ trail)

variable {shown : String} {s : Signed}

/-! ## The two readers -/

theorem ShowsNumber.ne_empty (h : ShowsNumber shown s) : shown ≠ "" := by
  obtain ⟨lead, trail, -, -, hshown⟩ := h
  rintro rfl
  have hnil := List.append_eq_nil_iff.mp (List.append_eq_nil_iff.mp hshown.symm).2
  exact s.text_ne_nil hnil.1

/-- At the front of a text a number between blanks is found whole. -/
theorem ShowsNumber.leading?_eq (h : ShowsNumber shown s) :
    Number.leading? shown = some s.value := by
  obtain ⟨lead, trail, hlead, htrail, hshown⟩ := h
  have hend : NotInFront Number.Numeral.prolongs trail :=
    htrail.notInFront_continuesWord.mono fun _ => continuesWord_of_prolongs
  rw [Number.leading?_eq, hshown, s.cutLeading?_append hlead hend]
  rfl

/-- A signed number is an operand, nested once if it has a sign. -/
theorem exists_legible_signed (s : Signed) :
    ∃ tree nesting, Legible .signed s.text tree nesting ∧ nesting ≤ 1 ∧
      tree.eval = .number s.value := by
  have hread : Legible .signed s.magnitude.text (.number s.magnitude.value) 0 :=
    (legible_unsigned s.magnitude).loosen (by decide)
  obtain ⟨sign, m, hsign⟩ := s
  rcases hsign with rfl | rfl | rfl
  · exact ⟨_, _, hread, by decide, rfl⟩
  · exact ⟨_, _, hread.unary .plus blanks_nil, by decide, rfl⟩
  · exact ⟨_, _, hread.unary .negate blanks_nil, by decide, rfl⟩

/-- As arithmetic a number between blanks is itself, if the text is not too long. -/
theorem ShowsNumber.arithmetic_eq (h : ShowsNumber shown s)
    (hshort : shown.utf8ByteSize ≤ longestExpression) :
    arithmetic shown = .ok (.number s.value) := by
  obtain ⟨lead, trail, hlead, htrail, hshown⟩ := h
  obtain ⟨tree, nesting, hlegible, hnesting, heval⟩ := exists_legible_signed s
  have hparse := hlegible.parse_padded hlead htrail
  have hshallow : ¬deepestNesting < nesting := Nat.not_lt.mpr (hnesting.trans (by decide))
  rw [← hshown, String.ofList_toList, if_neg (Nat.not_lt.mpr hshort), if_neg hshallow] at hparse
  rw [arithmetic, hparse, ← heval]
  rfl

/-! ## Formulas that name one cell -/

variable {cells : Snapshot} {cell : Cell} {letter : Char} {number : Nat} {x : Float}

/-- A formula that is a reference has the value of what the cell shows. -/
theorem result_reference {spelling : Spelling} (hproper : spelling.Proper)
    (hcell : cells.get? (String.ofList spelling.text) = some cell) (hne : cell.display ≠ "") :
    result ("=" ++ String.ofList spelling.text) cells =
      (arithmetic cell.display).map Value.text := by
  have hcall : Function.ofCall? spelling.text = none :=
    (Writes.leaf (.reference spelling hproper)).ofCall?_eq_none
  have hfilled := @filled_text_append cells [] spelling hproper Text.notInFront_nil
  rw [List.append_nil, filled_nil, List.append_nil, replacement, hcell] at hfilled
  simp only [if_neg hne] at hfilled
  rw [result, resultWith, body_equal_append, hcall]
  dsimp only
  rw [replaceReferences_eq, String.toList_ofList, hfilled, String.ofList_toList]

/-- The spelling of a plain name. -/
def plainSpelling (letter : Char) (number : Nat) : Spelling :=
  ⟨letter, Nat.toDigits 10 number⟩

theorem proper_plainSpelling (hletter : letter.isUpper = true) :
    (plainSpelling letter number).Proper :=
  ⟨hletter, Nat.toDigits_ne_nil, fun _ => Nat.isDigit_of_mem_toDigits (by decide) (by decide)⟩

theorem names_nameOf (hletter : letter.isUpper = true) (hpos : 1 ≤ number)
    (hnumber : number ≤ 4294967295) :
    Address.Names (nameOf letter number) (ofName letter number) := by
  have hsize : UInt32.size = 4294967296 := rfl
  have hnames := (Address.isReadable_ofName hletter hpos hnumber).names_text
  rwa [Address.text_ofName hletter hpos (by omega)] at hnames

theorem noRangeStartsIn_singleton {c : Char} (h : c.isUpper = false) (rest : List Char) :
    NoRangeStartsIn [c] rest := by
  rintro earlier later hsplit hlater ⟨first, second, hfirst, -, behind, htext⟩
  cases earlier with
  | nil =>
    have hletter := hfirst.isUpper_letter
    rw [List.nil_append] at hsplit
    rw [← hsplit] at htext
    rw [← (List.cons.inj htext).1, h] at hletter
    cases hletter
  | cons d earlier =>
    have hnil : earlier ++ later = [] := (List.cons.inj hsplit).2.symm
    exact absurd (List.append_eq_nil_iff.mp hnil).2 hlater

/-- The arguments of an aggregate that reads one cell. -/
def oneCell (name : String) : String :=
  "(" ++ (name ++ ":" ++ name) ++ ")"

theorem numbersIn_oneCell (hletter : letter.isUpper = true) (hpos : 1 ≤ number)
    (hnumber : number ≤ 4294967295) (hcell : cells.get? (nameOf letter number) = some cell)
    (hread : Number.leading? cell.display = some x) :
    numbersIn (oneCell (nameOf letter number)) cells = .ok [x] := by
  have hsize : UInt32.size = 4294967296 := rfl
  have hnames := names_nameOf hletter hpos hnumber
  have hrange : rangeIn (oneCell (nameOf letter number)) =
      .ok ⟨ofName letter number, ofName letter number⟩ :=
    rangeIn_of_parse (Range.parse_append_colon hnames hnames)
      (noRangeStartsIn_singleton (by decide) _) (Text.notInFront_cons.mpr (by decide))
  have hat : cells.getAt? (ofName letter number) = some cell := by
    rw [Snapshot.getAt?, Address.text_ofName hletter hpos (by omega), hcell]
  rw [numbersIn_of_rangeIn hrange, Snapshot.cellsWithin_self hnames.isReadable, hat,
    Option.toList_some]
  simp only [List.filterMap_cons, hread, List.filterMap_nil]

theorem call_extreme_of_singleton {args : String} (h : numbersIn args cells = .ok [x]) :
    Function.max.call args cells = .ok (Number.text x) ∧
      Function.min.call args cells = .ok (Number.text x) := by
  constructor
  · rw [Function.call, h]
    rfl
  · rw [Function.call, h]
    rfl

/-- A function that is called on one cell by its name. -/
theorem result_oneCell (function : Function) (name : String) :
    result ("=" ++ (function.name ++ oneCell name)) cells =
      function.call (oneCell name) cells := by
  have hbody := body_equal_append (function.name ++ oneCell name).toList
  rw [String.ofList_toList] at hbody
  refine result_of_calls ⟨?_, (name ++ ":" ++ name ++ ")").toList, ?_⟩
  · rw [hbody, String.toList_append]
  · rw [oneCell, String.append_assoc, String.toList_append]
    rfl

/-- On a number between blanks, with a sign or without one, the two readers agree to the bit. So a
formula that is a reference to a cell which shows the number has the same value as the greatest and
the smallest number of that cell alone. -/
theorem readers_agree (h : ShowsNumber shown s) (hshort : shown.utf8ByteSize ≤ 8192) :
    arithmetic shown = .ok (.number s.value) ∧ Number.leading? shown = some s.value ∧
      ∀ (cells : Snapshot) (letter : Char) (number : Nat) (cell : Cell),
        letter.isUpper = true → 1 ≤ number → number ≤ 4294967295 →
        cells.get? (nameOf letter number) = some cell → cell.display = shown →
        result ("=" ++ nameOf letter number) cells = .ok (Number.text s.value) ∧
          result ("=MAX(" ++ nameOf letter number ++ ":" ++ nameOf letter number ++ ")") cells =
            .ok (Number.text s.value) ∧
          result ("=MIN(" ++ nameOf letter number ++ ":" ++ nameOf letter number ++ ")") cells =
            .ok (Number.text s.value) := by
  have harithmetic := h.arithmetic_eq hshort
  refine ⟨harithmetic, h.leading?_eq, ?_⟩
  rintro cells letter number cell hletter hpos hnumber hcell rfl
  have hread := numbersIn_oneCell hletter hpos hnumber hcell h.leading?_eq
  obtain ⟨hmax, hmin⟩ := call_extreme_of_singleton hread
  have hreference := result_reference (proper_plainSpelling hletter) hcell h.ne_empty
  refine ⟨?_, ?_, ?_⟩
  · rw [nameOf]
    exact hreference.trans (by rw [harithmetic]; rfl)
  · rw [← hmax, ← result_oneCell, oneCell, Function.name]
    rfl
  · rw [← hmin, ← result_oneCell, oneCell, Function.name]
    rfl

/-- A sign, a point without digits behind it and blanks on both sides are read alike. -/
theorem readers_agree_paddedText :
    let cells := Snapshot.ofList [("B7", .ofText " +7. ")]
    (∃ x, arithmetic " +7. " = .ok (.number x) ∧ Number.leading? " +7. " = some x) ∧
      result "=B7" cells = result "=MAX(B7:B7)" cells ∧
      result "=B7" cells = result "=MIN(B7:B7)" cells := by
  intro cells
  let seven : Signed :=
    ⟨['+'], .numeral ⟨['7'], some [], none, by decide, by simp, by simp⟩, Or.inr (Or.inl rfl)⟩
  have hshows : ShowsNumber " +7. " seven := ⟨[' '], [' '], by decide, by decide, by decide⟩
  obtain ⟨harithmetic, hleading, hcells⟩ := readers_agree hshows (by decide)
  obtain ⟨hname, hmax, hmin⟩ := hcells cells 'B' 7 (.ofText " +7. ") (by decide) (by decide)
    (by decide) (by decide) rfl
  exact ⟨⟨_, harithmetic, hleading⟩, hname.trans hmax.symm, hname.trans hmin.symm⟩

end Worksheet.Formula
