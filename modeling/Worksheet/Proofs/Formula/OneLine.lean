import Worksheet.Formula.Evaluate
import Worksheet.Proofs.Formula.Argument
import Worksheet.Proofs.Formula.Reader
import Worksheet.Proofs.Number.Text
import Worksheet.Proofs.Text.Blank

/-!
# Shown on one line

What a formula shows is one line, even if the formula is not: numbers, truth values and error
values have no line feed, the argument of a text function ends at the end of its line, and no
letter has a line feed for its other case.

* `lineFeed_not_mem_text` is the case of numbers, and `lineFeed_not_mem_call` that of functions.
* `lineFeed_not_mem_display` is the result for a formula. Any other input is shown as it stands, so
  that it is one line if it was entered as one (`lineFeed_not_mem_displayOfInput`).
-/

namespace Worksheet

/-! ## Letters of either case -/

namespace Text.Case

variable {long : List (Nat × List Nat)} {runs : List Run} {c : Char}

theorem eq_of_ofNat_eq_lineFeed {n : Nat} (h : Char.ofNat n = '\n') : n = 10 := by
  unfold Char.ofNat at h
  split at h
  · exact congrArg Char.toNat h
  · cases h

/-- No character is mapped to a line feed if the table holds none and every run moves its
characters above it. -/
theorem lineFeed_not_mem_mapChar (hlong : ∀ entry ∈ long, 10 ∉ entry.2)
    (hruns : ∀ run ∈ runs, 10 < (run.first : Int) + run.shift) (hc : c ≠ '\n') :
    '\n' ∉ mapChar long runs c := by
  unfold mapChar
  split
  · next code hcode =>
    intro hmem
    obtain ⟨n, hn, heq⟩ := List.mem_map.mp hmem
    rw [eq_of_ofNat_eq_lineFeed heq] at hn
    obtain ⟨before, behind, hsplit, -⟩ := List.lookup_eq_some_iff.mp hcode
    exact hlong _ (hsplit ▸ List.mem_append_right _ List.mem_cons_self) hn
  · split
    · next run hrun =>
      have hcontains := List.find?_some hrun
      have hfar := hruns run (List.mem_of_find?_eq_some hrun)
      simp only [Run.contains, Bool.and_eq_true, decide_eq_true_eq] at hcontains
      intro hmem
      have hn := eq_of_ofNat_eq_lineFeed (List.mem_singleton.mp hmem).symm
      omega
    · exact fun hmem => hc (List.mem_singleton.mp hmem).symm

theorem lineFeed_not_mem_upperChar (hc : c ≠ '\n') : '\n' ∉ upperChar c :=
  lineFeed_not_mem_mapChar (by decide +kernel) (by decide +kernel) hc

theorem lineFeed_not_mem_lowerChar (hc : c ≠ '\n') : '\n' ∉ lowerChar c :=
  lineFeed_not_mem_mapChar (by decide +kernel) (by decide +kernel) hc

theorem lineFeed_not_mem_upper {text : List Char} (h : '\n' ∉ text) : '\n' ∉ upper text := by
  intro hmem
  obtain ⟨c, hc, hupper⟩ := List.mem_flatMap.mp hmem
  exact lineFeed_not_mem_upperChar (fun heq => h (heq ▸ hc)) hupper

theorem lineFeed_not_mem_lowerAfter {before rest : List Char} (h : '\n' ∉ rest) :
    '\n' ∉ lowerAfter before rest := by
  induction rest generalizing before with
  | nil => exact List.not_mem_nil
  | cons c rest ih =>
    obtain ⟨hc, hrest⟩ := not_or.mp (List.mem_cons.not.mp h)
    rw [lowerAfter, List.mem_append, not_or]
    refine ⟨?_, ih hrest⟩
    split
    · split <;> decide
    · exact lineFeed_not_mem_lowerChar (Ne.symm hc)

theorem lineFeed_not_mem_lower {text : List Char} (h : '\n' ∉ text) : '\n' ∉ lower text :=
  lineFeed_not_mem_lowerAfter h

end Text.Case

/-! ## Numbers -/

namespace Number

theorem Numeral.lineFeed_not_mem_text (n : Numeral) : '\n' ∉ n.text := by
  intro hmem
  rcases List.mem_append.mp hmem with hmantissa | hexponent
  · rcases n.isDigit_or_point_of_mem_mantissa _ hmantissa with hdigit | hpoint
    · exact absurd hdigit (by decide)
    · exact absurd hpoint (by decide)
  · cases hpart : n.exponentPart? with
    | none =>
      rw [exponentText, hpart] at hexponent
      cases hexponent
    | some e =>
      rw [exponentText, hpart] at hexponent
      rcases Exponent.mem_text hexponent with hmark | hsign | hsign | hdigit
      · rcases e.isMark with h | h <;> exact absurd (hmark.trans h) (by decide)
      · exact absurd hsign (by decide)
      · exact absurd hsign (by decide)
      · exact absurd hdigit (by decide)

theorem Denotes.lineFeed_not_mem {text : List Char} {x : Float} (h : Denotes text x) :
    '\n' ∉ text := by
  cases h with
  | numeral n _ => exact n.lineFeed_not_mem_text
  | infinity => decide

theorem lineFeed_not_mem_text (x : Float) : '\n' ∉ (text x).toList := by
  have htext := isTextOf_text x
  generalize (text x).toList = shown, readBack x = y at htext
  cases htext with
  | notANumber => decide
  | unsigned h => exact h.lineFeed_not_mem
  | negative h =>
    rw [List.mem_cons, not_or]
    exact ⟨by decide, h.lineFeed_not_mem⟩

end Number

/-! ## Formulas -/

namespace Formula

theorem lineFeed_not_mem_argument {args : String} {function : Function} {inside : List Char}
    (h : argument args function = .ok inside) : '\n' ∉ inside := by
  obtain ⟨⟨-, hline⟩, -⟩ := group?_eq_some_iff.mp (argument_eq_ok_iff.mp h).1
  exact hline

theorem lineFeed_not_mem_toString (n : Nat) : '\n' ∉ (toString n).toList := by
  rw [Nat.toString_eq_ofList_toDigits, String.toList_ofList]
  intro hmem
  exact absurd (Nat.isDigit_of_mem_toDigits (by decide) (by decide) hmem) (by decide)

theorem lineFeed_not_mem_shownExtreme {function : Function} {value? : Option Float}
    {shown : String}
    (h : shownExtreme function value? = .ok shown) : '\n' ∉ shown.toList := by
  cases value? with
  | none => cases h
  | some value =>
    cases h
    exact Number.lineFeed_not_mem_text value

theorem lineFeed_not_mem_shownMean {values : List Float} {shown : String}
    (h : shownMean values = .ok shown) : '\n' ∉ shown.toList := by
  unfold shownMean at h
  split at h
  · cases h
  · cases h
    exact Number.lineFeed_not_mem_text _

/-- A text function gives one line if it makes one line of one line. -/
theorem lineFeed_not_mem_ofArgument {f : List Char → List Char}
    (hf : ∀ {text}, '\n' ∉ text → '\n' ∉ f text) {args shown : String} {function : Function}
    (h : (do return String.ofList (f (← argument args function)) : Except EvalError String) =
      .ok shown) : '\n' ∉ shown.toList := by
  obtain ⟨inside, hinside, hshown⟩ := bind_eq_ok_iff.mp h
  cases hshown
  rw [String.toList_ofList]
  exact hf (lineFeed_not_mem_argument hinside)

/-- What a function gives is one line: an aggregate gives a number, and a text function what it
makes of its argument. -/
theorem lineFeed_not_mem_call {function : Function} {args : String} {cells : Snapshot}
    {shown : String} (h : function.call args cells = .ok shown) : '\n' ∉ shown.toList := by
  cases function with
  | sum =>
    obtain ⟨values, -, hshown⟩ := bind_eq_ok_iff.mp h
    cases hshown
    exact Number.lineFeed_not_mem_text _
  | average =>
    obtain ⟨values, -, hshown⟩ := bind_eq_ok_iff.mp h
    exact lineFeed_not_mem_shownMean hshown
  | max | min =>
    obtain ⟨values, -, hshown⟩ := bind_eq_ok_iff.mp h
    exact lineFeed_not_mem_shownExtreme hshown
  | count =>
    obtain ⟨values, -, hshown⟩ := bind_eq_ok_iff.mp h
    cases hshown
    exact lineFeed_not_mem_toString _
  | trim => exact lineFeed_not_mem_ofArgument Text.lineFeed_not_mem_trim h
  | upper => exact lineFeed_not_mem_ofArgument Text.Case.lineFeed_not_mem_upper h
  | lower => exact lineFeed_not_mem_ofArgument Text.Case.lineFeed_not_mem_lower h

theorem lineFeed_not_mem_errorText (value : ErrorValue) : '\n' ∉ value.text.toList := by
  cases value <;> decide

theorem lineFeed_not_mem_valueText (value : Value) : '\n' ∉ value.text.toList := by
  cases value with
  | number x => exact Number.lineFeed_not_mem_text x
  | boolean b => cases b <;> decide

/-- What a formula shows is one line, whatever the formula and the cells are. -/
theorem lineFeed_not_mem_display (formula : String) (cells : Snapshot) :
    '\n' ∉ (display formula cells).toList := by
  rw [display, displayWith]
  cases hresult : resultWith arithmetic formula cells with
  | error cause => exact lineFeed_not_mem_errorText cause.shownAs
  | ok value =>
    unfold resultWith at hresult
    split at hresult
    · exact lineFeed_not_mem_call hresult
    · cases harithmetic : arithmetic _ with
      | error cause =>
        rw [harithmetic] at hresult
        cases hresult
      | ok computed =>
        rw [harithmetic] at hresult
        cases hresult
        exact lineFeed_not_mem_valueText computed

theorem lineFeed_not_mem_displayOfInput {input : String} (h : '\n' ∉ input.toList)
    (cells : Snapshot) : '\n' ∉ (displayOfInput input cells).toList := by
  unfold displayOfInput
  split
  · exact lineFeed_not_mem_display input cells
  · exact h

end Formula

end Worksheet
