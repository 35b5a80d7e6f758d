import Worksheet.Proofs.Formula.Argument
import Worksheet.Proofs.Formula.Dependence
import Worksheet.Proofs.Formula.Evaluator
import Worksheet.Proofs.Formula.Reader

/-!
# Why formulas fail

The exact condition for every cause of a failure. The conditions are about the text of the formula
and what the cells show; nothing that is computed on the way can fail.

There are three groups.

* The numbers of a range. `NoNumbers` says that the cells of the leftmost range show none, and
  `numbersIn_eq_nil_iff` that this is what the aggregates find.
* The functions. `Function.Fails` lists the causes for which a call fails, with one rule for each,
  and `call_eq_error_iff` says that these are all.
* The formulas. `Fails` adds the arithmetic that is no expression, and `result_eq_error_iff` says
  that a formula has a value exactly if no rule applies to it.
-/

namespace Worksheet.Formula

/-! ## The numbers of a range -/

/-- Whether the arguments name a range, and no cell of the leftmost one shows a number in front. -/
def NoNumbers (args : List Char) (cells : Snapshot) : Prop :=
  ∃ first second, LeftmostRange args first second ∧
    ∀ cell ∈ cells.cellsWithin (rangeBetween first second), Number.leading? cell.display = none

section

variable {args : String} {cells : Snapshot} {cause : EvalError}

theorem numbersIn_eq_error_iff :
    numbersIn args cells = .error cause ↔
      ¬HoldsRange args.toList ∧ cause = .noRange args := by
  rw [← rangeIn_eq_error_iff, numbersIn]
  cases rangeIn args with
  | error found => simp [Except.map]
  | ok range => simp [Except.map]

theorem numbersIn_eq_nil_iff : numbersIn args cells = .ok [] ↔ NoNumbers args.toList cells := by
  constructor
  · intro h
    cases hrange : rangeIn args with
    | error cause =>
      rw [numbersIn, hrange] at h
      cases h
    | ok range =>
      rw [numbersIn_of_rangeIn hrange, Except.ok.injEq, List.filterMap_eq_nil_iff] at h
      obtain ⟨first, second, hleftmost, rfl⟩ := rangeIn_eq_ok_iff.mp hrange
      exact ⟨first, second, hleftmost, h⟩
  · intro h
    obtain ⟨first, second, hleftmost, hcells⟩ := h
    rw [numbersIn_of_rangeIn (rangeIn_of_leftmostRange hleftmost),
      List.filterMap_eq_nil_iff.mpr hcells]

theorem shownMean_eq_error_iff {values : List Float} :
    shownMean values = .error cause ↔ values = [] ∧ cause = .divisionByZero := by
  cases values with
  | nil => simp [shownMean, eq_comm]
  | cons value values => simp [shownMean]

theorem shownExtreme_eq_error_iff {function : Function} {pick : Float → Float → Float}
    {values : List Float} :
    shownExtreme function (extreme? pick values) = .error cause ↔
      values = [] ∧ cause = .noNumbers function := by
  cases values with
  | nil => simp [shownExtreme, extreme?, eq_comm]
  | cons value values => simp [shownExtreme, extreme?]

end

/-! ## Functions -/

/-- The causes for which a function fails on its arguments. -/
inductive Function.Fails (function : Function) (args : String) (cells : Snapshot) :
    EvalError → Prop
  /-- An aggregate finds no range. -/
  | noRange (hreads : function.readsRange = true) (hrange : ¬HoldsRange args.toList) :
    Fails function args cells (.noRange args)
  /-- The average of no numbers is asked for. -/
  | divisionByZero (hfunction : function = .average) (hnone : NoNumbers args.toList cells) :
    Fails function args cells .divisionByZero
  /-- The greatest or smallest of no numbers is asked for. -/
  | noNumbers (hfunction : function = .max ∨ function = .min)
    (hnone : NoNumbers args.toList cells) : Fails function args cells (.noNumbers function)
  /-- A text function finds no argument. -/
  | noArgument (htext : function.readsRange = false) (hargs : NoArgument args.toList) :
    Fails function args cells (.noArgument function)

section

variable {function : Function} {args : String} {cells : Snapshot} {cause : EvalError}

theorem Function.Fails.call_eq (h : function.Fails args cells cause) :
    function.call args cells = .error cause := by
  cases h with
  | noRange hreads hrange =>
    have hnumbers : numbersIn args cells = .error (.noRange args) :=
      numbersIn_eq_error_iff.mpr ⟨hrange, rfl⟩
    cases function with
    | sum | average | max | min | count =>
      rw [Function.call, hnumbers]
      rfl
    | trim | upper | lower => cases hreads
  | divisionByZero hfunction hnone =>
    rw [hfunction, Function.call, numbersIn_eq_nil_iff.mpr hnone]
    rfl
  | noNumbers hfunction hnone =>
    have hnumbers := numbersIn_eq_nil_iff.mpr hnone
    rcases hfunction with hfunction | hfunction
    · rw [hfunction, Function.call, hnumbers]
      rfl
    · rw [hfunction, Function.call, hnumbers]
      rfl
  | noArgument htext hargs =>
    have hargument : ∀ function, argument args function = .error (.noArgument function) :=
      fun function => argument_eq_error_iff.mpr ⟨hargs, rfl⟩
    cases function with
    | sum | average | max | min | count => cases htext
    | trim | upper | lower =>
      rw [Function.call, hargument]
      rfl

theorem Function.fails_of_numbersIn (hreads : function.readsRange = true)
    (h : numbersIn args cells = .error cause) : function.Fails args cells cause := by
  obtain ⟨hrange, rfl⟩ := numbersIn_eq_error_iff.mp h
  exact .noRange hreads hrange

theorem Function.fails_of_argument (htext : function.readsRange = false)
    (h : argument args function = .error cause) : function.Fails args cells cause := by
  obtain ⟨hargs, rfl⟩ := argument_eq_error_iff.mp h
  exact .noArgument htext hargs

/-- A function fails where it looks for its arguments, or because there are no numbers. -/
theorem Function.fails_of_call (h : function.call args cells = .error cause) :
    function.Fails args cells cause := by
  cases function with
  | sum | count =>
    rcases bind_eq_error_iff.mp h with hrange | ⟨values, -, hshown⟩
    · exact fails_of_numbersIn rfl hrange
    · cases hshown
  | average =>
    rcases bind_eq_error_iff.mp h with hrange | ⟨values, hvalues, hshown⟩
    · exact fails_of_numbersIn rfl hrange
    · obtain ⟨rfl, rfl⟩ := shownMean_eq_error_iff.mp hshown
      exact .divisionByZero rfl (numbersIn_eq_nil_iff.mp hvalues)
  | max | min =>
    rcases bind_eq_error_iff.mp h with hrange | ⟨values, hvalues, hshown⟩
    · exact fails_of_numbersIn rfl hrange
    · obtain ⟨rfl, rfl⟩ := shownExtreme_eq_error_iff.mp hshown
      exact .noNumbers (by simp) (numbersIn_eq_nil_iff.mp hvalues)
  | trim | upper | lower =>
    rcases bind_eq_error_iff.mp h with hargs | ⟨inside, -, hshown⟩
    · exact fails_of_argument rfl hargs
    · cases hshown

theorem Function.call_eq_error_iff :
    function.call args cells = .error cause ↔ function.Fails args cells cause :=
  ⟨fails_of_call, Fails.call_eq⟩

end

/-! ## Formulas -/

/-- The causes for which a formula fails. -/
inductive Fails (formula : String) (cells : Snapshot) : EvalError → Prop
  /-- The function that is called fails. -/
  | call {function : Function} {args : String} {cause : EvalError}
    (hcall : Function.Calls (body formula) function args.toList)
    (hfails : function.Fails args cells cause) : Fails formula cells cause
  /-- No function is called, and the replacement of references leaves no expression. -/
  | malformed {cause : ParseError}
    (hcall : ∀ function args, ¬Function.Calls (body formula) function args)
    (hparse : Expr.parse (replaceReferences (String.ofList (body formula)) cells) = .error cause) :
    Fails formula cells (.malformed cause)

section

variable {formula : String} {cells : Snapshot} {cause : EvalError}

theorem result_of_calls {function : Function} {args : String}
    (hcall : Function.Calls (body formula) function args.toList) :
    result formula cells = function.call args cells := by
  rw [result, resultWith_of_calls hcall, String.ofList_toList]

theorem result_of_parse {parsed : Except ParseError Expr}
    (hcall : ∀ function args, ¬Function.Calls (body formula) function args)
    (hparse : Expr.parse (replaceReferences (String.ofList (body formula)) cells) = parsed) :
    result formula cells =
      (parsed.map fun tree => tree.eval.text).mapError .malformed := by
  rw [result, resultWith_of_not_calls hcall, arithmetic, hparse]
  cases parsed with
  | error cause => rfl
  | ok tree => rfl

theorem Fails.result_eq (h : Fails formula cells cause) : result formula cells = .error cause := by
  cases h with
  | call hcall hfails =>
    rw [result_of_calls hcall]
    exact Function.call_eq_error_iff.mpr hfails
  | malformed hcall hparse =>
    rw [result_of_parse hcall hparse]
    rfl

theorem fails_of_result (h : result formula cells = .error cause) : Fails formula cells cause := by
  cases hfound : Function.ofCall? (body formula) with
  | none =>
    have hcall := Function.ofCall?_eq_none_iff.mp hfound
    cases hparse : Expr.parse (replaceReferences (String.ofList (body formula)) cells) with
    | error malformed =>
      rw [result_of_parse hcall hparse] at h
      cases h
      exact .malformed hcall hparse
    | ok tree =>
      rw [result_of_parse hcall hparse] at h
      cases h
  | some found =>
    obtain ⟨function, args⟩ := found
    have hcall := Function.ofCall?_eq_some_iff.mp hfound
    rw [← String.toList_ofList (l := args)] at hcall
    rw [result_of_calls hcall] at h
    exact .call hcall (Function.call_eq_error_iff.mp h)

theorem exists_result_iff :
    (∃ value, result formula cells = .ok value) ↔ ∀ cause, ¬Fails formula cells cause := by
  constructor
  · intro ⟨value, hvalue⟩ cause hfails
    rw [hfails.result_eq] at hvalue
    cases hvalue
  · intro hnone
    cases hresult : result formula cells with
    | error cause => exact absurd (fails_of_result hresult) (hnone cause)
    | ok value => exact ⟨value, rfl⟩

/-- The sum and the count of a range need no numbers. -/
theorem exists_result_of_holdsRange {function : Function} {args : String}
    (hfunction : function = .sum ∨ function = .count)
    (hcall : Function.Calls (body formula) function args.toList)
    (hrange : HoldsRange args.toList) :
    ∃ value, result formula cells = .ok value := by
  cases hresult : result formula cells with
  | ok value => exact ⟨value, rfl⟩
  | error cause =>
    rw [result_of_calls hcall] at hresult
    cases Function.call_eq_error_iff.mp hresult with
    | noRange _ hnone => exact absurd hrange hnone
    | divisionByZero hother => rcases hfunction with rfl | rfl <;> cases hother
    | noNumbers hother => rcases hfunction with rfl | rfl <;> rcases hother with h | h <;> cases h
    | noArgument htext => rcases hfunction with rfl | rfl <;> cases htext

theorem exists_shownAs_divisionByZero_iff :
    (∃ cause, result formula cells = .error cause ∧ cause.shownAs = .divisionByZero) ↔
      ∃ args : String, Function.Calls (body formula) .average args.toList ∧
        NoNumbers args.toList cells := by
  constructor
  · intro ⟨cause, hresult, hshown⟩
    cases fails_of_result hresult with
    | malformed => cases hshown
    | @call function args cause hcall hfails =>
      cases hfails with
      | divisionByZero hfunction hnone =>
        rw [hfunction] at hcall
        exact ⟨args, hcall, hnone⟩
      | noRange | noNumbers | noArgument => cases hshown
  · intro ⟨args, hcall, hnone⟩
    exact ⟨.divisionByZero, (Fails.call hcall (.divisionByZero rfl hnone)).result_eq, rfl⟩

end

/-- A formula fails for exactly the causes that are listed, and has a value if none applies. So a
text that is read as an expression has a value, whatever is divided by zero in it; the sum and the
count of a range have one; and a failure is shown as a division by zero exactly if it is the
average of no numbers. -/
theorem result_eq_error_iff (formula : String) (cells : Snapshot) :
    (∀ cause, result formula cells = .error cause ↔ Fails formula cells cause) ∧
      ((∃ value, result formula cells = .ok value) ↔ ∀ cause, ¬Fails formula cells cause) ∧
      (∀ tree, (∀ function args, ¬Function.Calls (body formula) function args) →
        Expr.parse (replaceReferences (String.ofList (body formula)) cells) = .ok tree →
          result formula cells = .ok tree.eval.text) ∧
      (∀ (function : Function) (args : String), function = .sum ∨ function = .count →
        Function.Calls (body formula) function args.toList → HoldsRange args.toList →
          ∃ value, result formula cells = .ok value) ∧
      ((∃ cause, result formula cells = .error cause ∧ cause.shownAs = .divisionByZero) ↔
        ∃ args : String, Function.Calls (body formula) .average args.toList ∧
          NoNumbers args.toList cells) := by
  refine ⟨fun cause => ⟨fails_of_result, Fails.result_eq⟩, exists_result_iff, ?_, ?_,
    exists_shownAs_divisionByZero_iff⟩
  · intro tree hcall hparse
    exact result_of_parse hcall hparse
  · intro function args hfunction hcall hrange
    exact exists_result_of_holdsRange hfunction hcall hrange

/-- A single text has no average, but it can be counted, and `2/0` is a number. -/
theorem result_eq_error_iff_singleText :
    let cells := Snapshot.ofList [("A1", .ofText "x")]
    result "=AVERAGE(A1:A1)" cells = .error .divisionByZero ∧
      (∃ value, result "=COUNT(A1:A1)" cells = .ok value) ∧
      result "=2/0" cells = .ok "Infinity" := by
  intro cells
  have hnone : NoNumbers "(A1:A1)".toList cells :=
    numbersIn_eq_nil_iff.mp (by decide +kernel)
  have haverage : Function.Calls (body "=AVERAGE(A1:A1)") .average "(A1:A1)".toList :=
    Function.ofCall?_eq_some_iff.mp (by decide)
  have hcount : Function.Calls (body "=COUNT(A1:A1)") .count "(A1:A1)".toList :=
    Function.ofCall?_eq_some_iff.mp (by decide)
  have hrange : HoldsRange "(A1:A1)".toList := by
    obtain ⟨first, second, hleftmost, -⟩ := hnone
    exact holdsRange_iff.mpr ⟨first, second, hleftmost⟩
  have hplain : ∀ function args, ¬Function.Calls (body "=2/0") function args :=
    Function.ofCall?_eq_none_iff.mp (by decide)
  have hparse : Expr.parse (replaceReferences (String.ofList (body "=2/0")) cells) =
      .ok (.binary .divide (.number 2) (.number 0)) := by decide +kernel
  obtain ⟨haverageFails, -⟩ := result_eq_error_iff "=AVERAGE(A1:A1)" cells
  obtain ⟨-, -, -, hcountValue, -⟩ := result_eq_error_iff "=COUNT(A1:A1)" cells
  obtain ⟨-, -, hquotient, -⟩ := result_eq_error_iff "=2/0" cells
  refine ⟨(haverageFails _).mpr (.call haverage (.divisionByZero rfl hnone)),
    hcountValue .count _ (.inr rfl) hcount hrange, (hquotient _ hplain hparse).trans ?_⟩
  decide +kernel

end Worksheet.Formula
