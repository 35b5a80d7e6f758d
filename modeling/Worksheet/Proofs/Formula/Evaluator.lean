import Worksheet.Formula.Evaluate
import Worksheet.Proofs.Formula.ByteScan
import Worksheet.Proofs.Formula.Function

/-!
# What the evaluator of arithmetic is asked

A formula asks the evaluator of arithmetic for one value at most. The call of a function asks for
none, whatever its arguments are. Any other formula asks for the value of its body after the
replacement of references, and has no other use for the evaluator.

* `resultWith_of_calls` and `resultWith_of_not_calls` are the two kinds of formulas.
* `HangsOn` says that the answer to an expression can be told from what is shown, and `hangsOn_iff`
  finds the expression.
* `ofCall?_exact` puts this beside the rule by which calls are told from arithmetic.
-/

namespace Worksheet.Formula

section

variable {formula expression : String} {cells : Snapshot}

theorem resultWith_of_calls {function : Function} {args : List Char}
    (hcall : Function.Calls (body formula) function args) (evaluator : Evaluator) :
    resultWith evaluator formula cells = function.call (String.ofList args) cells := by
  rw [resultWith, Function.ofCall?_eq_some_iff.mpr hcall]

theorem resultWith_of_not_calls
    (hcall : ∀ function args, ¬Function.Calls (body formula) function args)
    (evaluator : Evaluator) :
    resultWith evaluator formula cells =
      (evaluator (replaceReferences (String.ofList (body formula)) cells)).map Value.text := by
  rw [resultWith, Function.ofCall?_eq_none_iff.mpr hcall]

theorem displayWith_congr {evaluator other : Evaluator}
    (h : resultWith evaluator formula cells = resultWith other formula cells) :
    displayWith evaluator formula cells = displayWith other formula cells :=
  congrArg shown h

/-- Whether what a formula shows hangs on the answer to an expression: two evaluators that differ
in this answer alone make it show different texts. -/
def HangsOn (formula : String) (cells : Snapshot) (expression : String) : Prop :=
  ∃ evaluator other : Evaluator, (∀ asked, asked ≠ expression → evaluator asked = other asked) ∧
    displayWith evaluator formula cells ≠ displayWith other formula cells

theorem hangsOn_iff :
    HangsOn formula cells expression ↔
      (∀ function args, ¬Function.Calls (body formula) function args) ∧
        expression = replaceReferences (String.ofList (body formula)) cells := by
  constructor
  · rintro ⟨evaluator, other, hagree, hshown⟩
    have hcall : ∀ function args, ¬Function.Calls (body formula) function args := by
      intro function args hcall
      refine hshown (displayWith_congr ?_)
      rw [resultWith_of_calls hcall, resultWith_of_calls hcall]
    refine ⟨hcall, ?_⟩
    by_contra hne
    refine hshown (displayWith_congr ?_)
    rw [resultWith_of_not_calls hcall, resultWith_of_not_calls hcall, hagree _ (Ne.symm hne)]
  · rintro ⟨hcall, hasked⟩
    refine ⟨fun _ => .ok (.boolean true), fun asked => .ok (.boolean (asked != expression)),
      fun asked hne => ?_, ?_⟩
    · dsimp only
      rw [bne_iff_ne.mpr hne]
    · rw [displayWith, displayWith, resultWith_of_not_calls hcall, resultWith_of_not_calls hcall,
        ← hasked, bne_self_eq_false]
      decide

theorem cut_capitals_utf8 (text : String) :
    text.toUTF8.data.toList.takeWhile (fun byte => byte.toChar.isUpper) =
        utf8 (text.toList.takeWhile Char.isUpper) ∧
      text.toUTF8.data.toList.dropWhile (fun byte => byte.toChar.isUpper) =
        utf8 (text.toList.dropWhile Char.isUpper) := by
  have hascii : ∀ c : Char, 128 ≤ c.toNat → c.isUpper = false := fun _ => isUpper_eq_false_of_le
  rw [toList_toUTF8]
  exact ⟨takeWhile_utf8 hascii _, dropWhile_utf8 hascii _⟩

end

/-- A text is a call if it is the name of a function with arguments behind it that begin with a
parenthesis; no text is a call of two functions, and the capitals that are taken for the name are
cut off between characters, also in the bytes of the text. What a call comes to does not involve
the evaluator of arithmetic. What any other formula comes to involves it by one answer only, the
one to the body after the replacement of references, and by this answer it does. -/
theorem ofCall?_exact (formula : String) (cells : Snapshot) :
    (∀ text function args,
      Function.ofCall? text = some (function, args) ↔ Function.Calls text function args) ∧
    (∀ text function args other otherArgs, Function.Calls text function args →
      Function.Calls text other otherArgs → function = other ∧ args = otherArgs) ∧
    (∀ text : String,
      text.toUTF8.data.toList.takeWhile (fun byte => byte.toChar.isUpper) =
          utf8 (text.toList.takeWhile Char.isUpper) ∧
        text.toUTF8.data.toList.dropWhile (fun byte => byte.toChar.isUpper) =
          utf8 (text.toList.dropWhile Char.isUpper)) ∧
    ((∃ function args, Function.Calls (body formula) function args) →
      ∀ evaluator other : Evaluator,
        resultWith evaluator formula cells = resultWith other formula cells ∧
          displayWith evaluator formula cells = displayWith other formula cells) ∧
    ((∀ function args, ¬Function.Calls (body formula) function args) →
      ∀ evaluator other : Evaluator,
        evaluator (replaceReferences (String.ofList (body formula)) cells) =
          other (replaceReferences (String.ofList (body formula)) cells) →
        resultWith evaluator formula cells = resultWith other formula cells ∧
          displayWith evaluator formula cells = displayWith other formula cells) ∧
    ∀ expression, HangsOn formula cells expression ↔
      (∀ function args, ¬Function.Calls (body formula) function args) ∧
        expression = replaceReferences (String.ofList (body formula)) cells := by
  refine ⟨fun text function args => Function.ofCall?_eq_some_iff,
    fun text function args other otherArgs => Function.Calls.unique, cut_capitals_utf8, ?_, ?_,
    fun expression => hangsOn_iff⟩
  · rintro ⟨function, args, hcall⟩ evaluator other
    have hresult : resultWith evaluator formula cells = resultWith other formula cells := by
      rw [resultWith_of_calls hcall, resultWith_of_calls hcall]
    exact ⟨hresult, displayWith_congr hresult⟩
  · intro hcall evaluator other hagree
    have hresult : resultWith evaluator formula cells = resultWith other formula cells := by
      rw [resultWith_of_not_calls hcall, resultWith_of_not_calls hcall, hagree]
    exact ⟨hresult, displayWith_congr hresult⟩

/-- The name of a function goes no further than its letters, so that a longer run of letters is no
call and is left to the evaluator. -/
theorem ofCall?_exact_longerName :
    let cells := Snapshot.ofList [("A1", .ofText "3")]
    let answering : Evaluator := fun _ => .ok (.number 42)
    (Function.Calls "SUM(A1:A1)".toList .sum "(A1:A1)".toList ∧
      displayWith answering "=SUM(A1:A1)" cells = displayWith arithmetic "=SUM(A1:A1)" cells) ∧
    HangsOn "=SUMX(A1)" cells "SUMX(3)" ∧
      displayWith answering "=SUMX(A1)" cells =
        displayWith (fun asked => if asked = "SUMX(3)" then .ok (.number 42) else arithmetic asked)
          "=SUMX(A1)" cells := by
  intro cells answering
  obtain ⟨hcalls, -, -, hcalled, -⟩ := ofCall?_exact "=SUM(A1:A1)" cells
  obtain ⟨-, -, -, -, hasked, hhangs⟩ := ofCall?_exact "=SUMX(A1)" cells
  have hcall : Function.Calls "SUM(A1:A1)".toList .sum "(A1:A1)".toList :=
    (hcalls _ _ _).mp (by decide)
  have hnone : ∀ function args, ¬Function.Calls (body "=SUMX(A1)") function args :=
    Function.ofCall?_eq_none_iff.mp (by decide)
  have hreplaced : replaceReferences (String.ofList (body "=SUMX(A1)")) cells = "SUMX(3)" := by
    decide +kernel
  refine ⟨⟨hcall, (hcalled ⟨_, _, hcall⟩ _ _).2⟩, (hhangs _).mpr ⟨hnone, hreplaced.symm⟩,
    (hasked hnone _ _ ?_).2⟩
  rw [hreplaced, if_pos rfl]

end Worksheet.Formula
