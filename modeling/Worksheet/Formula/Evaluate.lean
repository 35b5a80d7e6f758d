import Worksheet.Formula.Call
import Worksheet.Formula.Reference
import Worksheet.Formula.Value

/-!
# Results of formulas

A formula is an equals sign and a body. The body is a function call, or else arithmetic whose
references are replaced before it is read.

* `result` gives the value of a formula or the cause of its failure, and `display` what a cell
  with the formula shows. `resultWith` and `displayWith` take the evaluator of arithmetic as an
  argument.
* `displayOfInput` is what a cell shows for any input.
-/

namespace Worksheet.Formula

/-- An evaluator of arithmetic without references. -/
abbrev Evaluator := String → Except EvalError Value

/-- The evaluator of this library. -/
def arithmetic : Evaluator := fun input =>
  ((Expr.parse input).map Expr.eval).mapError .malformed

/-- The formula without the equals sign in front. -/
def body (formula : String) : List Char :=
  match formula.toList with
  | '=' :: rest => rest
  | text => text

/-- The value of a formula, with a given evaluator of arithmetic. -/
def resultWith (evaluator : Evaluator) (formula : String) (cells : Snapshot) :
    Except EvalError String :=
  match Function.ofCall? (body formula) with
  | some (function, args) => function.call (String.ofList args) cells
  | none => (evaluator (replaceReferences (String.ofList (body formula)) cells)).map Value.text

/-- The value of a formula. -/
def result (formula : String) (cells : Snapshot) : Except EvalError String :=
  resultWith arithmetic formula cells

/-- What a cell shows for a result: the value, or the error value of the failure. -/
def shown : Except EvalError String → String
  | .ok value => value
  | .error cause => cause.shownAs.text

/-- What a cell with the formula shows, with a given evaluator of arithmetic. -/
def displayWith (evaluator : Evaluator) (formula : String) (cells : Snapshot) : String :=
  shown (resultWith evaluator formula cells)

/-- What a cell with the formula shows. -/
def display (formula : String) (cells : Snapshot) : String :=
  displayWith arithmetic formula cells

/-- What a cell shows for an input: the value of a formula, and any other text as it stands. -/
def displayOfInput (input : String) (cells : Snapshot) : String :=
  if isFormula input then display input cells else input

end Worksheet.Formula
