import Worksheet.Formula.Aggregate
import Worksheet.Formula.Argument
import Worksheet.Text.Blank
import Worksheet.Text.Case

/-!
# Function calls

What a function makes of its arguments. The aggregates read the cells of a range; the text
functions read their argument alone.
-/

namespace Worksheet.Formula

/-- The result of an extreme, or the error that there is none. -/
def shownExtreme (function : Function) (value? : Option Float) : Except EvalError String :=
  match value? with
  | some value => .ok (Number.text value)
  | none => .error (.noNumbers function)

/-- The mean as a cell shows it; no numbers have none. -/
def shownMean (values : List Float) : Except EvalError String :=
  if values.isEmpty then .error .divisionByZero else .ok (Number.text (mean values))

/-- Calls a function on the text of its arguments. -/
def Function.call (function : Function) (args : String) (cells : Snapshot) :
    Except EvalError String :=
  match function with
  | sum => do return Number.text (total (← numbersIn args cells))
  | average => do shownMean (← numbersIn args cells)
  | max => do shownExtreme max (extreme? greaterOf (← numbersIn args cells))
  | min => do shownExtreme min (extreme? smallerOf (← numbersIn args cells))
  | count => do return toString (← numbersIn args cells).length
  | trim => do return String.ofList (Text.trim (← argument args trim))
  | upper => do return String.ofList (Text.Case.upper (← argument args upper))
  | lower => do return String.ofList (Text.Case.lower (← argument args lower))

end Worksheet.Formula
