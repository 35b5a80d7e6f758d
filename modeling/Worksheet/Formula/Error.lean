import Worksheet.Cell
import Worksheet.Formula.Function
import Worksheet.Formula.Token

/-!
# Failed formulas

The causes for which a formula has no value, their messages, and the error value that a cell shows
for each.
-/

namespace Worksheet.Formula

/-- Why a formula has no value. -/
inductive EvalError where
  /-- The arguments of an aggregate hold no range. -/
  | noRange (args : String)
  /-- A text function has no argument. -/
  | noArgument (function : Function)
  /-- An extreme is asked of no numbers. -/
  | noNumbers (function : Function)
  /-- An average is asked of no numbers. -/
  | divisionByZero
  /-- The arithmetic is no expression. -/
  | malformed (cause : ParseError)
deriving DecidableEq

namespace EvalError

/-- The message of a failure. -/
def message : EvalError → String
  | noRange args => "Invalid range: " ++ args
  | noArgument function => "Missing argument for " ++ function.name
  | noNumbers function => function.name ++ " found no numeric values"
  | divisionByZero => "Division by zero"
  | malformed cause => "Parse error: " ++ cause.message

/-- What a cell shows for a failure. -/
def shownAs : EvalError → ErrorValue
  | divisionByZero => .divisionByZero
  | _ => .error

end EvalError

end Worksheet.Formula
