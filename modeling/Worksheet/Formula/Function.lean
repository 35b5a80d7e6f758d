/-!
# Functions

The eight functions that a formula can call. A formula is a call if it begins with the name of a
function, in capitals, directly followed by a parenthesis.
-/

namespace Worksheet.Formula

/-- A function that a formula can call. -/
inductive Function where
  | sum
  | average
  | max
  | min
  | count
  | trim
  | upper
  | lower
deriving DecidableEq

namespace Function

/-- The name of a function in formulas. -/
def name : Function → String
  | sum => "SUM"
  | average => "AVERAGE"
  | max => "MAX"
  | min => "MIN"
  | count => "COUNT"
  | trim => "TRIM"
  | upper => "UPPER"
  | lower => "LOWER"

/-- All functions. -/
def all : List Function :=
  [sum, average, max, min, count, trim, upper, lower]

theorem mem_all (function : Function) : function ∈ all := by
  cases function <;> decide

/-- The function with a name, if there is one. -/
def ofName? (name : String) : Option Function :=
  all.find? (·.name == name)

theorem ofName?_name (function : Function) : ofName? function.name = some function := by
  cases function <;> decide

/-- The function that a formula body calls, with the rest of the body from the parenthesis on. The
name is the whole run of capitals at the front. -/
def ofCall? (body : List Char) : Option (Function × List Char) :=
  let letters := body.takeWhile Char.isUpper
  match body.dropWhile Char.isUpper with
  | '(' :: rest => (ofName? (String.ofList letters)).map fun function => (function, '(' :: rest)
  | _ => none

end Function

end Worksheet.Formula
