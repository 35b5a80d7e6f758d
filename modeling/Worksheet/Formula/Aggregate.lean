import Worksheet.Formula.RangeSearch
import Worksheet.Number.Layout
import Worksheet.Number.Leading
import Worksheet.Snapshot.Traversal

/-!
# Aggregates

The numbers that the cells of a range show, and their sum, mean, extremes and count. A cell counts
if what it shows begins with a number.
-/

namespace Worksheet.Formula

/-- The numbers shown in the range that the arguments name, in row-major order. -/
def numbersIn (args : String) (cells : Snapshot) : Except EvalError (List Float) :=
  (rangeIn args).map fun range =>
    (cells.cellsWithin range).filterMap fun cell => Number.leading? cell.display

/-- The sum, from left to right. -/
def total (values : List Float) : Float :=
  values.foldl (· + ·) 0

/-- The mean of at least one number. -/
def mean (values : List Float) : Float :=
  total values / Float.ofNat values.length

/-- The number that wins every comparison by `pick`, unless there is none. -/
def extreme? (pick : Float → Float → Float) : List Float → Option Float
  | [] => none
  | first :: others => some (others.foldl pick first)

/-- The greater of two numbers. -/
def greaterOf (a b : Float) : Float :=
  if a < b then b else a

/-- The smaller of two numbers. -/
def smallerOf (a b : Float) : Float :=
  if b < a then b else a

end Worksheet.Formula
