import Worksheet.Formula.Reader

/-!
# Values of expressions

Arithmetic on doubles, in which a division by zero is no failure. Truth values count as one and
zero. Two numbers count as equal if they differ by no more than rounding, and the comparisons
agree with that.

* `countsAsEqual` is equality up to rounding, `floorRemainder` the remainder of `%`.
* `Expr.eval` is the value of an expression.
-/

namespace Worksheet.Formula

/-- The value of an expression. -/
inductive Value where
  | number (value : Float)
  | boolean (value : Bool)
deriving DecidableEq

namespace Value

/-- The value as an operand: truth counts as one, falsehood as zero. -/
def toNumber : Value → Float
  | number x => x
  | boolean true => 1
  | boolean false => 0

/-- The value as a cell shows it. -/
def text : Value → String
  | number x => Number.text x
  | boolean true => "true"
  | boolean false => "false"

end Value

/-- The larger of two magnitudes. -/
def larger (a b : Float) : Float :=
  if a < b then b else a

/-- The difference up to which two finite numbers count as equal, by their size. -/
def relativeTolerance : Float := 1e-12

/-- The difference up to which two finite numbers always count as equal. -/
def absoluteTolerance : Float := 1e-15

/-- Whether two numbers count as equal. -/
def countsAsEqual (a b : Float) : Bool :=
  if a == b then true
  else if !a.isFinite || !b.isFinite then false
  else (a - b).abs ≤ larger (relativeTolerance * larger a.abs b.abs) absoluteTolerance

/-- The remainder that takes the sign of the divisor; a remainder by zero is the dividend. -/
def floorRemainder (x y : Float) : Float :=
  if y == 0 then x else x - y * (x / y).floor

/-- The value of a sign in front of a number. -/
def UnaryOp.apply : UnaryOp → Float → Float
  | negate, x => -x
  | plus, x => x

/-- The value of an operator between two numbers. -/
def BinaryOp.apply : BinaryOp → Float → Float → Value
  | add, x, y => .number (x + y)
  | subtract, x, y => .number (x - y)
  | multiply, x, y => .number (x * y)
  | divide, x, y => .number (x / y)
  | modulo, x, y => .number (floorRemainder x y)
  | power, x, y => .number (x.pow y)
  | equal, x, y => .boolean (countsAsEqual x y)
  | notEqual, x, y => .boolean (!countsAsEqual x y)
  | less, x, y => .boolean (x < y && !countsAsEqual x y)
  | lessEqual, x, y => .boolean (x < y || countsAsEqual x y)
  | greater, x, y => .boolean (y < x && !countsAsEqual x y)
  | greaterEqual, x, y => .boolean (y < x || countsAsEqual x y)

/-- The value of an expression. -/
def Expr.eval : Expr → Value
  | number x => .number x
  | boolean b => .boolean b
  | unary op operand => .number (op.apply operand.eval.toNumber)
  | binary op left right => op.apply left.eval.toNumber right.eval.toNumber

end Worksheet.Formula
