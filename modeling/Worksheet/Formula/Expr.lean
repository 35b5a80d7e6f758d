/-!
# Expressions

The trees of arithmetic: numbers, truth values, two signs and twelve binary operators.
-/

namespace Worksheet.Formula

/-- A sign in front of an operand. -/
inductive UnaryOp where
  | negate
  | plus
deriving DecidableEq

/-- An operator between two operands. -/
inductive BinaryOp where
  | add
  | subtract
  | multiply
  | divide
  | modulo
  | power
  | equal
  | notEqual
  | less
  | lessEqual
  | greater
  | greaterEqual
deriving DecidableEq

/-- An expression of arithmetic. -/
inductive Expr where
  | number (value : Float)
  | boolean (value : Bool)
  | unary (op : UnaryOp) (operand : Expr)
  | binary (op : BinaryOp) (left right : Expr)
deriving DecidableEq

/-- The number of nodes of an expression. -/
def Expr.size : Expr → Nat
  | number _ => 1
  | boolean _ => 1
  | unary _ operand => operand.size + 1
  | binary _ left right => left.size + right.size + 1

/-- The greatest number of steps on a path from the root that lead into the operand of a sign or
into an exponent. -/
def Expr.nesting : Expr → Nat
  | number _ => 0
  | boolean _ => 0
  | unary _ operand => operand.nesting + 1
  | binary .power left right => max left.nesting (right.nesting + 1)
  | binary _ left right => max left.nesting right.nesting

end Worksheet.Formula
