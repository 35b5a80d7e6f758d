import Worksheet.Formula.Expr
import Worksheet.Formula.Token

/-!
# Reading expressions

From loose to tight, the operators are the comparisons, `+` and `-`, then `*`, `/` and `%`, which
all group to the left; then the signs; then `^`, which groups to the right, so that `-2^2` is the
negative of `2^2`. Parentheses, signs and exponents may be nested to a fixed depth.

* `comparison?`, `additive?`, `multiplicative?` and `sign?` tell what a symbol stands for.
* `Reader.chain` reads operands joined by operators that group to the left.
* `Reader.signedWithin` reads a signed operand; its first argument is the number of nesting levels
  that are left.
* `Expr.ofTokens` reads a whole token list, `Expr.parse` a whole text.
-/

namespace Worksheet.Formula

/-! ## Operators -/

/-- The comparison that a symbol stands for. -/
def comparison? : Symbol → Option BinaryOp
  | .equal => some .equal
  | .notEqual => some .notEqual
  | .less => some .less
  | .lessEqual => some .lessEqual
  | .greater => some .greater
  | .greaterEqual => some .greaterEqual
  | _ => none

/-- The additive operator that a symbol stands for. -/
def additive? : Symbol → Option BinaryOp
  | .plus => some .add
  | .minus => some .subtract
  | _ => none

/-- The multiplicative operator that a symbol stands for. -/
def multiplicative? : Symbol → Option BinaryOp
  | .star => some .multiply
  | .slash => some .divide
  | .percent => some .modulo
  | _ => none

/-- The sign that a symbol stands for. -/
def sign? : Symbol → Option UnaryOp
  | .minus => some .negate
  | .plus => some .plus
  | _ => none

/-- The constant that a name stands for. -/
def constant? : String → Option Expr
  | "true" => some (.boolean true)
  | "false" => some (.boolean false)
  | "Infinity" => some (.number Number.infinity)
  | "NaN" => some (.number Number.notANumber)
  | _ => none

/-- What the symbol at the front of a token list stands for, with the tokens behind it. -/
def leading? {α : Type} (meaning? : Symbol → Option α) : List Token → Option (α × List Token)
  | .symbol s :: rest => (meaning? s).map fun meaning => (meaning, rest)
  | _ => none

/-! ## Readers -/

/-- Reads an expression off the front of a token list and leaves the rest. -/
abbrev Reader := List Token → Except ParseError (Expr × List Token)

namespace Reader

/-- Goes on from a left operand with up to `count` further operators and operands. -/
def chainFrom (op? : Symbol → Option BinaryOp) (operand : Reader) :
    (count : Nat) → Expr → Reader
  | 0, left, tokens => .ok (left, tokens)
  | count + 1, left, tokens =>
    match leading? op? tokens with
    | none => .ok (left, tokens)
    | some (op, afterOp) => do
      let (right, rest) ← operand afterOp
      chainFrom op? operand count (.binary op left right) rest

/-- Reads operands joined by operators that group to the left. There are no more operators than
tokens. -/
def chain (op? : Symbol → Option BinaryOp) (operand : Reader) : Reader := fun tokens => do
  let (left, rest) ← operand tokens
  chainFrom op? operand rest.length left rest

/-- Reads a whole expression, given how to read a signed operand. -/
def expression (operand : Reader) : Reader :=
  chain comparison? (chain additive? (chain multiplicative? operand))

/-- Reads a number, a constant or a parenthesised expression. The readers from here on take as
`inner` how to read a signed operand one nesting level further in. -/
def primary (inner : Reader) : Reader
  | .number value :: rest => .ok (.number value, rest)
  | .name text :: rest =>
    match constant? text with
    | some constant => .ok (constant, rest)
    | none => .error (.unknownName text)
  | .symbol .leftParen :: rest => do
    let (inside, rest) ← expression inner rest
    match rest with
    | .symbol .rightParen :: rest => .ok (inside, rest)
    | _ => .error (.unclosed rest.head?)
  | tokens => .error (.unexpected tokens.head?)

/-- Reads a primary and the exponent that may follow it. -/
def power (inner : Reader) : Reader := fun tokens => do
  let (base, rest) ← primary inner tokens
  match rest with
  | .symbol .caret :: rest => do
    let (exponent, rest) ← inner rest
    .ok (.binary .power base exponent, rest)
  | _ => .ok (base, rest)

/-- Reads a signed operand. -/
def signed (inner : Reader) : Reader := fun tokens =>
  match leading? sign? tokens with
  | some (op, rest) => do
    let (operand, rest) ← inner rest
    .ok (.unary op operand, rest)
  | none => power inner tokens

/-- Reads a signed operand that may nest `room` levels deep. -/
def signedWithin : (room : Nat) → Reader
  | 0 => signed fun _ => .error .tooDeep
  | room + 1 => signed (signedWithin room)

end Reader

/-- Reads a token list that is one expression. -/
def Expr.ofTokens (tokens : List Token) : Except ParseError Expr := do
  let (expr, rest) ← Reader.expression (Reader.signedWithin deepestNesting) tokens
  match rest with
  | [] => .ok expr
  | met :: _ => .error (.trailing met)

/-- Reads a text that is one expression. -/
def Expr.parse (input : String) : Except ParseError Expr := do
  if longestExpression < input.utf8ByteSize then .error .tooLong
  else Expr.ofTokens (← Token.scan input.toList)

end Worksheet.Formula
