import Worksheet.Formula.Lexeme
import Worksheet.Number.Layout
import Worksheet.Text.Visible

/-!
# Tokens

A token is a lexeme whose number has been read. The grammar of expressions is stated over tokens.

* `ParseError` lists the causes for which an expression is rejected, and `ParseError.message` words
  them.
* `Token.scan` turns a text into tokens.
-/

namespace Worksheet.Formula

/-- A terminal of the grammar of expressions. -/
inductive Token where
  | symbol (symbol : Symbol)
  | number (value : Float)
  | name (text : String)
  | stray (c : Char)
deriving DecidableEq

/-- How a message shows a token. -/
def Token.quote : Token → String
  | symbol s => s.name
  | number value => "Number(" ++ Number.Layout.quoted.write value ++ ")"
  | name text => "Identifier(\"" ++ text ++ "\")"
  | stray c => "Unknown(" ++ Text.Visible.quote c ++ ")"

/-- How a message shows the token that was met, or the end of the expression. -/
def quoteMet : Option Token → String
  | some token => token.quote
  | none => "Eof"

/-- The greatest length of an expression, in bytes. -/
def longestExpression : Nat := 8192

/-- The greatest number of parentheses, signs and exponents inside each other. -/
def deepestNesting : Nat := 256

/-- Why an expression is rejected. -/
inductive ParseError where
  | tooLong
  | tooDeep
  | invalidNumber (text : String)
  | unknownName (text : String)
  | unexpected (met : Option Token)
  | unclosed (met : Option Token)
  | trailing (met : Token)
  /-- A cause that another evaluator reports in its own words. -/
  | reported (message : String)
deriving DecidableEq

/-- The message of a parse error. -/
def ParseError.message : ParseError → String
  | tooLong => "Expression longer than " ++ toString longestExpression ++ " bytes"
  | tooDeep => "Expression nested deeper than " ++ toString deepestNesting
  | invalidNumber text => "Invalid number '" ++ text ++ "'"
  | unknownName text => "Undefined symbol '" ++ text ++ "'"
  | unexpected met => "Unexpected token: " ++ quoteMet met
  | unclosed met => "Expected " ++ Symbol.rightParen.name ++ ", got " ++ quoteMet met
  | trailing met => "Unexpected " ++ met.quote ++ " after expression"
  | reported message => message

/-- Reads the number of a lexeme that is one. -/
def Token.ofLexeme : Lexeme → Except ParseError Token
  | .symbol s => .ok (.symbol s)
  | .number text =>
    match Number.ofText? text with
    | some value => .ok (.number value)
    | none => .error (.invalidNumber (String.ofList text))
  | .name text => .ok (.name (String.ofList text))
  | .stray c => .ok (.stray c)

/-- The tokens of a text. -/
def Token.scan (input : List Char) : Except ParseError (List Token) :=
  (lexemes input).mapM Token.ofLexeme

end Worksheet.Formula
