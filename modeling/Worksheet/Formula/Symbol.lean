/-!
# Symbols of arithmetic

The fourteen symbols of arithmetic and their spelling. Where one spelling begins another, as `<`
begins `<=`, the longer one is read.

* `Symbol.cut?` cuts a symbol off the front of a text; `cut?_append` says that nothing is lost.
-/

namespace Worksheet.Formula

/-- A symbol of arithmetic. -/
inductive Symbol where
  | plus
  | minus
  | star
  | slash
  | percent
  | caret
  | equal
  | notEqual
  | less
  | lessEqual
  | greater
  | greaterEqual
  | leftParen
  | rightParen
deriving DecidableEq

namespace Symbol

/-- How a symbol is written. -/
def spelling : Symbol → List Char
  | plus => ['+']
  | minus => ['-']
  | star => ['*']
  | slash => ['/']
  | percent => ['%']
  | caret => ['^']
  | equal => ['=', '=']
  | notEqual => ['!', '=']
  | less => ['<']
  | lessEqual => ['<', '=']
  | greater => ['>']
  | greaterEqual => ['>', '=']
  | leftParen => ['(']
  | rightParen => [')']

/-- All symbols, the longer spellings first. -/
def all : List Symbol :=
  [equal, notEqual, lessEqual, greaterEqual, less, greater, plus, minus, star, slash, percent,
    caret, leftParen, rightParen]

theorem mem_all (symbol : Symbol) : symbol ∈ all := by
  cases symbol <;> decide

theorem spelling_ne_nil (symbol : Symbol) : symbol.spelling ≠ [] := by
  cases symbol <;> simp [spelling]

/-- Cuts the longest symbol off the front of a text. -/
def cut? (text : List Char) : Option (Symbol × List Char) :=
  (all.find? (·.spelling.isPrefixOf text)).map fun symbol =>
    (symbol, text.drop symbol.spelling.length)

theorem cut?_append {text rest : List Char} {symbol : Symbol}
    (h : cut? text = some (symbol, rest)) : symbol.spelling ++ rest = text := by
  simp only [cut?, Option.map_eq_some_iff, Prod.mk.injEq] at h
  obtain ⟨found, hfound, rfl, rfl⟩ := h
  have hspelled := List.find?_some hfound
  exact (List.prefix_iff_eq_append.mp (List.isPrefixOf_iff_prefix.mp hspelled))

/-- The name of a symbol in messages. -/
def name : Symbol → String
  | plus => "Plus"
  | minus => "Minus"
  | star => "Star"
  | slash => "Slash"
  | percent => "Percent"
  | caret => "Caret"
  | equal => "EqualEqual"
  | notEqual => "NotEqual"
  | less => "LessThan"
  | lessEqual => "LessEqual"
  | greater => "GreaterThan"
  | greaterEqual => "GreaterEqual"
  | leftParen => "LeftParen"
  | rightParen => "RightParen"

end Symbol

end Worksheet.Formula
