import Worksheet.Number.Literal
import Worksheet.Text.Blank

/-!
# The number that a text begins with

What a cell shows counts as a number if it begins with one, after blanks: an optional sign and a
decimal literal or the word `Infinity`. What follows the number is not looked at.
-/

namespace Worksheet.Number

/-- The word for an unbounded magnitude. -/
def infinityWord : List Char := "Infinity".toList

/-- The unsigned number at the front of a text. -/
def magnitude? (text : List Char) : Option Float :=
  if infinityWord.isPrefixOf text then some infinity
  else
    match Literal.cut? text with
    | some (literal, _) => ofText? literal
    | none => none

/-- The number at the front of a text, behind blanks and an optional sign. -/
def leading? (text : String) : Option Float :=
  match Text.trimStart text.toList with
  | '-' :: rest => (magnitude? rest).map fun x => -x
  | '+' :: rest => magnitude? rest
  | rest => magnitude? rest

end Worksheet.Number
