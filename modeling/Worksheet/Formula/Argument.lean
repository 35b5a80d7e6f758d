import Worksheet.Formula.Error

/-!
# Literal arguments

A text function takes the text between two parentheses as it stands. The opening parenthesis is
the leftmost one that is closed on the same line, and the first closing one ends the argument.
-/

namespace Worksheet.Formula

/-- The text up to the first closing parenthesis, if it comes before the end of the line. -/
def closedText? : List Char → Option (List Char)
  | [] => none
  | ')' :: _ => some []
  | '\n' :: _ => none
  | c :: rest => (closedText? rest).map (c :: ·)

/-- The text in the leftmost parentheses that are closed on the same line. -/
def group? : List Char → Option (List Char)
  | [] => none
  | '(' :: rest =>
    match closedText? rest with
    | some inside => some inside
    | none => group? rest
  | _ :: rest => group? rest

/-- The literal argument of a text function; an empty one counts as missing. -/
def argument (args : String) (function : Function) : Except EvalError (List Char) :=
  match group? args.toList with
  | some (c :: rest) => .ok (c :: rest)
  | _ => .error (.noArgument function)

end Worksheet.Formula
