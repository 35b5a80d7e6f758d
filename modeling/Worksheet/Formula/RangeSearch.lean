import Worksheet.Address.Spelling
import Worksheet.Formula.Error
import Worksheet.Range

/-!
# The range in a text

The arguments of an aggregate are searched for the first place where a letter and digits, a colon,
and again a letter and digits stand together. Any row numbers are taken: a row past the last one
counts as the last, and row zero bounds nothing.

* `rangeAt?` reads such an occurrence at the front of a text.
* `rangeIn` finds the leftmost one.
-/

namespace Worksheet.Formula

open Address (Spelling)

/-- The row of a written number: none for zero, and the last row for a number past it. -/
def rowOf? (number : Nat) : Option UInt32 :=
  if number = 0 then none
  else if UInt32.size ≤ number then some (UInt32.ofNat (UInt32.size - 1))
  else some (UInt32.ofNat (number - 1))

/-- The range between two corners. It holds nothing if the second corner is in row zero; a first
corner in row zero counts as one in row one. -/
def rangeBetween (first second : Spelling) : Range :=
  match rowOf? second.number with
  | some row => ⟨⟨(rowOf? first.number).getD 0, first.col⟩, ⟨row, second.col⟩⟩
  | none => ⟨⟨1, first.col⟩, ⟨0, second.col⟩⟩

/-- Reads two corners joined by a colon at the front of a text. -/
def rangeAt? (text : List Char) : Option Range :=
  match Spelling.cut? text with
  | some (first, ':' :: rest) =>
    (Spelling.cut? rest).map fun (second, _) => rangeBetween first second
  | _ => none

/-- The leftmost range in a text. -/
def firstRange? : List Char → Option Range
  | [] => none
  | c :: rest =>
    match rangeAt? (c :: rest) with
    | some range => some range
    | none => firstRange? rest

/-- The leftmost range in a text; a text without one is refused. -/
def rangeIn (args : String) : Except EvalError Range :=
  match firstRange? args.toList with
  | some range => .ok range
  | none => .error (.noRange args)

end Worksheet.Formula
