import Worksheet.Text.VisibleTable

/-!
# Characters quoted in messages

How a message shows a single character between apostrophes, so that a reader can see which
character it is: controls, marks and invisible characters are written by their code point.
-/

namespace Worksheet.Text.Visible

/-- Whether the character would be hard to see: a combining mark, or one without a glyph. -/
def isHidden (c : Char) : Bool :=
  let within := fun (ranges : List (Nat × Nat)) =>
    ranges.any fun (first, last) => first ≤ c.toNat && c.toNat ≤ last
  within combiningRanges || within invisibleRanges

/-- The inside of the quotation of one character. -/
def escape (c : Char) : List Char :=
  match c with
  | '\x00' => ['\\', '0']
  | '\t' => ['\\', 't']
  | '\r' => ['\\', 'r']
  | '\n' => ['\\', 'n']
  | '\'' => ['\\', '\'']
  | '\\' => ['\\', '\\']
  | _ =>
    if isHidden c then
      "\\u\x7b".toList ++ Nat.toDigits 16 c.toNat ++ ['\x7d']
    else [c]

/-- The character between apostrophes. -/
def quote (c : Char) : String :=
  String.ofList ('\'' :: escape c ++ ['\''])

end Worksheet.Text.Visible
