import Worksheet.Text.CaseTable

/-!
# Capital and small letters

The full case maps of Unicode on texts. A letter may become several (`ß` is written `SS`), and a
capital sigma becomes the final form `ς` at the end of a word and `σ` elsewhere.
-/

namespace Worksheet.Text.Case

/-- Whether a code point lies in one of the inclusive ranges. -/
def inRanges (ranges : List (Nat × Nat)) (n : Nat) : Bool :=
  ranges.any fun (first, last) => first ≤ n && n ≤ last

/-- The property Cased. -/
def isCased (c : Char) : Bool :=
  inRanges casedRanges c.toNat

/-- The property Case_Ignorable. -/
def isCaseIgnorable (c : Char) : Bool :=
  inRanges caseIgnorableRanges c.toNat

/-- Whether a code point belongs to a run. -/
def Run.contains (run : Run) (n : Nat) : Bool :=
  run.first ≤ n && n ≤ run.last && (n - run.first) % run.step == 0

/-- Maps one character: by the long table, else by the runs, else to itself. -/
def mapChar (long : List (Nat × List Nat)) (runs : List Run) (c : Char) : List Char :=
  match long.lookup c.toNat with
  | some code => code.map Char.ofNat
  | none =>
    match runs.find? (·.contains c.toNat) with
    | some run => [Char.ofNat (c.toNat + run.shift).toNat]
    | none => [c]

/-- The capital form of one character. -/
def upperChar : Char → List Char :=
  mapChar upperLong upperRuns

/-- The small form of one character that stands alone. -/
def lowerChar : Char → List Char :=
  mapChar lowerLong lowerRuns

/-- The text in capital letters. -/
def upper (text : List Char) : List Char :=
  text.flatMap upperChar

/-- Whether the first character that is not case-ignorable is cased. -/
def meetsCased (text : List Char) : Bool :=
  match text.dropWhile isCaseIgnorable with
  | [] => false
  | c :: _ => isCased c

/-- Writes `rest` in small letters; `before` holds what stands in front of it, nearest first. -/
def lowerAfter (before : List Char) : (rest : List Char) → List Char
  | [] => []
  | c :: rest =>
    let small :=
      if c == 'Σ' then
        if meetsCased before && !meetsCased rest then ['ς'] else ['σ']
      else lowerChar c
    small ++ lowerAfter (c :: before) rest

/-- The text in small letters. -/
def lower (text : List Char) : List Char :=
  lowerAfter [] text

end Worksheet.Text.Case
