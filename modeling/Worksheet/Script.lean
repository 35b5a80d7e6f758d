import Worksheet.Sheet

/-!
# Scripts

A script enters inputs into a new sheet, one line for each. A line names a cell and, behind
blanks, gives the input. Blank lines and lines that begin with `#` are passed over.

* `Script.entry?` reads one line.
* `Script.run` enters all lines, up to the first one that the sheet refuses.
-/

namespace Worksheet.Script

/-- Splits a text at its line feeds. -/
def lines : List Char → List (List Char)
  | [] => [[]]
  | c :: rest =>
    if c = '\n' then [] :: lines rest
    else
      match lines rest with
      | [] => [[c]]
      | line :: others => (c :: line) :: others

/-- Removes carriage returns at the end of a line. -/
def dropReturns (line : List Char) : List Char :=
  (line.reverse.dropWhile (· == '\r')).reverse

/-- An input for a cell. -/
structure Entry where
  address : String
  input : String
deriving DecidableEq

/-- The entry of a line, unless the line is blank or a comment. -/
def entry? (line : List Char) : Option Entry :=
  let body := Text.trimStart (dropReturns line)
  match body with
  | [] => none
  | '#' :: _ => none
  | _ =>
    let address := body.takeWhile (!Text.isBlank ·)
    let input := Text.trimStart (body.dropWhile (!Text.isBlank ·))
    some ⟨String.ofList address, String.ofList input⟩

/-- The first line that a sheet refuses, counted from one, and the cause. -/
structure Rejection where
  line : Nat
  cause : Error
deriving DecidableEq

/-- Enters lines into a sheet; `number` is the number of the first line. -/
def runFrom (number : Nat) (sheet : Sheet) : List (List Char) → Except Rejection Sheet
  | [] => .ok sheet
  | line :: others =>
    match entry? line with
    | none => runFrom (number + 1) sheet others
    | some entry =>
      match sheet.enter entry.address entry.input with
      | .ok (_, sheet) => runFrom (number + 1) sheet others
      | .error cause => .error ⟨number, cause⟩

/-- Enters the lines of a script into a new sheet. -/
def run (script : String) : Except Rejection Sheet :=
  runFrom 1 {} (lines script.toList)

end Worksheet.Script
