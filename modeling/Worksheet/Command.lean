import Worksheet.Json.Record
import Worksheet.Script

/-!
# Commands

The two commands of the command line, as functions from what they read to what they write.

* `Command.evaluate` enters assignments and evaluates one formula.
* `Command.apply` runs a script and prints the cells of the sheet.

A command that fails writes only its error, and exits with one.
-/

namespace Worksheet.Command

/-- What a command leaves behind. -/
structure Outcome where
  code : Nat
  stdout : String
  stderr : String
deriving DecidableEq

/-- Why a command fails. -/
inductive Failure where
  /-- A file cannot be read. -/
  | unreadableFile (name cause : String)
  /-- The text of a file is no snapshot. -/
  | unreadableCells (name : String)
  /-- An assignment has no equals sign. -/
  | malformedAssignment (assignment : String)
  /-- The sheet refuses an assignment. -/
  | rejectedAssignment (address : String) (cause : Error)
  /-- The sheet refuses a line of a script. -/
  | rejectedLine (rejection : Script.Rejection)
deriving DecidableEq

/-- Indents every line of a cause by four blanks. -/
def indent (cause : String) : String :=
  "    " ++ String.ofList (cause.toList.flatMap fun c =>
    if c = '\n' then '\n' :: List.replicate 4 ' ' else [c])

/-- The report of a failure. -/
def Failure.report : Failure → String
  | unreadableFile name cause =>
    "Error: Failed to read '" ++ name ++ "'\n\nCaused by:\n" ++ indent cause ++ "\n"
  | unreadableCells name => "Error: Failed to parse cells from '" ++ name ++ "'"
  | malformedAssignment assignment =>
    "Error: Expected ADDR=VALUE, got '" ++ assignment ++ "'\n"
  | rejectedAssignment address cause =>
    "Error: Failed to set '" ++ address ++ "'\n\nCaused by:\n" ++ indent cause.message ++ "\n"
  | rejectedLine rejection =>
    "Error: Line " ++ toString rejection.line ++ ": " ++ rejection.cause.message ++ "\n"

/-- What a failed command leaves behind. -/
def Failure.outcome (failure : Failure) : Outcome where
  code := 1
  stdout := ""
  stderr := failure.report

/-- A file that gives a snapshot as JSON text. -/
structure CellFile where
  name : String
  json : String

/-- The cells of a file; without a file there are none. -/
def readCells : Option CellFile → Except Failure Snapshot
  | none => .ok Snapshot.empty
  | some file =>
    match (Json.parse file.json).bind Snapshot.ofJson? with
    | some cells => .ok cells
    | none => .error (.unreadableCells file.name)

/-- Splits an assignment at its first equals sign. -/
def splitAssignment? (assignment : String) : Option (String × String) :=
  match assignment.toList.dropWhile (· != '=') with
  | [] => none
  | _ :: input =>
    some (String.ofList (assignment.toList.takeWhile (· != '=')), String.ofList input)

/-- Enters an assignment into a sheet; blanks around the address do not count. -/
def assign (sheet : Sheet) (assignment : String) : Except Failure Sheet :=
  match splitAssignment? assignment with
  | none => .error (.malformedAssignment assignment)
  | some (address, input) =>
    match sheet.enter (String.ofList (Text.trim address.toList)) input with
    | .ok (_, sheet) => .ok sheet
    | .error cause => .error (.rejectedAssignment address cause)

/-- Enters assignments on top of the given cells, and shows what an input would show then. -/
def evaluate (file : Option CellFile) (assignments : List String) (input : String) : Outcome :=
  let shown : Except Failure String := do
    let cells ← readCells file
    let sheet ← assignments.foldlM assign { cells := cells }
    return Formula.displayOfInput input sheet.cells
  match shown with
  | .ok display => { code := 0, stdout := display ++ "\n", stderr := "" }
  | .error failure => failure.outcome

/-- The cells of a sheet, one line for each: the address, a tab, and what the cell shows. -/
def listing (cells : Snapshot) : String :=
  String.join (cells.sorted.map fun (address, cell) =>
    address.text ++ "\t" ++ cell.display ++ "\n")

/-- The cells of a sheet as JSON, in the order of their names. -/
def jsonListing (cells : Snapshot) : String :=
  cells.toJson.sortMembers.pretty ++ "\n"

/-- Runs a script and prints the cells, as lines or as JSON. -/
def apply (script : String) (asJson : Bool) : Outcome :=
  match Script.run script with
  | .ok sheet =>
    { code := 0
      stdout := if asJson then jsonListing sheet.cells else listing sheet.cells
      stderr := "Applied " ++ toString sheet.size ++ " cells\n" }
  | .error rejection => (Failure.rejectedLine rejection).outcome

end Worksheet.Command
