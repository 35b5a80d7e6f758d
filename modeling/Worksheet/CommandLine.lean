import Worksheet.Command

/-!
# Command line arguments

The two commands and their options, read from the arguments of the program.

* `Invocation.parse?` reads the arguments. Long options take their value behind an equals sign or
  as the next argument, and nothing behind `--` is an option.
-/

namespace Worksheet

/-- What the program is asked to do. -/
inductive Request where
  /-- Evaluate one input, on top of a file of cells and of assignments. -/
  | evaluate (cells : Option String) (assignments : List String) (input : String)
  /-- Run a script file; `-` stands for the standard input. -/
  | apply (script : String) (json : Bool)
deriving DecidableEq

/-- A line about a request, for a reader who wants to see what is done. -/
def Request.summary : Request → String
  | evaluate _ assignments input =>
    "evaluating " ++ input ++ " after " ++ toString assignments.length ++ " assignments"
  | apply script _ => "applying " ++ script

/-- The arguments as they are collected. -/
structure Arguments where
  positional : List String := []
  cells : Option String := none
  assignments : List String := []
  json : Bool := false
  verbose : Bool := false
deriving DecidableEq

namespace Arguments

/-- Adds an argument that is no option. -/
def addPositional (arguments : Arguments) (text : String) : Arguments :=
  { arguments with positional := arguments.positional ++ [text] }

/-- Adds an assignment. -/
def addAssignment (arguments : Arguments) (text : String) : Arguments :=
  { arguments with assignments := arguments.assignments ++ [text] }

/-- The text behind a beginning, if a text has that beginning. -/
def behind? (beginning text : String) : Option String :=
  if beginning.toList.isPrefixOf text.toList then
    some (String.ofList (text.toList.drop beginning.toList.length))
  else none

/-- Collects the arguments in order. -/
def collect? (arguments : Arguments) : List String → Option Arguments
  | [] => some arguments
  | "--" :: rest => some (rest.foldl addPositional arguments)
  | "-v" :: rest => collect? { arguments with verbose := true } rest
  | "--verbose" :: rest => collect? { arguments with verbose := true } rest
  | "--json" :: rest => collect? { arguments with json := true } rest
  | "-c" :: file :: rest => collect? { arguments with cells := some file } rest
  | "--cells" :: file :: rest => collect? { arguments with cells := some file } rest
  | "-s" :: text :: rest => collect? (arguments.addAssignment text) rest
  | "--set" :: text :: rest => collect? (arguments.addAssignment text) rest
  | "-" :: rest => collect? (arguments.addPositional "-") rest
  | argument :: rest =>
    match behind? "--cells=" argument, behind? "--set=" argument, behind? "-" argument with
    | some file, _, _ => collect? { arguments with cells := some file } rest
    | _, some text, _ => collect? (arguments.addAssignment text) rest
    | _, _, some _ => none
    | _, _, none => collect? (arguments.addPositional argument) rest

end Arguments

/-- What the program is asked to do, and whether it shall be verbose. -/
structure Invocation where
  request : Request
  verbose : Bool
deriving DecidableEq

/-- Reads the arguments of the program. -/
def Invocation.parse? (arguments : List String) : Option Invocation := do
  let collected ← Arguments.collect? {} arguments
  match collected.positional with
  | ["eval", input] =>
    if collected.json then none
    else some ⟨.evaluate collected.cells collected.assignments input, collected.verbose⟩
  | ["apply", script] =>
    if collected.cells.isSome || !collected.assignments.isEmpty then none
    else some ⟨.apply script collected.json, collected.verbose⟩
  | _ => none

end Worksheet
