import Worksheet.CommandLine

/-!
# The program

Reads the files that a request names, runs the request, and prints what it leaves behind.
-/

namespace Worksheet

/-- How the program is called. -/
def usage : String :=
  "Usage: worksheet [-v] eval [--cells FILE] [--set ADDR=VALUE]... FORMULA\n" ++
  "       worksheet [-v] apply SCRIPT [--json]\n"

/-- The rest of a stream, behind the text that has been read. -/
partial def readAll (stream : IO.FS.Stream) (text : String) : IO String := do
  let line ← stream.getLine
  if line.isEmpty then return text else readAll stream (text ++ line)

/-- The text of a file. -/
def readText (name : String) : IO (Except Command.Failure String) := do
  match ← (IO.FS.readFile name).toBaseIO with
  | .ok text => return .ok text
  | .error cause => return .error (.unreadableFile name (toString cause))

/-- The text of a script: of the standard input, if its name is a hyphen. -/
def readScript (name : String) : IO (Except Command.Failure String) := do
  if name = "-" then return .ok (← readAll (← IO.getStdin) "") else readText name

/-- Runs a request. -/
def Request.run : Request → IO Command.Outcome
  | .evaluate none assignments input =>
    return Command.evaluate none assignments input
  | .evaluate (some name) assignments input => do
    match ← readText name with
    | .ok json => return Command.evaluate (some ⟨name, json⟩) assignments input
    | .error failure => return failure.outcome
  | .apply name json => do
    match ← readScript name with
    | .ok script => return Command.apply script json
    | .error failure => return failure.outcome

end Worksheet

/-- Runs the request of the arguments. -/
def main (arguments : List String) : IO UInt32 := do
  match Worksheet.Invocation.parse? arguments with
  | none =>
    IO.eprint Worksheet.usage
    return 2
  | some invocation =>
    if invocation.verbose then IO.eprintln invocation.request.summary
    let outcome ← invocation.request.run
    IO.print outcome.stdout
    IO.eprint outcome.stderr
    return UInt32.ofNat outcome.code
