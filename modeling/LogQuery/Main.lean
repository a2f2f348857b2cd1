import LogQuery.CommandLine.Run
import LogQuery.CommandLine.Usage

/-!
# Main — the program

The program reads its arguments and the files that they name, and prints the outcome of the run.
-/

namespace LogQuery

open CommandLine

/-- The files that a run may read. -/
def filesToRead (a : Arguments) : List String :=
  a.config.toList ++
    match a.command with
    | .search files _ _ _ => files
    | _ => []

/-- Read a file, or tell why it cannot be read. -/
def readOne (name : String) : IO (String × Except FileError ByteArray) := do
  try
    let bytes ← IO.FS.readBinFile name
    pure (name, .ok bytes)
  catch
    | .noFileOrDirectory .. => pure (name, .error .missing)
    | _ => pure (name, .error .directory)

/-- Carry out a run. -/
def carryOut (a : Arguments) : IO UInt32 := do
  let contents ← (filesToRead a).mapM readOne
  let files : Files := fun name => (contents.lookup name).getD (.error .missing)
  let terminal : Terminal :=
    { styled := (← (← IO.getStdout).isTty), allColors := (← IO.getEnv "COLORTERM").isSome }
  let outcome := run files terminal a
  IO.print outcome.text
  let mut problems := outcome.problems
  if let some file := outcome.saveTo then
    try
      IO.FS.writeFile file outcome.text
    catch e =>
      problems := writeProblems file (toString e)
  IO.eprint (problemText problems)
  pure (if problems.isEmpty then 0 else 1)

end LogQuery

/-- Run the program. -/
def main (args : List String) : IO UInt32 := do
  let environment ← IO.getEnv "LOG_FILTER_CONFIG"
  match LogQuery.CommandLine.Arguments.read environment args with
  | .ok a => LogQuery.carryOut a
  | .error refusal => do
    if refusal.isWanted then IO.print refusal.text else IO.eprint refusal.text
    pure refusal.exitCode.toUInt32
