import SurveyFlow.CommandLine.Run

/-!
# The program

Hands the arguments, the environment and the files to `SurveyFlow.CommandLine.run` and reports how it
ended.
-/

namespace SurveyFlow.CommandLine

/-- The bytes of a file, if there is one. -/
def readFile? (path : String) : IO (Option ByteArray) := do
  try
    return some (← IO.FS.readBinFile path)
  catch _ =>
    return none

/-- The variables of the environment; where the system does not list them, those of the settings. -/
def readEnvironment : IO Environment := do
  match ← readFile? "/proc/self/environ" with
  | some block => return Environment.ofBlock block
  | none =>
    let names := [configVariable, Settings.policyVariable, Settings.capacityVariable]
    names.filterMapM fun name => do
      return (← IO.getEnv name).map fun value => (name, value)

/-- Runs the program, prints what it says, and gives its exit code. -/
def perform (args : List String) : IO UInt32 := do
  let directory := (← IO.currentDir).toString
  let ended ← run readFile? (envFilePaths directory) (← readEnvironment) args
  match ended with
  | .success output => IO.print output
  | .failure output message =>
    IO.print output
    IO.eprintln ("Error: " ++ message)
  | .misuse => IO.eprint (printed usageLines)
  | .aborted => IO.eprintln (envFileName ++ " holds a value that no variable can have")
  return ended.code.toUInt32

end SurveyFlow.CommandLine

def main (args : List String) : IO UInt32 :=
  SurveyFlow.CommandLine.perform args
