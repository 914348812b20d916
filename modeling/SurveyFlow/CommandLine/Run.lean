import SurveyFlow.CommandLine.Arguments
import SurveyFlow.CommandLine.Environment
import SurveyFlow.Condition.Form
import SurveyFlow.Condition.Printer
import SurveyFlow.Files
import SurveyFlow.Json.Printer
import SurveyFlow.Survey.ReportForm
import SurveyFlow.Survey.Scope
import SurveyFlow.Survey.Walk

/-!
# Command line: running a command

A run reads the files that its arguments name and ends with what it prints, and with an error if something
went wrong. How files are read is left to the caller, as in `SurveyFlow.Files`.
-/

namespace SurveyFlow.CommandLine

/-- How a run of the program ends. -/
inductive Exit where
  | success (output : String)
  /-- An error, with what had been printed before it. -/
  | failure (output message : String)
  /-- The arguments are not what the program takes. -/
  | misuse
  /-- The file of assignments holds a value that no variable can have. -/
  | aborted
deriving DecidableEq, Repr

/-- The exit code. -/
def Exit.code : Exit → Nat
  | success _ => 0
  | failure _ _ => 1
  | misuse => 2
  | aborted => 101

/-- Lines of output. -/
def printed (lines : List String) : String :=
  String.join (lines.map (· ++ "\n"))

/-! ## Help -/

/-- The version of the program. -/
def versionText : String := "skiplogic-rs 0.1.0\n"

/-- How to use the program. -/
def usageLines : List String :=
  ["Usage: skiplogic [OPTIONS] <COMMAND>",
   "",
   "Commands:",
   "  parse     Parse a condition and print its canonical form",
   "  eval      Evaluate a condition against an uploaded response",
   "  validate  Check every condition in a survey definition",
   "  walk      Replay a response and report what should have been displayed",
   "  help      Print this message or the help of the given subcommand(s)",
   "",
   "Options:",
   "  -c, --config <CONFIG>  Settings file (defaults to $SKIPLOGIC_CONFIG)",
   "  -h, --help             Print help",
   "  -V, --version          Print version"]

/-- How to use a command. -/
def commandUsage (name : String) : List String :=
  match name with
  | "parse" => ["Parse a condition and print its canonical form", "",
      "Usage: skiplogic parse [OPTIONS] <CONDITION>", "",
      "Options:",
      "      --json             Print the syntax tree as JSON",
      "  -c, --config <CONFIG>  Settings file (defaults to $SKIPLOGIC_CONFIG)",
      "  -h, --help             Print help"]
  | "eval" => ["Evaluate a condition against an uploaded response", "",
      "Usage: skiplogic eval [OPTIONS] --survey <SURVEY> --responses <RESPONSES> <CONDITION>", "",
      "Options:",
      "  -s, --survey <SURVEY>",
      "  -r, --responses <RESPONSES>",
      "      --iteration <ITERATION>  Evaluate inside a repeatable set iteration, e.g. `meals:0`",
      "  -c, --config <CONFIG>        Settings file (defaults to $SKIPLOGIC_CONFIG)",
      "  -h, --help                   Print help"]
  | "validate" => ["Check every condition in a survey definition", "",
      "Usage: skiplogic validate [OPTIONS] --survey <SURVEY>", "",
      "Options:",
      "  -s, --survey <SURVEY>",
      "  -c, --config <CONFIG>  Settings file (defaults to $SKIPLOGIC_CONFIG)",
      "  -h, --help             Print help"]
  | "walk" => ["Replay a response and report what should have been displayed", "",
      "Usage: skiplogic walk [OPTIONS] --survey <SURVEY> --responses <RESPONSES>", "",
      "Options:",
      "  -s, --survey <SURVEY>",
      "  -r, --responses <RESPONSES>",
      "      --json                   Print the report as JSON",
      "  -c, --config <CONFIG>        Settings file (defaults to $SKIPLOGIC_CONFIG)",
      "  -h, --help                   Print help"]
  | _ => ["Print this message or the help of the given subcommand(s)", "",
      "Usage: skiplogic help [COMMAND]..."]

/-! ## Commands -/

/-- The iteration that a selector names: a set and, behind the first colon, an index. -/
def readSelector (selector : String) : Except String (String × Nat) :=
  let cs := selector.toList
  match cs.dropWhile (· ≠ ':') with
  | _ :: index =>
    match unsigned? (String.ofList index) with
    | some n => .ok (String.ofList (cs.takeWhile (· ≠ ':')), n)
    | none => .error ("Invalid iteration index '" ++ String.ofList index ++ "'")
  | [] => .error ("--iteration expects SET:INDEX, got '" ++ selector ++ "'")

/-- Prints a condition in its canonical form or as JSON. -/
def runParse (condition : String) (json : Bool) : Exit :=
  match parseCondition condition with
  | .error e => .failure "" e.message
  | .ok s => .success (printed [if json then s.toJson.renderIndented 0 else s.render])

/-- Evaluates a condition on a response or on the iteration that a selector names. -/
def runEval (survey : Definition) (response : Response) (condition : String) (selector : Option String) :
    Exit :=
  let iteration : Except String (Option (String × Nat)) := match selector with
    | none => .ok none
    | some text => (readSelector text).map some
  match iteration with
  | .error message => .failure "" message
  | .ok iteration =>
    match evaluateResponse survey response iteration condition with
    | .ok value => .success (printed [if value then "true" else "false"])
    | .error e => .failure "" (e.message?.getD "")

/-- Prints the issues of a definition, which are an error. -/
def runValidate (survey : Definition) : Exit :=
  let issues := validate survey
  let output := printed (issues.map Issue.message)
  if issues.isEmpty then .success output
  else .failure output (SurveyError.invalidDefinition survey.id issues.length).message

/-- The lines of a report: the statuses of all visits, and then what was found. -/
def reportLines (r : Report) : List String :=
  r.visits.map Visit.statusLine ++ r.visits.filterMap fun v => v.findingLine?.map ("issue " ++ ·)

/-- Prints the report of a walk, in words or as JSON. -/
def runWalk (settings : Settings) (survey : Definition) (response : Response) (json : Bool) : Exit :=
  match (walk settings.onError (Cache.new settings.cacheCapacity) survey response).1 with
  | .error e => .failure "" e.message
  | .ok r => .success (printed (if json then [r.toJson.renderIndented 0] else reportLines r))

/-! ## Runs -/

/-- Reads the definition at a path and goes on with it. -/
def withSurvey {m : Type → Type} [Monad m] (read : String → m (Option ByteArray)) (path : String)
    (next : Definition → m Exit) : m Exit := do
  match ← Definition.load read path with
  | .error _ => return .failure "" ("Failed to load survey " ++ path)
  | .ok survey => next survey

/-- Reads the response at a path and goes on with it. -/
def withResponse {m : Type → Type} [Monad m] (read : String → m (Option ByteArray)) (path : String)
    (next : Response → m Exit) : m Exit := do
  match ← Response.load read path with
  | .error _ => return .failure "" ("Failed to load responses " ++ path)
  | .ok response => next response

/-- Runs a command. -/
def runCommand {m : Type → Type} [Monad m] (read : String → m (Option ByteArray)) (settings : Settings)
    (command : Command) : m Exit :=
  match command with
  | .parse condition json => return runParse condition json
  | .eval condition survey responses iteration =>
    withSurvey read survey fun survey => withResponse read responses fun response =>
      return runEval survey response condition iteration
  | .validate survey => withSurvey read survey fun survey => return runValidate survey
  | .walk survey responses json =>
    withSurvey read survey fun survey => withResponse read responses fun response =>
      return runWalk settings survey response json

/-- The variable that names the settings file. -/
def configVariable : String := "SKIPLOGIC_CONFIG"

/-- The name of the file of assignments. -/
def envFileName : String := ".env"

/-- Where the file of assignments may be: in a directory, or else in one of those around it, the nearest
first. -/
def envFilePaths (directory : String) : List String :=
  let parts := directory.splitOn "/"
  (List.range parts.length).map fun n => "/".intercalate (parts.take (parts.length - n) ++ [envFileName])

/-- The first of some files that there is. -/
def readFirst {m : Type → Type} [Monad m] (read : String → m (Option ByteArray)) :
    List String → m (Option ByteArray)
  | [] => return none
  | path :: paths => do
    match ← read path with
    | some file => return some file
    | none => readFirst read paths

/-- Runs the program on its arguments and the variables of its environment; `envFiles` are the paths at which
the file of assignments may be. -/
def run {m : Type → Type} [Monad m] (read : String → m (Option ByteArray)) (envFiles : List String)
    (env : Environment) (args : List String) : m Exit := do
  match env.addFile? ((← readFirst read envFiles).getD .empty) with
  | none => return .aborted
  | some env =>
    match readArguments args with
    | none => return .misuse
    | some .version => return .success versionText
    | some (.help none) => return .success (printed usageLines)
    | some (.help (some name)) => return .success (printed (commandUsage name))
    | some (.run invocation) =>
      let config := invocation.config <|> env.lookup configVariable
      match ← Settings.load read (fun name => env.lookup name) config with
      | .error _ => return .failure "" "Failed to load settings"
      | .ok settings => runCommand read settings invocation.command

end SurveyFlow.CommandLine
