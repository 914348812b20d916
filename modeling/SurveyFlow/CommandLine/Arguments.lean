/-!
# Command line: arguments

The program has four commands. Options may stand before and behind the other arguments of a command, with
their values attached (`--survey=s.yaml`, `-ss.yaml`) or as the next argument, which then must not look like
an option. Behind `--` every argument is positional. The settings file may be named before the command and
behind it; the latter counts.
-/

namespace SurveyFlow.CommandLine

/-- What the program is asked to do. -/
inductive Command where
  | parse (condition : String) (json : Bool)
  | eval (condition survey responses : String) (iteration : Option String)
  | validate (survey : String)
  | walk (survey responses : String) (json : Bool)
deriving DecidableEq, Repr

/-- A command, and the settings file that the arguments name. -/
structure Invocation where
  config : Option String
  command : Command
deriving DecidableEq, Repr

/-- What the arguments ask for. -/
inductive Request where
  | run (invocation : Invocation)
  /-- How to use the program, or the command of that name. -/
  | help (command : Option String)
  | version
deriving DecidableEq, Repr

/-! ## Options -/

/-- The options of all commands. -/
inductive Switch where
  | config
  | survey
  | responses
  | iteration
  | json
  | help
  | version
deriving DecidableEq, Repr

namespace Switch

/-- The name behind two hyphens. -/
def long : Switch → String
  | config => "config"
  | survey => "survey"
  | responses => "responses"
  | iteration => "iteration"
  | json => "json"
  | help => "help"
  | version => "version"

/-- The letter behind one hyphen. -/
def short? : Switch → Option Char
  | config => some 'c'
  | survey => some 's'
  | responses => some 'r'
  | help => some 'h'
  | version => some 'V'
  | iteration | json => none

/-- The option has a value. -/
def takesValue : Switch → Bool
  | config | survey | responses | iteration => true
  | json | help | version => false

/-- The value is a path, and no path is empty. -/
def isPath : Switch → Bool
  | config | survey | responses => true
  | iteration | json | help | version => false

end Switch

/-- What may stand behind the program's name, or behind that of a command. -/
structure Level where
  switches : List Switch
  /-- There is one positional argument. -/
  positional : Bool

/-- The level of the program itself. A word behind its options is a command. -/
def topLevel : Level :=
  ⟨[.config, .help, .version], false⟩

/-- The commands by name. -/
def commandLevels : List (String × Level) :=
  [("parse", ⟨[.json, .config, .help], true⟩),
   ("eval", ⟨[.survey, .responses, .iteration, .config, .help], true⟩),
   ("validate", ⟨[.survey, .config, .help], false⟩),
   ("walk", ⟨[.survey, .responses, .json, .config, .help], false⟩)]

/-! ## Reading one level -/

/-- The options and the positional argument that have been read. -/
structure Given where
  values : List (Switch × String)
  positional : Option String

/-- Why the reading of arguments ends before its time. -/
inductive Stop where
  | misuse
  | help
  | version

/-- An argument that cannot be the value of the option before it. -/
def looksLikeSwitch (arg : String) : Bool :=
  match arg.toList with
  | '-' :: _ :: _ => true
  | _ => false

/-- Notes an option. One that is given twice, and an empty path, are misuse; help and the version are all
that is asked for. -/
def Given.note (g : Given) (s : Switch) (value : String) : Except Stop Given :=
  match s with
  | .help => .error .help
  | .version => .error .version
  | _ =>
    if (g.values.lookup s).isSome || (s.isPath && value.isEmpty) then .error .misuse
    else .ok { g with values := (s, value) :: g.values }

/-- Notes a positional argument. -/
def Given.place (g : Given) (level : Level) (arg : String) : Except Stop Given :=
  if level.positional && g.positional.isNone then .ok { g with positional := some arg }
  else .error .misuse

/-- Reads the letters behind one hyphen, up to an option with a value. The value is what is left of the
argument; if nothing is left, the option waits for the next argument. -/
def readLetters (level : Level) (g : Given) : List Char → Except Stop (Given × Option Switch)
  | [] => .ok (g, none)
  | c :: rest =>
    match level.switches.find? fun s => s.short? == some c with
    | none => .error .misuse
    | some s =>
      if s.takesValue then
        match rest with
        | [] => .ok (g, some s)
        | '=' :: value => (g.note s (String.ofList value)).map (·, none)
        | value => (g.note s (String.ofList value)).map (·, none)
      else do readLetters level (← g.note s "") rest

/-- Reads the name behind two hyphens, with a value if an equals sign follows it. -/
def readName (level : Level) (g : Given) (body : List Char) : Except Stop (Given × Option Switch) :=
  let name := String.ofList (body.takeWhile (· ≠ '='))
  match level.switches.find? fun s => s.long == name, body.dropWhile (· ≠ '=') with
  | none, _ => .error .misuse
  | some s, '=' :: value =>
    if s.takesValue then (g.note s (String.ofList value)).map (·, none) else .error .misuse
  | some s, _ => if s.takesValue then .ok (g, some s) else (g.note s "").map (·, none)

/-- Reads an option, one with two hyphens or letters behind one. -/
def readSwitch (level : Level) (g : Given) (arg : String) : Except Stop (Given × Option Switch) :=
  match arg.toList with
  | '-' :: '-' :: body => readName level g body
  | '-' :: letters => readLetters level g letters
  | _ => .ok (g, none)

/-- Reads the arguments of a level up to a word that is neither an option nor a positional argument of the
level; gives that word with what is behind it. -/
def readLevel (level : Level) (g : Given) : List String → Except Stop (Given × List String)
  | [] => .ok (g, [])
  | arg :: rest =>
    if arg = "--" then do return (← rest.foldlM (fun g arg => g.place level arg) g, [])
    else if looksLikeSwitch arg then
      match readSwitch level g arg, rest with
      | .error stop, _ => .error stop
      | .ok (g, none), rest => readLevel level g rest
      | .ok (_, some _), [] => .error .misuse
      | .ok (g, some s), value :: rest =>
        if looksLikeSwitch value then .error .misuse
        else do readLevel level (← g.note s value) rest
    else if level.positional then do readLevel level (← g.place level arg) rest
    else .ok (g, arg :: rest)

/-! ## Reading all arguments -/

/-- The command of a name with what was given to it, if nothing is missing. -/
def commandOf? (name : String) (g : Given) : Option Command :=
  let value := fun s => g.values.lookup s
  let json := (value .json).isSome
  match name with
  | "parse" => g.positional.map fun condition => .parse condition json
  | "eval" => do
    return .eval (← g.positional) (← value .survey) (← value .responses) (value .iteration)
  | "validate" => (value .survey).map .validate
  | "walk" => do return .walk (← value .survey) (← value .responses) json
  | _ => none

/-- Reads what is behind the word `help`. -/
def readHelp : List String → Option Request
  | [] => some (.help none)
  | [name] => if name = "help" ∨ (commandLevels.lookup name).isSome then some (.help (some name)) else none
  | _ => none

/-- Reads the arguments of the program; nothing if they are not what it takes. -/
def readArguments (args : List String) : Option Request :=
  match readLevel topLevel ⟨[], none⟩ args with
  | .error .misuse => none
  | .error .help => some (.help none)
  | .error .version => some .version
  | .ok (_, []) => none
  | .ok (top, name :: rest) =>
    if name = "help" then readHelp rest
    else
      match commandLevels.lookup name with
      | none => none
      | some level =>
        match readLevel level ⟨[], none⟩ rest with
        | .error .misuse => none
        | .error .help | .error .version => some (.help (some name))
        | .ok (_, _ :: _) => none
        | .ok (given, []) =>
          (commandOf? name given).map fun command =>
            .run ⟨given.values.lookup .config <|> top.values.lookup .config, command⟩

end SurveyFlow.CommandLine
