import SurveyFlow.Settings
import SurveyFlow.Survey.Form

/-!
# Reading from files

Definitions, responses and settings are read from files. How a file is found is left to the caller: `read`
gives the bytes of the file at a path, or nothing if there is none.
-/

namespace SurveyFlow

/-- Reads the file at a path by `ofText?`; a text that it refuses is the failure `malformed`, and a file that
holds no text is as good as none. -/
def readFileAs {m : Type → Type} [Monad m] {α : Type} (read : String → m (Option ByteArray))
    (ofText? : String → Option α) (malformed : Failure) (path : String) : m (Except Failure α) := do
  match (← read path).bind String.fromUTF8? with
  | none => return .error .unreadable
  | some text =>
    match ofText? text with
    | none => return .error malformed
    | some value => return .ok value

/-- Reads a definition from a YAML file. -/
def Definition.load {m : Type → Type} [Monad m] (read : String → m (Option ByteArray)) (path : String) :
    m (Except Failure Definition) :=
  readFileAs read Definition.ofYaml? .malformedYaml path

/-- Reads a response from a JSON file. -/
def Response.load {m : Type → Type} [Monad m] (read : String → m (Option ByteArray)) (path : String) :
    m (Except Failure Response) :=
  readFileAs read Response.ofText? .malformedJson path

/-- Reads settings from a YAML file, if there is a path, and overrides them from variables. -/
def Settings.load {m : Type → Type} [Monad m] (read : String → m (Option ByteArray))
    (lookup : String → Option String) (path : Option String) : m (Except Failure Settings) := do
  let fromFile ← match path with
    | none => pure (.ok Settings.default)
    | some path => readFileAs read Settings.ofYaml? .malformedYaml path
  match fromFile with
  | .error e => return .error e
  | .ok settings =>
    match settings.override lookup with
    | (_, some e) => return .error (.configuration e)
    | (settings, none) => return .ok settings

end SurveyFlow
