import SurveyFlow.Condition.Error
import SurveyFlow.Survey.Error

/-!
# Failures

Everything that can keep the library from doing what it was asked for. Failures of conditions, surveys and
settings have a wording; a file that cannot be read and a text that is not what it should be have none.
-/

namespace SurveyFlow

/-- What is wrong with a setting. -/
inductive ConfigError where
  /-- Neither policy has this name. -/
  | unknownPolicy (name : String)
  /-- The text of the variable of this name is no natural number below `2 ^ 64`. -/
  | badCapacity (name text : String)
deriving DecidableEq, Repr

def ConfigError.message : ConfigError → String
  | unknownPolicy name => s!"invalid error policy '{name}', expected 'show' or 'hide'"
  | badCapacity name text => s!"{name} must be a non-negative integer, got '{text}'"

/-- A failure of the library. -/
inductive Failure where
  | condition (error : ConditionError)
  | survey (error : SurveyError)
  | configuration (error : ConfigError)
  /-- A file that is not there or is no text. -/
  | unreadable
  /-- A text that is no JSON, or not that of a response. -/
  | malformedJson
  /-- A text that is no YAML, or not that of the record asked for. -/
  | malformedYaml
deriving DecidableEq, Repr

/-- The wording of a failure that has one. -/
def Failure.message? : Failure → Option String
  | condition e => some ("Condition error: " ++ e.message)
  | survey e => some ("Survey error: " ++ e.message)
  | configuration e => some ("Configuration error: " ++ e.message)
  | unreadable | malformedJson | malformedYaml => none

end SurveyFlow
