import SurveyFlow.Survey.Definition

/-!
# Surveys: what can go wrong

The errors of uploaded responses and of definitions, by their cause. The wording is in `message`.
-/

namespace SurveyFlow

/-- What an answer to a prompt of a type must be. -/
def PromptType.expectation : PromptType → String
  | number => "expected a number"
  | text => "expected a string"
  | singleChoice => "expected a choice key"
  | boolean => "expected true or false"

/-- Errors of surveys and responses. -/
inductive SurveyError where
  /-- The response belongs to another survey. -/
  | mismatch (expected found : String)
  /-- An answer is no answer to a prompt of its type. -/
  | invalidAnswer (prompt : String) (type : PromptType)
  | notARepeatableSet (id : String)
  | iterationOutOfRange (set : String) (index : Nat)
  /-- The answers to a repeatable set are no list of objects. -/
  | malformedIterations (set : String)
  /-- The definition has issues. -/
  | invalidDefinition (survey : String) (issues : Nat)
deriving DecidableEq, Repr

def SurveyError.message : SurveyError → String
  | mismatch expected found => s!"Response belongs to survey '{found}', expected '{expected}'"
  | invalidAnswer prompt type => s!"Invalid response for prompt '{prompt}': {type.expectation}"
  | notARepeatableSet id => s!"'{id}' is not a repeatable set"
  | iterationOutOfRange set index => s!"Repeatable set '{set}' has no iteration {index}"
  | malformedIterations set => s!"Malformed iterations for repeatable set '{set}'"
  | invalidDefinition survey issues => s!"Survey '{survey}' failed validation with {issues} issue(s)"

end SurveyFlow
