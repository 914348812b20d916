import SurveyFlow.Condition.Evaluation
import SurveyFlow.Failure
import SurveyFlow.Survey.Response

/-!
# Surveys: conditions on an uploaded response

A scope is the survey with one response, or one iteration of a repeatable set in it. An identifier stands
for the answer to the prompt of that name: inside an iteration first among the prompts of the set, with the
iteration's own answers, and then among the prompts at the top level. Entering another iteration leaves
the one before.
-/

namespace SurveyFlow

/-- Where conditions on an uploaded response are evaluated. -/
structure UploadScope where
  survey : Definition
  answers : Members
  /-- The set and the answers of the iteration that has been entered. -/
  iteration : Option (RepeatableSet × Members)

namespace UploadScope

/-- The scope of a whole response, which must belong to the survey. -/
def new (survey : Definition) (response : Response) : Except SurveyError UploadScope :=
  if survey.id = response.survey then .ok ⟨survey, response.answers, none⟩
  else .error (.mismatch survey.id response.survey)

/-- Enters an iteration of a repeatable set. -/
def enter (scope : UploadScope) (set : String) (index : Nat) : Except SurveyError UploadScope := do
  let some found := scope.survey.set? set | throw (.notARepeatableSet set)
  let iterations ← iterationsIn scope.answers set
  let some answers := iterations[index]? | throw (.iterationOutOfRange set index)
  return { scope with iteration := some (found, answers) }

/-- The prompt that an identifier names, and its raw answer. -/
def find? (scope : UploadScope) (identifier : String) : Option (Prompt × Option Json) :=
  let inner := scope.iteration.bind fun (set, answers) =>
    (set.prompt? identifier).map fun p => (p, answers.lookup identifier)
  inner <|> (scope.survey.prompt? identifier).map fun p => (p, scope.answers.lookup identifier)

/-- What an identifier stands for; an answer that cannot be read is an error. -/
def resolve (scope : UploadScope) (identifier : String) : Except SurveyError Resolution :=
  match scope.find? identifier with
  | none => .ok .unknown
  | some (prompt, raw) => (prompt.decode raw).map .known

/-- The scope as a context. -/
def context (scope : UploadScope) : Context := fun identifier =>
  (scope.resolve identifier).mapError SurveyError.message

end UploadScope

/-- Evaluates condition text on a response, or on one iteration of a repeatable set in it. -/
def evaluateResponse (survey : Definition) (response : Response) (iteration : Option (String × Nat))
    (condition : String) : Except Failure Bool := do
  let sentence ← (parseCondition condition).mapError .condition
  let whole ← (UploadScope.new survey response).mapError .survey
  let scope ← match iteration with
    | none => pure whole
    | some (set, index) => (whole.enter set index).mapError .survey
  ((sentence.evaluate scope.context).result.mapError .evaluation).mapError .condition

end SurveyFlow
