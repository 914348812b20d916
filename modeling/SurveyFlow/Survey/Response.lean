import SurveyFlow.Data
import SurveyFlow.Number.Decimal
import SurveyFlow.Survey.Error
import SurveyFlow.Text.CharClass

/-!
# Surveys: uploaded responses

A response holds raw answers by id: JSON values for prompts, and for a repeatable set a list of objects, one
for each iteration. An answer that is absent, null or one of the two sentinels is no answer. Any other is
read by the type of its prompt (`Prompt.decode`).
-/

namespace SurveyFlow

/-- The raw answers of one participant to one survey. -/
structure Response where
  survey : String
  answers : Members

/-- The sentinel of a prompt that was not shown. -/
def notDisplayedMark : String := "NOT_DISPLAYED"

/-- The sentinel of a prompt that the participant skipped. -/
def skippedMark : String := "SKIPPED"

/-- The text stands for the lack of an answer. -/
def isSentinel (text : String) : Bool :=
  text == notDisplayedMark || text == skippedMark

/-- What was uploaded for an id. -/
inductive Upload where
  /-- The answer is absent or null. -/
  | nothing
  /-- The sentinel of a prompt that was not shown. -/
  | notDisplayed
  /-- The sentinel of a prompt that was skipped. -/
  | skipped
  | value (raw : Json)

/-- Tells an answer from the lack of one. -/
def Upload.ofRaw : Option Json → Upload
  | none | some .null => .nothing
  | some (.string text) =>
    if text = notDisplayedMark then .notDisplayed
    else if text = skippedMark then .skipped
    else .value (.string text)
  | some raw => .value raw

namespace Response

/-- The raw answer to a prompt or a set. -/
def raw? (r : Response) (id : String) : Option Json :=
  r.answers.lookup id

end Response

/-- The members of an object. -/
def Json.asObject? : Json → Option Members
  | object members => some members
  | _ => none

/-- The iterations of a repeatable set among raw answers, none if there is no answer. -/
def iterationsIn (answers : Members) (set : String) : Except SurveyError (List Members) :=
  match Upload.ofRaw (answers.lookup set) with
  | .nothing | .notDisplayed | .skipped => .ok []
  | .value (.array items) =>
    match items.mapM Json.asObject? with
    | some iterations => .ok iterations
    | none => .error (.malformedIterations set)
  | .value _ => .error (.malformedIterations set)

/-- The iterations of a repeatable set. -/
def Response.iterations (r : Response) (set : String) : Except SurveyError (List Members) :=
  iterationsIn r.answers set

/-- The value of a raw answer as an answer of the given type. A number may be given as text, and the key of
a choice as an integer. -/
def decodeValue? (type : PromptType) (raw : Json) : Option TypedValue :=
  match type, raw with
  | .number, .number n => some n.toDouble |>.filter Double.isFinite |>.map .number
  | .number, .string s => (finiteDouble? (trimBlanks s)).map .number
  | .text, .string s => some (.text s)
  | .singleChoice, .string s => some (.choice s)
  | .singleChoice, .number (.integer n) => some (.choice (toString n))
  | .boolean, .bool b => some (.boolean b)
  | .boolean, .string "true" => some (.boolean true)
  | .boolean, .string "false" => some (.boolean false)
  | _, _ => none

/-- Reads an answer to a prompt. -/
def Prompt.decodeAnswer (p : Prompt) (raw : Json) : Except SurveyError Answer :=
  match decodeValue? p.type raw with
  | some value => .ok (.given value)
  | none => .error (.invalidAnswer p.id p.type)

/-- Reads what was uploaded for a prompt. The lack of an answer counts as a prompt that was not shown. -/
def Prompt.decode (p : Prompt) (raw : Option Json) : Except SurveyError Answer :=
  match Upload.ofRaw raw with
  | .nothing | .notDisplayed | .skipped => .ok .notDisplayed
  | .value raw => p.decodeAnswer raw

end SurveyFlow
