import SurveyFlow.Condition.AnswerSet
import SurveyFlow.Condition.Cache
import SurveyFlow.Survey.Report
import SurveyFlow.Survey.Response

/-!
# Surveys: walking through an upload

A walk replays a response in the order of the survey. It decides for each item whether it was to be shown,
from the answers to the items before it, and holds the upload against that. The answer to a prompt that is
not shown counts for nothing, whatever was uploaded: later conditions see a prompt that was not displayed.

The answers at the top level make up one answer set. Each iteration of a repeatable set has an answer set of
its own, which is asked first, and leaves the one at the top level as it is.
-/

namespace SurveyFlow

/-! ## Deciding a condition -/

/-- The answers of an iteration, and behind them those at the top level. -/
def layered (inner outer : AnswerSet) : Context := fun identifier =>
  match inner.get? identifier with
  | some answer => .ok (.known answer)
  | none => outer.resolve identifier

/-- The status of an item whose condition has the given value, or none. -/
def Status.ofValue (policy : Policy) : Except ConditionError Bool → Status
  | .ok true => .displayed
  | .ok false => .hidden
  | .error e => .undetermined e policy

/-- Decides whether an item is shown. The condition is read through the cache. -/
def decideStatus (policy : Policy) (cache : Cache) (ctx : Context) (condition : Option String) :
    Status × Cache :=
  match condition with
  | none => (.displayed, cache)
  | some text =>
    let (parsed, cache) := cache.get text
    let value : Except ConditionError Bool := match parsed with
      | .error e => .error e
      | .ok p => (p.sentence.evaluate ctx).result.mapError .evaluation
    (Status.ofValue policy value, cache)

/-! ## Holding an answer against a status -/

/-- What an upload has against the status of a prompt, and the answer that later conditions see. A status
that the policy chose is not held against a prompt without an answer. -/
def settle (p : Prompt) (status : Status) (upload : Upload) : Option Finding × Answer :=
  match status.isDisplayed, upload with
  | false, .value _ => (some .answeredWhileHidden, .notDisplayed)
  | false, _ => (none, .notDisplayed)
  | true, .nothing => (if status.isDetermined then some .missingAnswer else none, .notDisplayed)
  | true, .notDisplayed => (if status.isDetermined then some .markedNotDisplayed else none, .notDisplayed)
  | true, .skipped => (if p.skippable then none else some .skippedNotSkippable, .notDisplayed)
  | true, .value raw =>
    match p.decodeAnswer raw with
    | .ok answer => (none, answer)
    | .error e => (some (.invalidValue e), .notDisplayed)

/-! ## Visiting items -/

/-- Where a walk stands: the cache, and the answers of the prompts that have been visited. -/
structure Progress where
  cache : Cache
  answers : AnswerSet

/-- Visits a prompt in the context `ctx` and records its answer. -/
def visitPrompt (policy : Policy) (p : Prompt) (raw : Option Json) (iteration : Option Nat) (ctx : Context)
    (at_ : Progress) : Visit × Progress :=
  let (status, cache) := decideStatus policy at_.cache ctx p.condition
  let (finding, answer) := settle p status (Upload.ofRaw raw)
  (⟨p.id, iteration, status, finding⟩, ⟨cache, at_.answers.insert p.id answer⟩)

/-- Visits prompts of a set in the iteration of the given number, which has the raw answers `uploaded`. The
answers of the iteration are recorded in its own set, over those at the top level. -/
def visitPrompts (policy : Policy) (outer : AnswerSet) (index : Nat) (uploaded : Members) :
    Progress → List Prompt → List Visit × Progress
  | at_, [] => ([], at_)
  | at_, p :: prompts =>
    let ctx := layered at_.answers outer
    let (visit, next) := visitPrompt policy p (uploaded.lookup p.id) (some index) ctx at_
    let (visits, last) := visitPrompts policy outer index uploaded next prompts
    (visit :: visits, last)

/-- Visits the prompts of a set in its iterations, the first of which has the number `index`. -/
def visitIterations (policy : Policy) (outer : AnswerSet) (prompts : List Prompt) :
    Nat → Cache → List Members → List Visit × Cache
  | _, cache, [] => ([], cache)
  | index, cache, uploaded :: more =>
    let (visits, last) := visitPrompts policy outer index uploaded ⟨cache, .empty⟩ prompts
    let (others, cache) := visitIterations policy outer prompts (index + 1) last.cache more
    (visits ++ others, cache)

/-- What an upload has against the status of a set, with its iterations. Iterations that cannot be read
count as none. -/
def settleSet (status : Status) (uploaded : Except SurveyError (List Members)) :
    Option Finding × List Members :=
  match uploaded with
  | .error e => (some (.invalidValue e), [])
  | .ok iterations =>
    if !status.isDisplayed && !iterations.isEmpty then
      (some (.iterationsWhileHidden iterations.length), iterations)
    else (none, iterations)

/-- Visits a set, and its prompts: in each iteration if the set is shown, and otherwise once, as hidden. -/
def visitSet (policy : Policy) (s : RepeatableSet) (response : Response) (at_ : Progress) :
    List Visit × Cache :=
  let (status, cache) := decideStatus policy at_.cache at_.answers.resolve s.condition
  let (finding, iterations) := settleSet status (response.iterations s.id)
  let visit : Visit := ⟨s.id, none, status, finding⟩
  if status.isDisplayed then
    let (visits, cache) := visitIterations policy at_.answers s.prompts 0 cache iterations
    (visit :: visits, cache)
  else (visit :: s.prompts.map fun p => ⟨p.id, none, .hidden, none⟩, cache)

/-- Visits an item. Only a prompt at the top level leaves an answer. -/
def visitItem (policy : Policy) (response : Response) (at_ : Progress) : Item → List Visit × Progress
  | .prompt p =>
    let (visit, next) := visitPrompt policy p (response.raw? p.id) none at_.answers.resolve at_
    ([visit], next)
  | .set s =>
    let (visits, cache) := visitSet policy s response at_
    (visits, { at_ with cache })

/-- Visits items in order. -/
def visitItems (policy : Policy) (response : Response) : Progress → List Item → List Visit × Progress
  | at_, [] => ([], at_)
  | at_, item :: items =>
    let (visits, next) := visitItem policy response at_ item
    let (others, last) := visitItems policy response next items
    (visits ++ others, last)

/-- Walks through a response, which must belong to the survey, and gives the cache as it is afterwards. -/
def walk (policy : Policy) (cache : Cache) (survey : Definition) (response : Response) :
    Except SurveyError Report × Cache :=
  if survey.id = response.survey then
    let (visits, last) := visitItems policy response ⟨cache, .empty⟩ survey.items
    (.ok ⟨survey.id, visits⟩, last.cache)
  else (.error (.mismatch survey.id response.survey), cache)

end SurveyFlow
