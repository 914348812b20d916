import SurveyFlow.Survey.Walk

/-!
# Surveys: the journal of a walk

The outcomes of a walk and the faults that it finds go to two lists, each entry to the end of its list at the
moment at which it comes up. Nothing in the lists themselves ties a fault to an outcome: a set writes its outcome
first, and may then have faults at two places, where its iterations are read and where it turns out to be hidden.
The walk that keeps such a journal (`journalWalk`) goes as `walk` does.
-/

namespace SurveyFlow

/-- What is written down of an item, in an iteration if the item is in a set that is shown. -/
abbrev Entry (α : Type) := String × Option Nat × α

/-- The item and the iteration of an entry. -/
def Entry.place {α : Type} (e : Entry α) : String × Option Nat :=
  (e.1, e.2.1)

/-- The outcomes and the faults of a walk, each in the order in which they came up. -/
structure Journal where
  survey : String
  outcomes : List (Entry Status)
  faults : List (Entry Finding)
deriving DecidableEq, Repr

namespace Journal

/-- A journal in which nothing is written yet. -/
def blank (survey : String) : Journal :=
  ⟨survey, [], []⟩

/-- Writes an outcome. -/
def outcome (j : Journal) (item : String) (iteration : Option Nat) (status : Status) : Journal :=
  { j with outcomes := j.outcomes ++ [(item, iteration, status)] }

/-- Writes a fault. -/
def fault (j : Journal) (item : String) (iteration : Option Nat) (finding : Finding) : Journal :=
  { j with faults := j.faults ++ [(item, iteration, finding)] }

/-- Writes the outcome of a prompt, and then what the upload has against it. Gives the answer that later
conditions see. -/
def settle (j : Journal) (p : Prompt) (status : Status) (upload : Upload) (iteration : Option Nat) :
    Answer × Journal :=
  let j := j.outcome p.id iteration status
  if status.isDisplayed then
    match upload with
    | .nothing => (.notDisplayed, if status.isDetermined then j.fault p.id iteration .missingAnswer else j)
    | .notDisplayed => (.notDisplayed, if status.isDetermined then j.fault p.id iteration .markedNotDisplayed else j)
    | .skipped => (.notDisplayed, if p.skippable then j else j.fault p.id iteration .skippedNotSkippable)
    | .value raw =>
      match p.decodeAnswer raw with
      | .ok answer => (answer, j)
      | .error e => (.notDisplayed, j.fault p.id iteration (.invalidValue e))
  else
    match upload with
    | .value _ => (.notDisplayed, j.fault p.id iteration .answeredWhileHidden)
    | .nothing | .notDisplayed | .skipped => (.notDisplayed, j)

/-- Reads the iterations of a set. Such as cannot be read are a fault and count as none. -/
def readIterations (j : Journal) (set : String) (uploaded : Except SurveyError (List Members)) :
    List Members × Journal :=
  match uploaded with
  | .ok iterations => (iterations, j)
  | .error e => ([], j.fault set none (.invalidValue e))

/-- Passes over the prompts of a set that is hidden. -/
def passOver (j : Journal) (prompts : List Prompt) : Journal :=
  prompts.foldl (fun j p => j.outcome p.id none .hidden) j

end Journal

/-! ## The walk that keeps a journal -/

/-- Visits a prompt in the context `ctx` and records its answer. -/
def journalPrompt (policy : Policy) (p : Prompt) (raw : Option Json) (iteration : Option Nat) (ctx : Context)
    (at_ : Progress) (j : Journal) : Progress × Journal :=
  let (status, cache) := decideStatus policy at_.cache ctx p.condition
  let (answer, j) := j.settle p status (Upload.ofRaw raw) iteration
  (⟨cache, at_.answers.insert p.id answer⟩, j)

/-- Visits prompts of a set in one iteration. -/
def journalPrompts (policy : Policy) (outer : AnswerSet) (index : Nat) (uploaded : Members) :
    Progress → Journal → List Prompt → Progress × Journal
  | at_, j, [] => (at_, j)
  | at_, j, p :: prompts =>
    let ctx := layered at_.answers outer
    let (next, j) := journalPrompt policy p (uploaded.lookup p.id) (some index) ctx at_ j
    journalPrompts policy outer index uploaded next j prompts

/-- Visits the prompts of a set in its iterations, the first of which has the number `index`. -/
def journalIterations (policy : Policy) (outer : AnswerSet) (prompts : List Prompt) :
    Nat → Cache → Journal → List Members → Cache × Journal
  | _, cache, j, [] => (cache, j)
  | index, cache, j, uploaded :: more =>
    let (last, j) := journalPrompts policy outer index uploaded ⟨cache, .empty⟩ j prompts
    journalIterations policy outer prompts (index + 1) last.cache j more

/-- Visits a set, and its prompts: in each iteration if the set is shown, and otherwise once, as hidden. -/
def journalSet (policy : Policy) (s : RepeatableSet) (response : Response) (at_ : Progress) (j : Journal) :
    Cache × Journal :=
  let (status, cache) := decideStatus policy at_.cache at_.answers.resolve s.condition
  let j := j.outcome s.id none status
  let (iterations, j) := j.readIterations s.id (response.iterations s.id)
  if status.isDisplayed then
    journalIterations policy at_.answers s.prompts 0 cache j iterations
  else
    let j := if iterations.isEmpty then j else j.fault s.id none (.iterationsWhileHidden iterations.length)
    (cache, j.passOver s.prompts)

/-- Visits an item. Only a prompt at the top level leaves an answer. -/
def journalItem (policy : Policy) (response : Response) (at_ : Progress) (j : Journal) :
    Item → Progress × Journal
  | .prompt p => journalPrompt policy p (response.raw? p.id) none at_.answers.resolve at_ j
  | .set s =>
    let (cache, j) := journalSet policy s response at_ j
    ({ at_ with cache }, j)

/-- Visits items in order. -/
def journalItems (policy : Policy) (response : Response) : Progress → Journal → List Item → Progress × Journal
  | at_, j, [] => (at_, j)
  | at_, j, item :: items =>
    let (next, j) := journalItem policy response at_ j item
    journalItems policy response next j items

/-- Walks through a response, which must belong to the survey, with a journal. -/
def journalWalk (policy : Policy) (cache : Cache) (survey : Definition) (response : Response) :
    Except SurveyError Journal × Cache :=
  if survey.id = response.survey then
    let (last, j) := journalItems policy response ⟨cache, .empty⟩ (.blank survey.id) survey.items
    (.ok j, last.cache)
  else (.error (.mismatch survey.id response.survey), cache)

end SurveyFlow
