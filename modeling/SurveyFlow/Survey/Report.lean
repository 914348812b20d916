import SurveyFlow.Settings
import SurveyFlow.Survey.Error

/-!
# Surveys: the report of a walk

A walk visits every item of a survey in order. A visit decides whether the item is shown (`Status`) and may
find one fault in the upload (`Finding`). A report is the list of its visits.
-/

namespace SurveyFlow

/-- Whether an item is shown. -/
inductive Status where
  | displayed
  | hidden
  /-- The condition has no value; the policy decided instead. -/
  | undetermined (error : ConditionError) (applied : Policy)
deriving DecidableEq, Repr

namespace Status

/-- The item is shown. -/
def isDisplayed : Status → Bool
  | displayed => true
  | hidden => false
  | undetermined _ applied => applied == .show

/-- The condition had a value, or there was none. -/
def isDetermined : Status → Bool
  | undetermined _ _ => false
  | displayed | hidden => true

def message : Status → String
  | displayed => "displayed"
  | hidden => "hidden"
  | undetermined e applied => s!"undetermined ({e.message}), applied '{applied.name}'"

end Status

/-- What an upload has against the status of an item. -/
inductive Finding where
  | answeredWhileHidden
  | iterationsWhileHidden (count : Nat)
  | markedNotDisplayed
  | missingAnswer
  | skippedNotSkippable
  /-- An answer or a list of iterations that cannot be read. -/
  | invalidValue (reason : SurveyError)
deriving DecidableEq, Repr

def Finding.message : Finding → String
  | answeredWhileHidden => "answered although its condition hides it"
  | iterationsWhileHidden count => s!"uploaded {count} iteration(s) although its condition hides it"
  | markedNotDisplayed => "marked NOT_DISPLAYED although its condition shows it"
  | missingAnswer => "no answer although its condition shows it"
  | skippedNotSkippable => "marked SKIPPED but the prompt is not skippable"
  | invalidValue reason => reason.message

/-- One item at one place of the walk: the iteration is that of the set that the item is in. -/
structure Visit where
  item : String
  iteration : Option Nat
  status : Status
  finding : Option Finding
deriving DecidableEq, Repr

/-- The item with its iteration, if it has one. -/
def Visit.label (v : Visit) : String :=
  match v.iteration with
  | none => v.item
  | some index => s!"{v.item}[{index}]"

/-- The status of the item, in words. -/
def Visit.statusLine (v : Visit) : String :=
  v.label ++ ": " ++ v.status.message

/-- The fault that was found, in words. -/
def Visit.findingLine? (v : Visit) : Option String :=
  v.finding.map fun f => v.label ++ ": " ++ f.message

/-- What a walk found. -/
structure Report where
  survey : String
  visits : List Visit
deriving DecidableEq, Repr

namespace Report

/-- The visits that found a fault. -/
def faults (r : Report) : List (Visit × Finding) :=
  r.visits.filterMap fun v => v.finding.map fun f => (v, f)

/-- The upload agrees with every status. -/
def isConsistent (r : Report) : Bool :=
  r.faults.isEmpty

/-- The status of an item; the first one, should it have been visited more than once. -/
def status? (r : Report) (item : String) (iteration : Option Nat) : Option Status :=
  (r.visits.find? fun v => v.item == item && v.iteration == iteration).map Visit.status

end Report

end SurveyFlow
