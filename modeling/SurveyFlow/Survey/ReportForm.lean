import SurveyFlow.Json.Basic
import SurveyFlow.Survey.Report
import SurveyFlow.Survey.Validation

/-!
# Surveys: reports and issues as JSON

The kind of a status, of a finding and of an issue is told by its tag, which comes first. Errors are given
by their wording.
-/

namespace SurveyFlow

/-- A status as JSON. -/
def Status.toJson : Status → Json
  | displayed => .object [("status", .string "displayed")]
  | hidden => .object [("status", .string "hidden")]
  | undetermined e applied =>
    .object [("status", .string "undetermined"), ("error", .string e.message), ("applied", .string applied.name)]

/-- A finding as JSON. -/
def Finding.toJson : Finding → Json
  | answeredWhileHidden => .object [("issue", .string "answered_while_hidden")]
  | iterationsWhileHidden count =>
    .object [("issue", .string "iterations_while_hidden"), ("count", .ofNat count)]
  | markedNotDisplayed => .object [("issue", .string "marked_not_displayed")]
  | missingAnswer => .object [("issue", .string "missing_answer")]
  | skippedNotSkippable => .object [("issue", .string "skipped_not_skippable")]
  | invalidValue reason => .object [("issue", .string "invalid_value"), ("reason", .string reason.message)]

/-- The place of a visit as JSON. -/
def Visit.placeMembers (v : Visit) : Members :=
  [("item_id", .string v.item), ("iteration", (v.iteration.map Json.ofNat).getD .null)]

/-- A report as JSON: the statuses of all visits, and then what was found. -/
def Report.toJson (r : Report) : Json :=
  .object [("survey_id", .string r.survey),
    ("outcomes", .array (r.visits.map fun v => .object (v.placeMembers ++ [("status", v.status.toJson)]))),
    ("issues", .array (r.faults.map fun (v, f) => .object (v.placeMembers ++ [("kind", f.toJson)])))]

/-- An object with the tag of an issue and its fields. -/
def IssueKind.tagged (tag : String) (fields : List (String × String)) : Json :=
  .object (("issue", .string tag) :: fields.map fun (key, text) => (key, .string text))

/-- The kind of an issue as JSON. -/
def IssueKind.toJson : IssueKind → Json
  | duplicateId => tagged "duplicate_id" []
  | unparsable e => tagged "unparsable" [("message", e.message)]
  | unknownReference i => tagged "unknown_reference" [("identifier", i)]
  | forwardReference i => tagged "forward_reference" [("identifier", i)]
  | outsideRepeatableSet i => tagged "outside_repeatable_set" [("identifier", i)]
  | notAPrompt i => tagged "not_a_prompt" [("identifier", i)]
  | invalidComparison i c => tagged "invalid_comparison" [("identifier", i), ("comparator", c.symbol)]
  | literalTypeMismatch i l => tagged "literal_type_mismatch" [("identifier", i), ("literal", l)]
  | unknownChoice i l => tagged "unknown_choice" [("identifier", i), ("literal", l)]

/-- An issue as JSON. -/
def Issue.toJson (issue : Issue) : Json :=
  .object [("item_id", .string issue.item), ("kind", issue.kind.toJson)]

end SurveyFlow
