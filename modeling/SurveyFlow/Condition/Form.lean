import SurveyFlow.Condition.Sentence
import SurveyFlow.Json.Basic

/-!
# Conditions: sentences as JSON

A sentence is an object with its first clause under `expression` or `inner`, told apart by `kind`, and the
rest of its chain under `tail`, which is null at the end of the chain.
-/

namespace SurveyFlow

/-- The name of a comparator in JSON. -/
def Comparator.name : Comparator → String
  | .eq => "eq"
  | .notEq => "not_eq"
  | .lt => "lt"
  | .gt => "gt"
  | .lte => "lte"
  | .gte => "gte"

/-- A comparison as JSON. -/
def Expression.toJson (e : Expression) : Json :=
  .object [("identifier", .string e.identifier), ("comparator", .string e.comparator.name),
    ("literal", .string e.literal)]

/-- A sentence as JSON. -/
def Sentence.toJson : Sentence → Json
  | simple e => .object [("kind", .string "simple"), ("expression", e.toJson), ("tail", .null)]
  | grouped s => .object [("kind", .string "grouped"), ("inner", s.toJson), ("tail", .null)]
  | simpleThen e c rest =>
    .object [("kind", .string "simple"), ("expression", e.toJson),
      ("tail", .object [("conjunction", .string c.word), ("rest", rest.toJson)])]
  | groupedThen s c rest =>
    .object [("kind", .string "grouped"), ("inner", s.toJson),
      ("tail", .object [("conjunction", .string c.word), ("rest", rest.toJson)])]

end SurveyFlow
