import SurveyFlow.Json.Reader
import SurveyFlow.Survey.Response
import SurveyFlow.Yaml.Meaning

/-!
# Surveys: definitions and responses as JSON and YAML

A definition is written as JSON with all its fields; items are told apart by `kind`, and the prompts of a
set have none. It is read from data (`Definition.ofData?`), in which optional fields may be missing, and so
from JSON and from YAML text. In YAML the survey's own id and title are texts however they are written, and
what is inside the items has the type that it looks like.
-/

namespace SurveyFlow

/-! ## Writing -/

/-- The types of prompts by name. -/
def promptTypes : List (String × PromptType) :=
  [("number", .number), ("text", .text), ("single_choice", .singleChoice), ("boolean", .boolean)]

/-- The name of a type of prompts. -/
def PromptType.name (type : PromptType) : String :=
  type.valueType.name

/-- A choice as JSON. -/
def Choice.toJson (c : Choice) : Json :=
  .object [("key", .string c.key), ("label", .string c.label)]

/-- The fields of a prompt as JSON. -/
def Prompt.toMembers (p : Prompt) : Members :=
  [("id", .string p.id), ("type", .string p.type.name), ("condition", Json.ofOption p.condition),
    ("skippable", .bool p.skippable), ("choices", .array (p.choices.map Choice.toJson))]

/-- A prompt as JSON. -/
def Prompt.toJson (p : Prompt) : Json :=
  .object p.toMembers

/-- The fields of a set as JSON. -/
def RepeatableSet.toMembers (s : RepeatableSet) : Members :=
  [("id", .string s.id), ("condition", Json.ofOption s.condition), ("prompts", .array (s.prompts.map Prompt.toJson))]

/-- A set as JSON. -/
def RepeatableSet.toJson (s : RepeatableSet) : Json :=
  .object s.toMembers

/-- The kinds of items. -/
def promptKind : String := "prompt"

/-- The kind of an item that is a set. -/
def setKind : String := "repeatable_set"

/-- An item as JSON, its kind first. -/
def Item.toJson : Item → Json
  | prompt p => .object (("kind", .string promptKind) :: p.toMembers)
  | set s => .object (("kind", .string setKind) :: s.toMembers)

/-- A definition as JSON. -/
def Definition.toJson (d : Definition) : Json :=
  .object [("id", .string d.id), ("title", Json.ofOption d.title), ("items", .array (d.items.map Item.toJson))]

/-- A response as JSON. -/
def Response.toJson (r : Response) : Json :=
  .object [("survey_id", .string r.survey), ("responses", .object r.answers)]

/-! ## Reading items -/

/-- Reads the type of a prompt. In an item an empty map counts as nothing. -/
def PromptType.ofData? (inItem : Bool) (d : Data) : Option PromptType := do
  promptTypes.lookup (← d.asName? (promptTypes.map Prod.fst) fun value => inItem && value.isEmptyMap)

/-- Reads a choice. -/
def Choice.ofData? (d : Data) : Option Choice := do
  let fields ← d.fields? ["key", "label"]
  return { key := ← (← fields.lookup "key").asText?, label := ← (← fields.lookup "label").asText? }

/-- Reads a prompt, which is an item or in one, or stands alone. -/
def Prompt.ofData? (inItem : Bool) (d : Data) : Option Prompt := do
  let fields ← d.fields? ["id", "type", "condition", "skippable", "choices"]
  let skippable ← match fields.lookup "skippable" with
    | none => pure false
    | some d => d.asBool?
  let choices ← match fields.lookup "choices" with
    | none => pure []
    | some d => (← d.asList?).mapM Choice.ofData?
  return {
    id := ← (← fields.lookup "id").asText?
    type := ← PromptType.ofData? inItem (← fields.lookup "type")
    condition := ← Data.asOptionalText? (fields.lookup "condition")
    skippable
    choices }

/-- Reads a set. -/
def RepeatableSet.ofData? (d : Data) : Option RepeatableSet := do
  let fields ← d.fields? ["id", "condition", "prompts"]
  return {
    id := ← (← fields.lookup "id").asText?
    condition := ← Data.asOptionalText? (fields.lookup "condition")
    prompts := ← (← (← fields.lookup "prompts").asList?).mapM (Prompt.ofData? true) }

/-- The key is the text `kind`. -/
def isKindKey : Data → Bool
  | .text name => name == "kind"
  | _ => false

/-- The kind of an item, and the record without it. A map names its kind once; a list begins with it. -/
def splitKind? : Data → Option (Data × Data)
  | .list (kind :: fields) => some (kind, .list fields)
  | .map entries =>
    match entries.partition fun e => isKindKey e.1 with
    | ([(_, kind)], others) => some (kind, .map others)
    | _ => none
  | _ => none

/-- Reads an item. -/
def Item.ofData? (d : Data) : Option Item := do
  let (kind, record) ← splitKind? d
  let name ← kind.asText?
  if name = promptKind then (Prompt.ofData? true record).map .prompt
  else if name = setKind then (RepeatableSet.ofData? record).map .set
  else none

/-! ## Reading definitions -/

/-- The fields of a definition, in order. -/
def Definition.fieldNames : List String := ["id", "title", "items"]

/-- Reads a definition from data. -/
def Definition.ofData? (d : Data) : Option Definition := do
  let fields ← d.fields? fieldNames
  return {
    id := ← (← fields.lookup "id").asText?
    title := ← Data.asOptionalText? (fields.lookup "title")
    items := ← (← (← fields.lookup "items").asList?).mapM Item.ofData? }

/-- Reads a definition from JSON. -/
def Definition.ofJson? (j : Json) : Option Definition :=
  ofData? j.toData

/-- Reads a prompt that stands alone from JSON. -/
def Prompt.ofJson? (j : Json) : Option Prompt :=
  ofData? false j.toData

/-- Items may be nested this deep in YAML text: 128 levels, less those of the survey and its list. -/
def yamlItemDepth : Nat := 126

/-- Reads a definition from YAML text. -/
def Definition.ofYaml? (text : String) : Option Definition := do
  let fields ← (← Yaml.Node.ofText? text).fields? fieldNames
  let items ← (← fields.lookup "items").asSequence?
  return {
    id := ← (← fields.lookup "id").asText?
    title := ← Yaml.Node.asOptionalText? (fields.lookup "title")
    items := ← items.mapM fun item => do Item.ofData? (← item.toData? yamlItemDepth) }

/-! ## Reading responses -/

/-- The fields of a response, in order. -/
def Response.fieldNames : List String := ["survey_id", "responses"]

/-- Reads a response from JSON. Without answers it has none. -/
def Response.ofJson? (j : Json) : Option Response := do
  let fields ← j.fields? fieldNames
  let survey ← match ← fields.lookup "survey_id" with
    | .string id => pure id
    | _ => none
  let answers ← match fields.lookup "responses" with
    | none => pure []
    | some members => members.asObject?
  return { survey, answers }

/-- The part of a tree that a response is read from: of an object the members that a response has, each
given once. What is left out needs no value, but its key must be a text. -/
def Response.relevant? : Written → Option Written
  | .object members => do
    let named ← members.mapM fun (key, value) => key.map fun k => (k, value)
    let known ← knownFields? fieldNames named
    return .object (known.map fun (key, value) => (some key, value))
  | tree => some tree

/-- Reads a response from JSON text. -/
def Response.ofText? (text : String) : Option Response := do
  let tree ← relevant? (← Written.ofText? text)
  ofJson? (← tree.value? jsonDepth)

end SurveyFlow
