import SurveyFlow.Condition.Evaluation
import SurveyFlow.Survey.Definition

/-!
# Surveys: issues of a definition

A definition is checked before any participant sees it: ids are distinct, every condition can be read, and
every comparison in it names a prompt that is decided before the condition is, by a comparator and a literal
that fit the type of the prompt. A condition sees the prompts at the top level before its item, and the
condition of a prompt in a set also the prompts before it in the set, which hide others of their name.
-/

namespace SurveyFlow

/-- The ways in which an item can be wrong. -/
inductive IssueKind where
  | duplicateId
  /-- The condition cannot be read. -/
  | unparsable (error : ConditionError)
  /-- No item has this name. -/
  | unknownReference (identifier : String)
  /-- The prompt of this name comes at or after the item. -/
  | forwardReference (identifier : String)
  /-- The prompt of this name is in a set that the item is not in. -/
  | outsideRepeatableSet (identifier : String)
  /-- The name is that of a set. -/
  | notAPrompt (identifier : String)
  | invalidComparison (identifier : String) (comparator : Comparator)
  | literalTypeMismatch (identifier literal : String)
  /-- The prompt has choices, and the literal is none of them. -/
  | unknownChoice (identifier literal : String)
deriving DecidableEq, Repr

def IssueKind.message : IssueKind → String
  | duplicateId => "id is declared more than once"
  | unparsable e => "condition does not parse: " ++ e.message
  | unknownReference i => s!"condition references unknown prompt '{i}'"
  | forwardReference i => s!"condition references '{i}' before it is declared"
  | outsideRepeatableSet i => s!"condition references '{i}' from outside its repeatable set"
  | notAPrompt i => s!"condition references repeatable set '{i}', which has no value"
  | invalidComparison i c => s!"comparator '{c.symbol}' cannot be applied to '{i}'"
  | literalTypeMismatch i l => s!"literal '{l}' does not match the type of '{i}'"
  | unknownChoice i l => s!"'{l}' is not a choice of '{i}'"

/-- Something wrong with an item of a definition. -/
structure Issue where
  item : String
  kind : IssueKind
deriving DecidableEq, Repr

def Issue.message (issue : Issue) : String :=
  issue.item ++ ": " ++ issue.kind.message

/-! ## Ids -/

/-- Where an id is declared. -/
inductive Location where
  /-- A prompt at the top level. -/
  | top
  | set
  /-- A prompt in the set of that id. -/
  | inside (set : String)
deriving DecidableEq, Repr

/-- The ids that an item declares, with their places. -/
def Item.locations : Item → List (String × Location)
  | .prompt p => [(p.id, .top)]
  | .set s => (s.id, .set) :: s.prompts.map fun p => (p.id, .inside s.id)

/-- Where an id is declared first. -/
def Definition.locate? (d : Definition) (id : String) : Option Location :=
  (d.items.flatMap Item.locations).lookup id

/-- The entries of a list that an earlier one equals, for entries that come after those of `seen`. -/
def repeats (seen : List String) : List String → List String
  | [] => []
  | x :: xs => if seen.contains x then x :: repeats seen xs else repeats (x :: seen) xs

/-! ## Conditions -/

/-- What a condition sees: the prompts that it may name, and the set that it is in. The prompts of one list
come in the order of declaration. -/
structure Visible where
  outer : List Prompt
  inner : List Prompt
  set : Option String

/-- The prompt that an identifier names. -/
def Visible.find? (v : Visible) (identifier : String) : Option Prompt :=
  v.inner.find? (fun p => p.id == identifier) <|> v.outer.find? fun p => p.id == identifier

/-- Why an identifier names no prompt. -/
def Visible.unresolved (d : Definition) (v : Visible) (identifier : String) : IssueKind :=
  match d.locate? identifier with
  | none => .unknownReference identifier
  | some .set => .notAPrompt identifier
  | some .top => .forwardReference identifier
  | some (.inside set) =>
    if v.set = some set then .forwardReference identifier else .outsideRepeatableSet identifier

/-- What is wrong with a comparison with the answer to a prompt. -/
def Prompt.checkLiteral (p : Prompt) (e : Expression) : Option IssueKind :=
  match coerceLiteral p.type.valueType e with
  | .error (.invalidComparison identifier comparator) => some (.invalidComparison identifier comparator)
  | .error (.literalTypeMismatch identifier literal) => some (.literalTypeMismatch identifier literal)
  | .error _ => none
  | .ok _ =>
    if p.type = .singleChoice ∧ p.choices ≠ [] ∧ !p.hasChoice e.literal then
      some (.unknownChoice e.identifier e.literal)
    else none

/-- What is wrong with a comparison. -/
def Visible.checkExpression (d : Definition) (v : Visible) (e : Expression) : Option IssueKind :=
  match v.find? e.identifier with
  | some p => p.checkLiteral e
  | none => some (v.unresolved d e.identifier)

/-- What is wrong with the condition of an item, in the order of its comparisons. -/
def Visible.check (d : Definition) (v : Visible) (item : String) (condition : Option String) : List Issue :=
  match condition with
  | none => []
  | some text =>
    match parseCondition text with
    | .error e => [⟨item, .unparsable e⟩]
    | .ok sentence => (sentence.expressions.filterMap (v.checkExpression d)).map fun kind => ⟨item, kind⟩

/-- The issues of the prompts of a set, those of `inner` being declared before them. -/
def checkInner (d : Definition) (outer : List Prompt) (set : String) (inner : List Prompt) :
    List Prompt → List Issue
  | [] => []
  | p :: prompts =>
    Visible.check d ⟨outer, inner, some set⟩ p.id p.condition ++
      checkInner d outer set (inner ++ [p]) prompts

/-- The issues of the conditions of items, the prompts of `outer` being declared before them. -/
def checkItems (d : Definition) (outer : List Prompt) : List Item → List Issue
  | [] => []
  | .prompt p :: items =>
    Visible.check d ⟨outer, [], none⟩ p.id p.condition ++ checkItems d (outer ++ [p]) items
  | .set s :: items =>
    Visible.check d ⟨outer, [], none⟩ s.id s.condition ++ checkInner d outer s.id [] s.prompts ++
      checkItems d outer items

/-- The issues of a definition: repeated ids first, then those of the conditions, each in order. -/
def validate (d : Definition) : List Issue :=
  (repeats [] d.ids).map (fun id => ⟨id, .duplicateId⟩) ++ checkItems d [] d.items

end SurveyFlow
