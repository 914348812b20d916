import SurveyFlow.Condition.Value

/-!
# Surveys: definitions

A survey is a list of items in the order in which they are shown. An item is a prompt, or a set of prompts
that the participant may answer several times. A condition, if an item has one, says whether the item is
shown; that of a set is decided before those of its prompts.
-/

namespace SurveyFlow

/-- The types of prompts. -/
inductive PromptType where
  | number
  | text
  | singleChoice
  | boolean
deriving DecidableEq, Repr, Inhabited

/-- The type of the answers to prompts of a type. -/
def PromptType.valueType : PromptType → ValueType
  | number => .number
  | text => .text
  | singleChoice => .choice
  | boolean => .boolean

/-- One choice of a prompt: the key that answers give, and the label that is shown. -/
structure Choice where
  key : String
  label : String
deriving DecidableEq, Repr

/-- A question. Without a condition it is always shown. -/
structure Prompt where
  id : String
  type : PromptType
  condition : Option String
  skippable : Bool
  choices : List Choice
deriving DecidableEq, Repr

/-- The key is one of the prompt's choices. -/
def Prompt.hasChoice (p : Prompt) (key : String) : Bool :=
  p.choices.any fun c => c.key == key

/-- A group of prompts that may be answered several times. -/
structure RepeatableSet where
  id : String
  condition : Option String
  prompts : List Prompt
deriving DecidableEq, Repr

/-- The set's prompt of that id; the first one, should there be more. -/
def RepeatableSet.prompt? (s : RepeatableSet) (id : String) : Option Prompt :=
  s.prompts.find? fun p => p.id == id

/-- An item at the top level of a survey. -/
inductive Item where
  | prompt (prompt : Prompt)
  | set (set : RepeatableSet)
deriving DecidableEq, Repr

namespace Item

def id : Item → String
  | prompt p => p.id
  | set s => s.id

def condition : Item → Option String
  | prompt p => p.condition
  | set s => s.condition

/-- The prompt that the item is. -/
def asPrompt? : Item → Option Prompt
  | prompt p => some p
  | set _ => none

/-- The set that the item is. -/
def asSet? : Item → Option RepeatableSet
  | prompt _ => none
  | set s => some s

/-- The prompts of the item: itself, or those of the set. -/
def prompts : Item → List Prompt
  | prompt p => [p]
  | set s => s.prompts

/-- The ids that the item declares, its own first. -/
def ids : Item → List String
  | prompt p => [p.id]
  | set s => s.id :: s.prompts.map Prompt.id

end Item

/-- A survey. -/
structure Definition where
  id : String
  title : Option String
  items : List Item
deriving DecidableEq, Repr

namespace Definition

/-- The prompts at the top level. -/
def topPrompts (d : Definition) : List Prompt :=
  d.items.filterMap Item.asPrompt?

/-- The repeatable sets. -/
def sets (d : Definition) : List RepeatableSet :=
  d.items.filterMap Item.asSet?

/-- All prompts in order, those of sets included. -/
def allPrompts (d : Definition) : List Prompt :=
  d.items.flatMap Item.prompts

/-- The ids of items and of prompts in sets, in order. -/
def ids (d : Definition) : List String :=
  d.items.flatMap Item.ids

/-- The prompt at the top level of that id; the first one, should there be more. -/
def prompt? (d : Definition) (id : String) : Option Prompt :=
  d.topPrompts.find? fun p => p.id == id

/-- The repeatable set of that id; the first one, should there be more. -/
def set? (d : Definition) (id : String) : Option RepeatableSet :=
  d.sets.find? fun s => s.id == id

/-- The type of the answers to a prompt at the top level. -/
def declaredType? (d : Definition) (id : String) : Option ValueType :=
  (d.prompt? id).map fun p => p.type.valueType

end Definition

end SurveyFlow
