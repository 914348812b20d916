import SurveyFlow.Number.Double

/-!
# Conditions: answers and where they come from

A typed value is an answer, or a literal read as one. An identifier resolves to the value of its prompt, to
the fact that the prompt was not shown, or to nothing known. A context answers for identifiers, and may
itself fail to.
-/

namespace SurveyFlow

/-- The types of answers. -/
inductive ValueType where
  | number
  | text
  | choice
  | boolean
deriving DecidableEq, Repr, Inhabited

/-- The name of a type in survey definitions. -/
def ValueType.name : ValueType → String
  | .number => "number"
  | .text => "text"
  | .choice => "single_choice"
  | .boolean => "boolean"

/-- An answer with its type. -/
inductive TypedValue where
  | number (value : Double)
  | text (value : String)
  /-- The key of the chosen choice. -/
  | choice (key : String)
  | boolean (value : Bool)
deriving DecidableEq, Repr

/-- The type of a value. -/
def TypedValue.type : TypedValue → ValueType
  | number _ => .number
  | text _ => .text
  | choice _ => .choice
  | boolean _ => .boolean

/-- What is known about a prompt when a condition asks for it: its answer, or that it was not shown. -/
inductive Answer where
  | given (value : TypedValue)
  | notDisplayed
deriving DecidableEq, Repr

/-- What an identifier stands for. -/
inductive Resolution where
  | known (answer : Answer)
  /-- No prompt has the name. -/
  | unknown
deriving DecidableEq, Repr

/-- The answers to identifiers, or the reason why a lookup failed. -/
abbrev Context := String → Except String Resolution

end SurveyFlow
