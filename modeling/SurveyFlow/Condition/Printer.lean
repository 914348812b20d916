import SurveyFlow.Condition.Token

/-!
# Conditions: the canonical text of a sentence

One space stands around comparators and conjunctions, none inside parentheses. A literal is written bare
where it reads back as one word, and otherwise between quotes, with a backslash before each quote and each
backslash in it. Identifiers are always written bare.
-/

namespace SurveyFlow

/-- A literal that would not read back as one word if it were written bare. -/
def needsQuotes (literal : String) : Bool :=
  !decide (IsWord literal)

/-- The characters of a quoted text: its quotes and backslashes are escaped. -/
def escape : List Char → List Char
  | [] => []
  | c :: cs => if c = '"' ∨ c = '\\' then '\\' :: c :: escape cs else c :: escape cs

/-- A text between quotes. -/
def quote (text : String) : String :=
  String.ofList ('"' :: escape text.toList ++ ['"'])

/-- A literal as condition text. -/
def renderLiteral (literal : String) : String :=
  if needsQuotes literal then quote literal else literal

/-- A comparison as condition text. -/
def Expression.render (e : Expression) : String :=
  e.identifier ++ " " ++ e.comparator.symbol ++ " " ++ renderLiteral e.literal

/-- A sentence as condition text. -/
def Sentence.render : Sentence → String
  | simple e => e.render
  | grouped s => "(" ++ s.render ++ ")"
  | simpleThen e c rest => e.render ++ " " ++ c.word ++ " " ++ rest.render
  | groupedThen s c rest => "(" ++ s.render ++ ") " ++ c.word ++ " " ++ rest.render

end SurveyFlow
