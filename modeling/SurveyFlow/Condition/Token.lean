import SurveyFlow.Condition.Sentence
import SurveyFlow.Text.CharClass

/-!
# Conditions: tokens

The pieces of condition text: words, quoted texts, comparators, conjunctions, parentheses and the end of
the input. Whether a word is an identifier or a literal is decided by its place in an expression, not by
its letters. A token keeps the byte offset at which it starts, for error messages.
-/

namespace SurveyFlow

/-- The kinds of token. -/
inductive TokenKind where
  /-- A run of characters that are neither blank, control nor reserved. -/
  | word
  /-- A text between quotes. -/
  | quoted
  | comparator (comparator : Comparator)
  | conjunction (conjunction : Conjunction)
  | openParen
  | closeParen
  | endOfInput
deriving DecidableEq, Repr, Inhabited

/-- A token with its text (for a quoted one what the quotes hold) and the byte offset of its start. -/
structure Token where
  kind : TokenKind
  text : String
  position : Nat
deriving DecidableEq, Repr, Inhabited

/-- The marker after the last piece of an input. -/
def Token.endAt (position : Nat) : Token :=
  ⟨.endOfInput, "", position⟩

/-- The characters that operators, parentheses and quotes are made of. -/
def isReserved (c : Char) : Bool :=
  "=!<>()\"".toList.contains c

/-- A character that a word may hold. -/
def isWordChar (c : Char) : Bool :=
  !isBlank c && !isControl c && !isReserved c

/-- A text that stands in a condition as one word: nonempty, of word characters, and no conjunction. -/
def IsWord (text : String) : Prop :=
  text ≠ "" ∧ Conjunction.ofWord? text = none ∧ ∀ c ∈ text.toList, isWordChar c = true

instance (text : String) : Decidable (IsWord text) :=
  decidable_of_iff (text ≠ "" ∧ Conjunction.ofWord? text = none ∧ text.toList.all isWordChar = true)
    (by rw [List.all_eq_true, IsWord])

end SurveyFlow
