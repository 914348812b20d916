import SurveyFlow.Condition.Sentence

/-!
# Conditions: what can go wrong

Three kinds of error, one for each stage: text that has no tokens (`LexicalError`), tokens that make no
sentence (`SyntaxError`), and a sentence that has no value on the answers at hand (`EvalError`). Each value
names its cause; the wording is in the `message` functions.
-/

namespace SurveyFlow

/-- Text that cannot be cut into tokens. Positions are byte offsets. -/
inductive LexicalError where
  /-- A character that no token begins with. -/
  | unrecognizedCharacter (position : Nat) (character : Char)
  /-- A quote that is never closed. -/
  | unterminatedQuote (position : Nat)
deriving DecidableEq, Repr

/-- Where the offending character stands. -/
def LexicalError.position : LexicalError → Nat
  | unrecognizedCharacter p _ | unterminatedQuote p => p

def LexicalError.message : LexicalError → String
  | unrecognizedCharacter p c => s!"unrecognized character '{c}' at position {p}"
  | unterminatedQuote p => s!"unterminated quoted literal starting at position {p}"

/-- What a sentence needed where something else stood. -/
inductive Expected where
  | identifier
  | comparator
  | literal
  | closingParen
  /-- A comparison or a parenthesized sentence. -/
  | clause
deriving DecidableEq, Repr

def Expected.message : Expected → String
  | identifier => "an identifier"
  | comparator => "a comparator (==, !=, <, >, <=, >=)"
  | literal => "a literal value"
  | closingParen => "')'"
  | clause => "an expression or '('"

/-- Tokens that make no sentence. -/
inductive SyntaxError where
  | unexpectedToken (position : Nat) (expected : Expected) (found : String)
  /-- A complete sentence with more tokens behind it. -/
  | trailingInput (position : Nat) (found : String)
  | unexpectedEnd (position : Nat) (expected : Expected)
  | nestingTooDeep (position : Nat) (limit : Nat)
  | chainTooLong (position : Nat) (limit : Nat)
deriving DecidableEq, Repr

/-- Where the first impossible token stands. -/
def SyntaxError.position : SyntaxError → Nat
  | unexpectedToken p _ _ | trailingInput p _ | unexpectedEnd p _ | nestingTooDeep p _
  | chainTooLong p _ => p

def SyntaxError.message : SyntaxError → String
  | unexpectedToken p e found => s!"expected {e.message} at position {p}, found '{found}'"
  | trailingInput p found => s!"unexpected trailing input '{found}' at position {p}"
  | unexpectedEnd p e => s!"unexpected end of input at position {p}, expected {e.message}"
  | nestingTooDeep p limit => s!"condition nests groups deeper than {limit} levels at position {p}"
  | chainTooLong p limit => s!"condition chains more than {limit} conjunctions at position {p}"

/-- A sentence that has no value on the answers at hand. -/
inductive EvalError where
  /-- No prompt has this name. -/
  | unknownIdentifier (identifier : String)
  /-- An ordering comparator on an answer that is not a number. -/
  | invalidComparison (identifier : String) (comparator : Comparator)
  | literalTypeMismatch (identifier : String) (literal : String)
  /-- The lookup of an answer itself failed. -/
  | contextFailure (reason : String)
deriving DecidableEq, Repr

def EvalError.message : EvalError → String
  | unknownIdentifier i => s!"unknown identifier '{i}'"
  | invalidComparison i c => s!"comparator '{c.symbol}' cannot be applied to '{i}'"
  | literalTypeMismatch i l => s!"literal '{l}' does not match the type of '{i}'"
  | contextFailure reason => s!"response context failure: {reason}"

/-- Any reason why condition text has no value. -/
inductive ConditionError where
  | lexical (error : LexicalError)
  | grammatical (error : SyntaxError)
  | evaluation (error : EvalError)
deriving DecidableEq, Repr

def ConditionError.message : ConditionError → String
  | lexical e => "lex error: " ++ e.message
  | grammatical e => "parse error: " ++ e.message
  | evaluation e => "evaluation error: " ++ e.message

end SurveyFlow
