import SurveyFlow.Condition.Comparison
import SurveyFlow.Condition.Lexer
import SurveyFlow.Condition.Parser

/-!
# Conditions: the value of a sentence

The clauses of a chain are gone through from the first one on. If the value of a clause settles the chain, by
being false before `and` or true before `or`, what follows is not looked at; otherwise the value is dropped and
the rest of the chain is gone through in its place. A group is evaluated like a sentence of its own. An error
ends the evaluation where it arises. An evaluation also says which identifiers were asked for, in order.
-/

namespace SurveyFlow

/-- What an evaluation gave, and the identifiers that it asked the context for. -/
structure Evaluation where
  result : Except EvalError Bool
  lookups : List String

namespace Evaluation

/-- The evaluation, if `asked` had been asked for before it. -/
def after (asked : List String) (evaluation : Evaluation) : Evaluation :=
  ⟨evaluation.result, asked ++ evaluation.lookups⟩

/-- A chain whose first clause has this evaluation ends with it: by an error, or by a value that settles it. -/
def ends (first : Evaluation) (c : Conjunction) : Bool :=
  match first.result with
  | .error _ => true
  | .ok left => c.settledBy left

end Evaluation

/-- The value of a comparison whose lookup gave `answer`. -/
def Expression.decide (e : Expression) (answer : Except String Resolution) : Except EvalError Bool :=
  match answer with
  | .error reason => .error (.contextFailure reason)
  | .ok resolution => e.compare resolution

/-- Asks for the identifier of a comparison and decides it. -/
def Expression.evaluate (ctx : Context) (e : Expression) : Evaluation :=
  ⟨e.decide (ctx e.identifier), [e.identifier]⟩

namespace Sentence

/-- Goes along a chain after the lookups `asked`. The value of a clause that does not end the chain is dropped. -/
def evaluateFrom (ctx : Context) (asked : List String) : Sentence → Evaluation
  | simple e => (e.evaluate ctx).after asked
  | grouped s => s.evaluateFrom ctx asked
  | simpleThen e c rest =>
    let left := (e.evaluate ctx).after asked
    if left.ends c then left else rest.evaluateFrom ctx left.lookups
  | groupedThen s c rest =>
    let left := s.evaluateFrom ctx asked
    if left.ends c then left else rest.evaluateFrom ctx left.lookups

/-- Evaluates a sentence in a context. -/
def evaluate (ctx : Context) (s : Sentence) : Evaluation :=
  s.evaluateFrom ctx []

end Sentence

/-- Reads condition text. -/
def parseCondition (text : String) : Except ConditionError Sentence :=
  match tokenize text with
  | .error e => .error (.lexical e)
  | .ok tokens =>
    match parse tokens with
    | .error e => .error (.grammatical e)
    | .ok s => .ok s

/-- Reads condition text and evaluates it. Text that cannot be read asks for nothing. -/
def evaluateCondition (ctx : Context) (text : String) : Except ConditionError Bool × List String :=
  match parseCondition text with
  | .error e => (.error e, [])
  | .ok s =>
    let evaluation := s.evaluate ctx
    (evaluation.result.mapError .evaluation, evaluation.lookups)

end SurveyFlow
