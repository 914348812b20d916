import SurveyFlow.Condition.Evaluation

/-!
# Conditions: evaluation that waits for its answers

Where an answer takes time to arrive, an evaluation stops at each lookup and goes on when the answer is
there. A `Suspension` is such a stop: the comparison that waits, and the rests of the chains around it that
may still decide, innermost first. `evaluateWith` drives a suspension with answers from any monad.
-/

namespace SurveyFlow

/-- An evaluation that waits for the answer to one identifier. -/
structure Suspension where
  waiting : Expression
  /-- For each chain around the comparison that goes on behind it: the conjunction and the rest. -/
  pending : List (Conjunction × Sentence)

namespace Suspension

/-- The first stop of a sentence that is evaluated inside the chains of `pending`. -/
def enter (pending : List (Conjunction × Sentence)) : Sentence → Suspension
  | .simple e => ⟨e, pending⟩
  | .grouped s => enter pending s
  | .simpleThen e c rest => ⟨e, (c, rest) :: pending⟩
  | .groupedThen s c rest => enter ((c, rest) :: pending) s

/-- Passes a value outward: each chain that it settles has that value, and the first one that it does not
settle goes on with its rest. With no such chain the value is the result. -/
def settle (value : Bool) : List (Conjunction × Sentence) → Bool ⊕ Suspension
  | [] => .inl value
  | (c, rest) :: pending => if c.settledBy value then settle value pending else .inr (enter pending rest)

/-- Goes on with the answer that was waited for, to the result or to the next stop. -/
def resume (s : Suspension) (answer : Except String Resolution) :
    Except EvalError Bool ⊕ Suspension :=
  match s.waiting.decide answer with
  | .error e => .inl (.error e)
  | .ok value =>
    match settle value s.pending with
    | .inl result => .inl (.ok result)
    | .inr next => .inr next

/-- The number of comparisons in pending rests. -/
def pendingSize : List (Conjunction × Sentence) → Nat
  | [] => 0
  | (_, rest) :: pending => rest.size + pendingSize pending

/-- The number of comparisons that may still be asked for. -/
def weight (s : Suspension) : Nat :=
  1 + pendingSize s.pending

/-- Entering a sentence adds its comparisons. -/
theorem weight_enter (pending : List (Conjunction × Sentence)) (s : Sentence) :
    (enter pending s).weight = s.size + pendingSize pending := by
  induction s generalizing pending with
  | simple e => simp [enter, weight, Sentence.size, Sentence.expressions]
  | grouped s ih => simp [enter, ih, Sentence.size, Sentence.expressions]
  | simpleThen e c rest _ =>
    simp only [enter, weight, pendingSize, Sentence.size, Sentence.expressions, List.length_cons]
    omega
  | groupedThen s c rest ih _ =>
    simp only [enter, ih, pendingSize, Sentence.size, Sentence.expressions, List.length_append]
    omega

/-- A stop that a value is passed on to has no more comparisons than were pending. -/
theorem weight_of_settle {value : Bool} {pending : List (Conjunction × Sentence)} {next : Suspension}
    (h : settle value pending = .inr next) : next.weight ≤ pendingSize pending := by
  induction pending with
  | nil => simp [settle] at h
  | cons p pending ih =>
    rw [settle] at h
    split at h
    · have := ih h
      simp only [pendingSize]
      omega
    · cases h
      exact Nat.le_of_eq (weight_enter _ _)

/-- Each answer leaves fewer comparisons to ask for. -/
theorem weight_of_resume {s next : Suspension} {answer : Except String Resolution}
    (h : s.resume answer = .inr next) : next.weight < s.weight := by
  unfold resume at h
  split at h
  · cases h
  · split at h
    · cases h
    · next found =>
      cases h
      have := weight_of_settle found
      simp only [weight] at this ⊢
      omega

/-- Drives an evaluation to its result with the answers that `lookup` gives. -/
def run {m : Type → Type} [Monad m] (lookup : String → m (Except String Resolution)) (s : Suspension) :
    m (Except EvalError Bool) := do
  let answer ← lookup s.waiting.identifier
  match _h : s.resume answer with
  | .inl result => return result
  | .inr next => run lookup next
termination_by s.weight
decreasing_by exact weight_of_resume _h

end Suspension

/-- Evaluates a sentence with answers that arrive one at a time. -/
def Sentence.evaluateWith {m : Type → Type} [Monad m] (lookup : String → m (Except String Resolution))
    (s : Sentence) : m (Except EvalError Bool) :=
  (Suspension.enter [] s).run lookup

end SurveyFlow
