import SurveyFlow.Condition.Evaluation

/-!
# The value of a sentence by recursion

An evaluation goes along a chain and drops the value of each clause that leaves the chain open. The rules of the
language put the value of a chain together instead: it is that of the first clause if this settles the chain, and
otherwise that of the whole rest (`Sentence.value`). Both give one result and ask for the same identifiers
(`evaluate_eq_value`).
-/

namespace SurveyFlow

/-! ## The rules -/

namespace Evaluation

/-- The evaluation of a chain from that of its first clause and that of its rest. -/
def followedBy (first : Evaluation) (c : Conjunction) (rest : Evaluation) : Evaluation :=
  match c, first.result with
  | _, .error _ => first
  | .and, .ok false | .or, .ok true => first
  | .and, .ok true | .or, .ok false => ⟨rest.result, first.lookups ++ rest.lookups⟩

variable {first rest : Evaluation} {c : Conjunction}

/-- A chain that its first clause settles has the value of that clause. -/
theorem followedBy_of_ends (h : first.ends c = true) : first.followedBy c rest = first := by
  unfold ends at h
  unfold followedBy
  cases result : first.result with
  | error e => rfl
  | ok left =>
    rw [result] at h
    -- Two of the four cases settle the chain.
    match c, left, h with
    | .and, false, _ => rfl
    | .or, true, _ => rfl

/-- A chain that is still open has the value of its rest, with the lookups of both. -/
theorem followedBy_of_open (h : first.ends c = false) : first.followedBy c rest = rest.after first.lookups := by
  unfold ends at h
  unfold followedBy
  cases result : first.result with
  | error e =>
    rw [result] at h
    cases h
  | ok left =>
    rw [result] at h
    match c, left, h with
    | .and, true, _ => rfl
    | .or, false, _ => rfl

/-- What was asked for before does not change how a chain goes on. -/
theorem followedBy_after (asked : List String) :
    (first.after asked).followedBy c rest = (first.followedBy c rest).after asked := by
  have same : (first.after asked).ends c = first.ends c := rfl
  cases h : first.ends c with
  | true => rw [followedBy_of_ends h, followedBy_of_ends (same.trans h)]
  | false =>
    rw [followedBy_of_open h, followedBy_of_open (same.trans h)]
    simp only [after, List.append_assoc]

end Evaluation

namespace Sentence

/-- The value of a sentence: of a chain, that of its first clause followed by that of its rest. -/
def value (ctx : Context) : Sentence → Evaluation
  | simple e => e.evaluate ctx
  | grouped s => s.value ctx
  | simpleThen e c rest => (e.evaluate ctx).followedBy c (rest.value ctx)
  | groupedThen s c rest => (s.value ctx).followedBy c (rest.value ctx)

variable (ctx : Context)

/-- The rule for a chain does not depend on what its first clause is. -/
theorem value_link (clause : Clause) (c : Conjunction) (rest : Sentence) :
    (clause.link c rest).value ctx = (clause.alone.value ctx).followedBy c (rest.value ctx) := by
  cases clause <;> rfl

/-! ## The loop -/

/-- One turn of the loop, if the rest of the chain follows the rules. -/
theorem turn_eq_followedBy {rest : Sentence}
    (others : ∀ asked, rest.evaluateFrom ctx asked = (rest.value ctx).after asked) (left : Evaluation)
    (c : Conjunction) :
    (if left.ends c then left else rest.evaluateFrom ctx left.lookups) = left.followedBy c (rest.value ctx) := by
  cases h : left.ends c with
  | true => rw [if_pos rfl, Evaluation.followedBy_of_ends h]
  | false => rw [if_neg Bool.false_ne_true, Evaluation.followedBy_of_open h, others]

/-- **The loop follows the rules.** Induction on the sentence, whatever was asked for before it. -/
theorem evaluateFrom_eq_value (s : Sentence) (asked : List String) :
    s.evaluateFrom ctx asked = (s.value ctx).after asked := by
  induction s generalizing asked with
  | simple e => rfl
  | grouped s ih => exact ih asked
  | simpleThen e c rest ih =>
    rw [evaluateFrom, value, ← Evaluation.followedBy_after]
    exact turn_eq_followedBy ctx ih ((e.evaluate ctx).after asked) c
  | groupedThen s c rest ihInner ih =>
    -- The lookups of the group are counted by the loop inside it, so they come before its value on both sides.
    rw [evaluateFrom, value, ← Evaluation.followedBy_after, ← ihInner]
    exact turn_eq_followedBy ctx ih (s.evaluateFrom ctx asked) c

/-- **The evaluation of a sentence is its value by the rules.** -/
theorem evaluate_eq_value (s : Sentence) : s.evaluate ctx = s.value ctx :=
  evaluateFrom_eq_value ctx s []

end Sentence

end SurveyFlow
