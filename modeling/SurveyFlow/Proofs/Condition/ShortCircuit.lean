import SurveyFlow.Proofs.Condition.Comparisons

/-!
# Short circuits, and chains that nest to the right

An evaluation follows the rules of the language in result, error and lookups (`evaluate_shortCircuits`). As a
chain has the value of its whole rest where its first clause leaves it open, parentheses around the rest of a
chain say nothing new (`value_of_regroups`).
-/

namespace SurveyFlow

/-- The second sentence has parentheses around the rest of one chain of the first, at any depth. -/
inductive Sentence.Regroups : Sentence → Sentence → Prop where
  | here (clause : Clause) (c : Conjunction) (rest : Sentence) :
    Regroups (clause.link c rest) (clause.link c (.grouped rest))
  | inRest (clause : Clause) (c : Conjunction) {rest rest' : Sentence} :
    Regroups rest rest' → Regroups (clause.link c rest) (clause.link c rest')
  | inGroup {s s' : Sentence} : Regroups s s' → Regroups (.grouped s) (.grouped s')
  | inFirst {s s' : Sentence} (c : Conjunction) (rest : Sentence) :
    Regroups s s' → Regroups (.groupedThen s c rest) (.groupedThen s' c rest)

/-- **Parentheses around the rest of a chain change nothing.** -/
theorem value_of_regroups (ctx : Context) {s s' : Sentence} (h : s.Regroups s') : s'.value ctx = s.value ctx := by
  induction h with
  | here clause c rest => rw [Sentence.value_link, Sentence.value_link, Sentence.value]
  | inRest clause c _ ih => rw [Sentence.value_link, Sentence.value_link, ih]
  | inGroup _ ih => exact ih
  | inFirst c rest _ ih => rw [Sentence.value, Sentence.value, ih]

/-- **The evaluation short-circuits by the rules.** It gives what the recursion over the sentence gives. It asks
for some identifiers of the sentence in source order, for one at least; if it fails, it is by the decision of the
comparison asked for last, all before it being decided; and parentheses around the rest of a chain change
nothing. -/
theorem evaluate_shortCircuits (ctx : Context) (s : Sentence) :
    s.evaluate ctx = s.value ctx ∧
      (s.evaluate ctx).lookups ≠ [] ∧ (s.evaluate ctx).lookups.Sublist s.identifiers ∧
      (∀ e, (s.evaluate ctx).result = .error e → ∃ before last, (before ++ [last]).Sublist s.expressions ∧
        (s.evaluate ctx).lookups = (before ++ [last]).map Expression.identifier ∧
        last.decide (ctx last.identifier) = .error e ∧
        ∀ x ∈ before, ∃ b, x.decide (ctx x.identifier) = .ok b) ∧
      ∀ s', s.Regroups s' → s'.evaluate ctx = s.evaluate ctx := by
  -- The comparisons that were asked for: all of them decided but the last one, whose decision is the result.
  obtain ⟨before, last, sub, asks⟩ := evaluate_asks ctx s
  refine ⟨s.evaluate_eq_value ctx, ?_, ?_, fun e failed => ?_, fun s' regroups => ?_⟩
  · rw [asks.lookups]
    simp
  · rw [asks.lookups]
    exact sub.map Expression.identifier
  · exact ⟨before, last, sub, asks.lookups, asks.result.symm.trans failed, asks.decided⟩
  · rw [Sentence.evaluate_eq_value, Sentence.evaluate_eq_value]
    exact value_of_regroups ctx regroups

/-- Nobody is asked for the mood of those who have not slept at home, and the hours cannot be looked up. -/
theorem evaluate_shortCircuits_at_failure :
    let ctx : Context := fun i => if i = "home" then .ok (.known .notDisplayed) else .error "offline"
    let home : Expression := ⟨"home", .eq, "true"⟩
    let hours : Expression := ⟨"hours", .lt, "6"⟩
    let mood : Expression := ⟨"mood", .eq, "1"⟩
    let s : Sentence := .simpleThen home .or (.simpleThen hours .and (.simple mood))
    let grouped : Sentence := .simpleThen home .or (.grouped (.simpleThen hours .and (.simple mood)))
    s.evaluate ctx = ⟨.error (.contextFailure "offline"), ["home", "hours"]⟩ ∧
      (∃ before last, (before ++ [last]).Sublist s.expressions ∧
        (s.evaluate ctx).lookups = (before ++ [last]).map Expression.identifier ∧
        last.decide (ctx last.identifier) = .error (.contextFailure "offline") ∧
        ∀ x ∈ before, ∃ b, x.decide (ctx x.identifier) = .ok b) ∧
      grouped.evaluate ctx = s.evaluate ctx := by
  intro ctx home hours mood s grouped
  have result : s.evaluate ctx = ⟨.error (.contextFailure "offline"), ["home", "hours"]⟩ := rfl
  have failed : (s.evaluate ctx).result = .error (.contextFailure "offline") := by rw [result]
  have regroups : s.Regroups grouped := .here (.comparison home) .or (.simpleThen hours .and (.simple mood))
  obtain ⟨_, _, _, failure, regrouped⟩ := evaluate_shortCircuits ctx s
  exact ⟨result, failure _ failed, regrouped grouped regroups⟩

end SurveyFlow
