import SurveyFlow.Proofs.Condition.Comparisons

/-!
# Hiding answers

A comparison with a prompt that was not shown is false, and neither `and` nor `or` turns a false clause into a
reason to hold. So a context that hides answers of another one never makes a sentence true that is false there
(`evaluate_atMost`). It may well turn a value into an error, as it may open a part of a chain that was settled, and then
it is the error of a comparison there (`error_of_hides`).
-/

namespace SurveyFlow

/-- Every answer is that of the other context, or hidden. -/
def Context.Hides (ctx' ctx : Context) : Prop :=
  ∀ i, ctx' i = ctx i ∨ ctx' i = .ok (.known .notDisplayed)

/-- Where the first evaluation is true and the other has a value, that value is true. -/
def Evaluation.AtMost (v' v : Evaluation) : Prop :=
  ∀ b, v'.result = .ok true → v.result = .ok b → b = true

/-- A comparison is decided as with the other context, or false because its answer is hidden. -/
theorem decide_of_hides {ctx ctx' : Context} (hides : ctx'.Hides ctx) (x : Expression) :
    x.decide (ctx' x.identifier) = x.decide (ctx x.identifier) ∨ x.decide (ctx' x.identifier) = .ok false := by
  rcases hides x.identifier with same | hidden
  · exact .inl (congrArg x.decide same)
  · right
    rw [hidden]
    rfl

/-- A comparison that is true with hidden answers is true with the others. -/
theorem comparison_atMost {ctx ctx' : Context} (hides : ctx'.Hides ctx) (x : Expression) :
    (x.evaluate ctx').AtMost (x.evaluate ctx) := by
  intro b holds value
  rcases decide_of_hides hides x with same | untrue
  · exact Except.ok.inj (value.symm.trans (same.symm.trans holds))
  · cases untrue.symm.trans holds

/-- A chain never becomes true by hiding if its first clause and its rest do not. -/
theorem followedBy_atMost {c : Conjunction} {first first' rest rest' : Evaluation} (h : first'.AtMost first)
    (hRest : rest'.AtMost rest) : (first'.followedBy c rest').AtMost (first.followedBy c rest) := by
  intro b holds value
  cases left' : first'.result with
  | error e => simp [Evaluation.followedBy, left'] at holds
  | ok l' =>
    cases left : first.result with
    | error e => simp [Evaluation.followedBy, left] at value
    | ok l =>
      have below : l' = true → l = true := fun true' => h l (true' ▸ left') left
      cases c with
      | and =>
        -- Both chains go on, as the first of them is true.
        cases l' with
        | false => simp [Evaluation.followedBy, left'] at holds
        | true =>
          rw [below rfl] at left
          simp only [Evaluation.followedBy, left', left] at holds value
          exact hRest b holds value
      -- If the first clause is true without hiding, so is the chain; otherwise it is false on both sides.
      | or =>
        cases l with
        | true =>
          simp only [Evaluation.followedBy, left] at value
          exact (Except.ok.inj value).symm
        | false =>
          have open' : l' = false := Bool.eq_false_iff.2 fun true' => Bool.false_ne_true (below true')
          rw [open'] at left'
          simp only [Evaluation.followedBy, left', left] at holds value
          exact hRest b holds value

/-- **Hiding answers never makes a sentence true.** -/
theorem evaluate_atMost {ctx ctx' : Context} (hides : ctx'.Hides ctx) (s : Sentence) :
    (s.evaluate ctx').AtMost (s.evaluate ctx) := by
  rw [Sentence.evaluate_eq_value, Sentence.evaluate_eq_value]
  induction s with
  | simple x => exact comparison_atMost hides x
  | grouped s ih => exact ih
  | simpleThen x c rest ih => exact followedBy_atMost (comparison_atMost hides x) ih
  | groupedThen s c rest ihInner ih => exact followedBy_atMost ihInner ih

/-- Hiding answers makes no errors: one that is met was to be met with the other answers too. -/
theorem error_of_hides {ctx ctx' : Context} (hides : ctx'.Hides ctx) {s : Sentence} {e : EvalError}
    (h : (s.evaluate ctx').result = .error e) :
    ∃ x ∈ s.expressions, x.identifier ∈ (s.evaluate ctx').lookups ∧ x.decide (ctx x.identifier) = .error e := by
  obtain ⟨before, last, sub, asks⟩ := evaluate_asks ctx' s
  have failed : last.decide (ctx' last.identifier) = .error e := asks.result.symm.trans h
  refine ⟨last, sub.subset (List.mem_append_right before List.mem_cons_self), ?_, ?_⟩
  · rw [asks.lookups]
    simp
  · -- A hidden answer makes a comparison false, which is no error.
    rcases decide_of_hides hides last with same | untrue
    · exact same.symm.trans failed
    · cases untrue.symm.trans failed

/-- **A false sentence stays untrue when answers are hidden.** It may have an error then: that of a comparison which
would have failed with the other answers too. -/
theorem ne_true_of_hides {ctx ctx' : Context} (hides : ctx'.Hides ctx) {s : Sentence}
    (h : (s.evaluate ctx).result = .ok false) :
    (s.evaluate ctx').result ≠ .ok true ∧
      ∀ e, (s.evaluate ctx').result = .error e → ∃ x ∈ s.expressions, x.identifier ∈ (s.evaluate ctx').lookups ∧
        x.decide (ctx x.identifier) = .error e := by
  refine ⟨fun holds => ?_, fun e failed => error_of_hides hides failed⟩
  exact Bool.false_ne_true (evaluate_atMost hides s false holds h)

/-- Those with a pet are not asked for a ghost. If the pet is hidden the ghost is looked for, and there is none. -/
theorem ne_true_of_hidden_pet :
    let answers (pet : Answer) : Context := fun i =>
      if i = "pet" then .ok (.known pet)
      else if i = "food" then .ok (.known (.given (.boolean false)))
      else .ok .unknown
    let shown := answers (.given (.boolean true))
    let hidden := answers .notDisplayed
    let pet : Expression := ⟨"pet", .eq, "true"⟩
    let ghost : Expression := ⟨"ghost", .lt, "1"⟩
    let food : Expression := ⟨"food", .eq, "true"⟩
    let s : Sentence := .groupedThen (.simpleThen pet .or (.simple ghost)) .and (.simple food)
    (hidden.Hides shown ∧ (s.evaluate shown).result = .ok false ∧ (s.evaluate hidden).result ≠ .ok true) ∧
      (s.evaluate hidden).result = .error (.unknownIdentifier "ghost") ∧
      ∃ x ∈ s.expressions, x.identifier ∈ (s.evaluate hidden).lookups ∧
        x.decide (shown x.identifier) = .error (.unknownIdentifier "ghost") := by
  intro answers shown hidden pet ghost food s
  have hides : hidden.Hides shown := by
    intro i
    by_cases same : i = "pet"
    · right
      simp only [hidden, answers, if_pos same]
    · left
      simp only [hidden, shown, answers, if_neg same]
  have value : (s.evaluate shown).result = .ok false := rfl
  have failed : (s.evaluate hidden).result = .error (.unknownIdentifier "ghost") := rfl
  obtain ⟨untrue, explained⟩ := ne_true_of_hides hides value
  exact ⟨⟨hides, value, untrue⟩, failed, explained _ failed⟩

end SurveyFlow
