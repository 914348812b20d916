import SurveyFlow.Proofs.Condition.Recursion

/-!
# A sentence through its comparisons

An evaluation asks the context for the identifiers of comparisons only, so everything about it goes back to
how these are decided. The comparisons that it makes are some of the sentence's, in source order, and its result
is the decision of the last one (`evaluate_asks`). So an error is that of a comparison
(`decide_of_evaluate_error`), contexts in which the comparisons are decided alike give one evaluation
(`evaluate_congr`), and so do contexts that answer alike what is asked for (`evaluate_eq_of_lookups`).
-/

namespace SurveyFlow

/-! ## The comparisons that are made -/

/-- The evaluation decided the comparisons of `before`, one after the other, and has the decision of `last`. -/
structure Evaluation.Asks (ctx : Context) (before : List Expression) (last : Expression)
    (v : Evaluation) : Prop where
  lookups : v.lookups = (before ++ [last]).map Expression.identifier
  decided : ∀ x ∈ before, ∃ b, x.decide (ctx x.identifier) = .ok b
  result : v.result = last.decide (ctx last.identifier)

/-- A comparison asks for its own identifier, and is decided by the answer. -/
theorem asks_comparison (ctx : Context) (x : Expression) : (x.evaluate ctx).Asks ctx [] x :=
  ⟨rfl, nofun, rfl⟩

/-- Where a chain goes on, the comparisons of its first clause have all been decided. -/
theorem asks_followedBy {ctx : Context} {c : Conjunction} {first rest : Evaluation} {before before' : List Expression}
    {last last' : Expression} (h : first.Asks ctx before last) (h' : rest.Asks ctx before' last')
    (goesOn : first.ends c = false) :
    (first.followedBy c rest).Asks ctx (before ++ last :: before') last' := by
  rw [Evaluation.followedBy_of_open goesOn]
  have decided : ∃ b, last.decide (ctx last.identifier) = .ok b := by
    rw [← h.result]
    unfold Evaluation.ends at goesOn
    cases result : first.result with
    | error e =>
      rw [result] at goesOn
      cases goesOn
    | ok left => exact ⟨left, rfl⟩
  refine ⟨?_, ?_, h'.result⟩
  · show first.lookups ++ rest.lookups = _
    rw [h.lookups, h'.lookups]
    simp
  · intro x mem
    rcases List.mem_append.1 mem with old | new
    · exact h.decided x old
    · rcases List.mem_cons.1 new with rfl | new
      · exact decided
      · exact h'.decided x new

/-- **The comparisons of an evaluation** are some of the sentence's, in source order. -/
theorem evaluate_asks (ctx : Context) (s : Sentence) :
    ∃ before last, (before ++ [last]).Sublist s.expressions ∧ (s.evaluate ctx).Asks ctx before last := by
  rw [Sentence.evaluate_eq_value]
  induction s with
  | simple x => exact ⟨[], x, .refl _, asks_comparison ctx x⟩
  | grouped s ih => exact ih
  | simpleThen x c rest ih =>
    rw [Sentence.value, Sentence.expressions]
    cases ends : (x.evaluate ctx).ends c with
    | true =>
      rw [Evaluation.followedBy_of_ends ends]
      exact ⟨[], x, (List.nil_sublist _).cons_cons x, asks_comparison ctx x⟩
    | false =>
      obtain ⟨before, last, sub, asks⟩ := ih
      exact ⟨x :: before, last, sub.cons_cons x, asks_followedBy (asks_comparison ctx x) asks ends⟩
  | groupedThen s c rest ihInner ih =>
    rw [Sentence.value, Sentence.expressions]
    obtain ⟨before, last, sub, asks⟩ := ihInner
    cases ends : (s.value ctx).ends c with
    | true =>
      rw [Evaluation.followedBy_of_ends ends]
      exact ⟨before, last, sub.trans (List.sublist_append_left _ _), asks⟩
    | false =>
      obtain ⟨before', last', sub', asks'⟩ := ih
      refine ⟨before ++ last :: before', last', ?_, asks_followedBy asks asks' ends⟩
      have both := sub.append sub'
      rwa [List.append_assoc, List.singleton_append, ← List.cons_append, ← List.append_assoc] at both

/-- An error of a sentence is that of one of its comparisons. -/
theorem decide_of_evaluate_error {ctx : Context} {s : Sentence} {e : EvalError}
    (h : (s.evaluate ctx).result = .error e) :
    ∃ x ∈ s.expressions, x.decide (ctx x.identifier) = .error e := by
  obtain ⟨before, last, sub, asks⟩ := evaluate_asks ctx s
  have mem : last ∈ s.expressions := sub.subset (List.mem_append_right before List.mem_cons_self)
  exact ⟨last, mem, asks.result.symm.trans h⟩

/-- The first comparison is always made, so that its error ends the evaluation. -/
theorem evaluate_of_first_error {ctx : Context} {s : Sentence} {x : Expression} {e : EvalError}
    (first : s.expressions.head? = some x) (h : x.decide (ctx x.identifier) = .error e) :
    (s.evaluate ctx).result = .error e := by
  rw [Sentence.evaluate_eq_value]
  induction s with
  | simple y =>
    cases first
    exact h
  | grouped s ih => exact ih first
  | simpleThen y c rest ih =>
    cases first
    have failed : (x.evaluate ctx).result = .error e := h
    have ends : (x.evaluate ctx).ends c = true := by rw [Evaluation.ends, failed]
    rw [Sentence.value, Evaluation.followedBy_of_ends ends, failed]
  | groupedThen s c rest ihInner ih =>
    have inside : s.expressions.head? = some x := by
      rw [Sentence.expressions] at first
      cases found : s.expressions with
      | nil => exact absurd (congrArg List.length found) (Nat.ne_of_gt s.size_pos)
      | cons y others =>
        rw [found] at first
        exact first
    have failed := ihInner inside
    have ends : (s.value ctx).ends c = true := by rw [Evaluation.ends, failed]
    rw [Sentence.value, Evaluation.followedBy_of_ends ends, failed]

/-- Only a known answer decides a comparison. -/
theorem known_of_decide_ok {x : Expression} {answer : Except String Resolution} {b : Bool}
    (h : x.decide answer = .ok b) : ∃ known, answer = .ok (.known known) := by
  match answer with
  | .error reason => cases h
  | .ok .unknown => cases h
  | .ok (.known known) => exact ⟨known, rfl⟩

/-- Whatever an evaluation with a value asked for is known. -/
theorem known_of_mem_lookups {ctx : Context} {s : Sentence} {b : Bool} (h : (s.evaluate ctx).result = .ok b) :
    ∀ i ∈ (s.evaluate ctx).lookups, ∃ answer, ctx i = .ok (.known answer) := by
  obtain ⟨before, last, _, asks⟩ := evaluate_asks ctx s
  intro i mem
  rw [asks.lookups, List.map_append, List.mem_append] at mem
  rcases mem with old | new
  · obtain ⟨x, inBefore, rfl⟩ := List.mem_map.1 old
    obtain ⟨b', decided⟩ := asks.decided x inBefore
    exact known_of_decide_ok decided
  · rw [List.mem_singleton.1 new]
    exact known_of_decide_ok (asks.result.symm.trans h)

/-! ## Two contexts -/

/-- **Only the comparisons count.** In two contexts that decide every comparison of a sentence alike, it has the
same value and asks for the same identifiers. -/
theorem evaluate_congr {ctx ctx' : Context} {s : Sentence}
    (h : ∀ x ∈ s.expressions, x.decide (ctx x.identifier) = x.decide (ctx' x.identifier)) :
    s.evaluate ctx = s.evaluate ctx' := by
  rw [Sentence.evaluate_eq_value, Sentence.evaluate_eq_value]
  induction s with
  | simple x =>
    have first := h x (List.mem_singleton_self x)
    simp only [Sentence.value, Expression.evaluate, first]
  | grouped s ih => exact ih h
  | simpleThen x c rest ih =>
    rw [Sentence.expressions, List.forall_mem_cons] at h
    simp only [Sentence.value, Expression.evaluate, h.1, ih h.2]
  | groupedThen s c rest ihInner ih =>
    rw [Sentence.expressions, List.forall_mem_append] at h
    simp only [Sentence.value, ihInner h.1, ih h.2]

/-- Two evaluations of a chain agree, if those of its first clause do, and those of its rest where the first one
goes on. -/
theorem followedBy_congr {c : Conjunction} {first first' rest rest' : Evaluation}
    {P : String → Prop} (h : ∀ i ∈ (first.followedBy c rest).lookups, P i)
    (same : (∀ i ∈ first.lookups, P i) → first = first') (sameRest : (∀ i ∈ rest.lookups, P i) → rest = rest') :
    first.followedBy c rest = first'.followedBy c rest' := by
  cases ends : first.ends c with
  | true =>
    rw [Evaluation.followedBy_of_ends ends] at h ⊢
    rw [← same h, Evaluation.followedBy_of_ends ends]
  | false =>
    rw [Evaluation.followedBy_of_open ends] at h
    have both := List.forall_mem_append.1 h
    -- The chain goes on, so both evaluations were made in full.
    rw [← same both.1, ← sameRest both.2]

/-- **Only what is asked for counts.** A context that answers like the first one what an evaluation asked this
one for gives the same evaluation. -/
theorem evaluate_eq_of_lookups {ctx ctx' : Context} {s : Sentence}
    (h : ∀ i ∈ (s.evaluate ctx).lookups, ctx i = ctx' i) : s.evaluate ctx = s.evaluate ctx' := by
  rw [Sentence.evaluate_eq_value] at h
  rw [Sentence.evaluate_eq_value, Sentence.evaluate_eq_value]
  have comparison : ∀ x : Expression, (∀ i ∈ (x.evaluate ctx).lookups, ctx i = ctx' i) →
      x.evaluate ctx = x.evaluate ctx' := by
    intro x h
    have answer : ctx x.identifier = ctx' x.identifier := h x.identifier (List.mem_singleton_self _)
    simp only [Expression.evaluate, answer]
  induction s with
  | simple x => exact comparison x h
  | grouped s ih => exact ih h
  | simpleThen x c rest ih => exact followedBy_congr h (comparison x) ih
  | groupedThen s c rest ihInner ih => exact followedBy_congr h ihInner ih

/-- A context that knows all that another one knows gives the evaluations that have a value there. -/
theorem evaluate_eq_of_known {ctx ctx' : Context} {s : Sentence} {b : Bool} (value : (s.evaluate ctx).result = .ok b)
    (agree : ∀ i answer, ctx i = .ok (.known answer) → ctx' i = .ok (.known answer)) :
    s.evaluate ctx = s.evaluate ctx' := by
  apply evaluate_eq_of_lookups
  intro i asked
  obtain ⟨answer, known⟩ := known_of_mem_lookups value i asked
  rw [known, agree i answer known]

end SurveyFlow
