import SurveyFlow.Condition.Suspension
import SurveyFlow.Proofs.Condition.Recursion

/-!
# Answers that arrive one at a time

An evaluation that waits for its answers keeps what is left to do in a `Suspension`. What such a stop stands for is
again an evaluation (`Suspension.value`): that of the comparison that waits, followed by the rests of the chains around
it. An answer that arrives leads to a stop that stands for the rest of it (`value_eq_resume`). So an evaluation with
answers that arrive asks for the same identifiers, in the same order, as one that has all answers at hand, and has the
same result (`evaluateWith_asks_alike`).
-/

namespace SurveyFlow

/-! ## What a stop stands for -/

/-- The evaluation of chains, the innermost one first, that have gone on to `first` and may go on with the rests of
`pending`. -/
def Evaluation.within (ctx : Context) (first : Evaluation) : List (Conjunction × Sentence) → Evaluation
  | [] => first
  | (c, rest) :: pending => (first.followedBy c (rest.value ctx)).within ctx pending

/-- What is left of an evaluation at a stop: the comparison that waits, and the chains around it. -/
def Suspension.value (ctx : Context) (s : Suspension) : Evaluation :=
  (s.waiting.evaluate ctx).within ctx s.pending

variable {ctx : Context} {pending : List (Conjunction × Sentence)}

/-- An error ends all chains around it. -/
theorem within_of_error {e : EvalError} (asked : List String) :
    (⟨.error e, asked⟩ : Evaluation).within ctx pending = ⟨.error e, asked⟩ := by
  induction pending with
  | nil => rfl
  | cons p pending ih =>
    rw [Evaluation.within, Evaluation.followedBy_of_ends rfl]
    exact ih

/-- What was asked for before stays in front, through all chains around. -/
theorem within_after (first : Evaluation) (asked : List String) :
    (first.after asked).within ctx pending = (first.within ctx pending).after asked := by
  induction pending generalizing first with
  | nil => rfl
  | cons p pending ih => rw [Evaluation.within, Evaluation.followedBy_after, ih, Evaluation.within]

namespace Suspension

/-- The first stop of a sentence stands for the whole of it. -/
theorem value_enter (s : Sentence) : (enter pending s).value ctx = (s.value ctx).within ctx pending := by
  -- The evaluation goes into the first clause until it meets a comparison, and collects the rests on its way.
  induction s generalizing pending with
  | simple e => rfl
  | grouped s ih => exact ih
  | simpleThen e c rest _ => rfl
  | groupedThen s c rest ih _ => exact ih

/-- What is left of an evaluation that has come to a result or to a stop. -/
def left (ctx : Context) : Except EvalError Bool ⊕ Suspension → Evaluation
  | .inl result => ⟨result, []⟩
  | .inr next => next.value ctx

/-- A value that is passed outward ends the chains that it settles, and goes on in the first other one. -/
theorem left_settle (value : Bool) :
    left ctx ((settle value pending).map .ok id) = (⟨.ok value, []⟩ : Evaluation).within ctx pending := by
  induction pending with
  | nil => rfl
  | cons p pending ih =>
    obtain ⟨c, rest⟩ := p
    -- A value ends a chain exactly if its conjunction is settled by it.
    have same : (⟨.ok value, []⟩ : Evaluation).ends c = c.settledBy value := rfl
    rw [Evaluation.within, settle]
    cases settled : c.settledBy value with
    | true =>
      rw [Evaluation.followedBy_of_ends (same.trans settled), if_pos rfl]
      exact ih
    | false =>
      rw [Evaluation.followedBy_of_open (same.trans settled), if_neg Bool.false_ne_true]
      exact value_enter rest

/-- An answer decides the comparison that waits, and its value is passed outward. -/
theorem left_resume (s : Suspension) (answer : Except String Resolution) :
    left ctx (s.resume answer) = (⟨s.waiting.decide answer, []⟩ : Evaluation).within ctx s.pending := by
  unfold resume
  cases s.waiting.decide answer with
  -- An error ends all chains around, and nothing is left to do.
  | error e => exact (within_of_error []).symm
  | ok value =>
    rw [← left_settle]
    dsimp only
    cases settle value s.pending <;> rfl

/-- **One answer.** A stop stands for one lookup, and behind it for what the answer leads to. -/
theorem value_eq_resume (s : Suspension) :
    s.value ctx = (left ctx (s.resume (ctx s.waiting.identifier))).after [s.waiting.identifier] := by
  rw [left_resume, ← within_after]
  rfl

end Suspension

/-! ## Lookups that take effect -/

section

variable {m : Type → Type} [Monad m]

/-- Whatever else the lookup of an identifier does, it arrives at the answer of the context. -/
def AnswersLike (ctx : Context) (lookup : String → m (Except String Resolution)) (i : String) : Prop :=
  lookup i = (fun _ => ctx i) <$> lookup i

/-- Looks up the identifiers of an evaluation, one after the other and each as often as it is asked for, and then has
its result. -/
def Evaluation.asking (lookup : String → m (Except String Resolution)) (v : Evaluation) :
    m (Except EvalError Bool) := do
  v.lookups.forM fun i => discard (lookup i)
  return v.result

/-- The lookups, each of them written down before it is made. -/
def noted (lookup : String → m (Except String Resolution)) (i : String) :
    StateT (List String) m (Except String Resolution) := do
  modify (· ++ [i])
  lookup i

variable [LawfulMonad m] {lookup : String → m (Except String Resolution)}

/-- The lookup in front is made first. -/
theorem asking_after (v : Evaluation) (i : String) :
    (v.after [i]).asking lookup = lookup i >>= fun _ => v.asking lookup := by
  simp [Evaluation.asking, Evaluation.after, discard, map_const]

/-- Only what the lookup does is left to be told by it; its answer is known. -/
theorem bind_of_answersLike {α : Type} {i : String} (h : AnswersLike ctx lookup i)
    (k : Except String Resolution → m α) : lookup i >>= k = lookup i >>= fun _ => k (ctx i) := by
  rw [h, bind_map_left, bind_map_left]

/-- A suspended evaluation makes the lookups that it stands for. Induction on the stops, each answer leading to the
next one. -/
theorem run_eq_asking (s : Suspension) (alike : ∀ i ∈ (s.value ctx).lookups, AnswersLike ctx lookup i) :
    s.run lookup = (s.value ctx).asking lookup := by
  induction s using Suspension.run.induct with
  | case1 s ih =>
    rw [Suspension.value_eq_resume] at alike ⊢
    -- The lookup of this stop is answered like the context, and so are those behind it.
    obtain ⟨now, later⟩ := List.forall_mem_cons.1 alike
    rw [Suspension.run, bind_of_answersLike now, asking_after]
    -- Both sides make this lookup first, so they are compared behind it.
    congr 1
    funext _
    split
    · next result found =>
      rw [found]
      simp [Suspension.left, Evaluation.asking]
    · next next found =>
      rw [found] at later ⊢
      exact ih _ next found later

/-- An evaluation that waits for its answers makes the lookups of one that has them, and comes to its result. -/
theorem evaluateWith_eq_asking {s : Sentence}
    (alike : ∀ i ∈ (s.evaluate ctx).lookups, AnswersLike ctx lookup i) :
    s.evaluateWith lookup = (s.evaluate ctx).asking lookup := by
  -- With no chain around it, the first stop stands for the sentence.
  have whole : (Suspension.enter [] s).value ctx = s.evaluate ctx :=
    (Suspension.value_enter s).trans (s.evaluate_eq_value ctx).symm
  rw [← whole] at alike ⊢
  exact run_eq_asking _ alike

/-! ## What is written down -/

/-- A noted lookup is written down behind the others. -/
theorem run_noted (i : String) (asked : List String) :
    (noted lookup i).run asked = (fun answer => (answer, asked ++ [i])) <$> lookup i := by
  simp [noted]

theorem answersLike_noted {i : String} (h : AnswersLike ctx lookup i) : AnswersLike ctx (noted lookup) i := by
  refine StateT.ext fun asked => ?_
  rw [StateT.run_map, run_noted, h]
  simp only [Functor.map_map]

/-- The lookups of an evaluation are written down in order. -/
theorem asking_noted (v : Evaluation) (asked : List String) :
    (v.asking (noted lookup)).run asked = (fun result => (result, asked ++ v.lookups)) <$> v.asking lookup := by
  obtain ⟨result, lookups⟩ := v
  induction lookups generalizing asked with
  | nil => simp [Evaluation.asking]
  | cons i lookups ih =>
    -- The first lookup is taken off the front on both sides.
    have split : (⟨result, i :: lookups⟩ : Evaluation) = (⟨result, lookups⟩ : Evaluation).after [i] := rfl
    rw [split, asking_after (m := m), asking_after, StateT.run_bind, run_noted, bind_map_left, map_bind]
    simp [ih, Evaluation.after]

/-- **Answers that arrive one at a time change nothing.** Where the lookups that an evaluation makes answer like the
context, an evaluation that waits for them makes just these, in the same order, and comes to the same result. -/
theorem evaluateWith_asks_alike {s : Sentence}
    (alike : ∀ i ∈ (s.evaluate ctx).lookups, AnswersLike ctx lookup i) :
    s.evaluateWith lookup = (s.evaluate ctx).asking lookup ∧
      ∀ asked, (s.evaluateWith (noted lookup)).run asked =
        (fun result => (result, asked ++ (s.evaluate ctx).lookups)) <$> s.evaluateWith lookup := by
  refine ⟨evaluateWith_eq_asking alike, fun asked => ?_⟩
  rw [evaluateWith_eq_asking alike, evaluateWith_eq_asking fun i mem => answersLike_noted (alike i mem)]
  exact asking_noted _ asked

end

/-- Each answer takes one unit of time, and the hours cannot be looked up. -/
theorem evaluateWith_asks_alike_slowly :
    let ctx : Context := fun i =>
      if i = "home" then .ok (.known .notDisplayed)
      else if i = "mood" then .ok (.known (.given (.choice "1")))
      else .error "offline"
    let lookup : String → StateM Nat (Except String Resolution) := fun i => do
      modify (· + 1)
      return ctx i
    let home : Expression := ⟨"home", .eq, "true"⟩
    let mood : Expression := ⟨"mood", .eq, "1"⟩
    let hours : Expression := ⟨"hours", .lt, "6"⟩
    let s : Sentence := .groupedThen (.simpleThen home .or (.simple mood)) .and (.simpleThen hours .or (.simple home))
    (∀ i ∈ (s.evaluate ctx).lookups, AnswersLike ctx lookup i) ∧
      s.evaluate ctx = ⟨.error (.contextFailure "offline"), ["home", "mood", "hours"]⟩ ∧
      (s.evaluateWith lookup).run 0 = (.error (.contextFailure "offline"), 3) ∧
      ((s.evaluateWith (noted lookup)).run []).run 0 =
        ((.error (.contextFailure "offline"), ["home", "mood", "hours"]), 3) := by
  intro ctx lookup home mood hours s
  have alike : ∀ i ∈ (s.evaluate ctx).lookups, AnswersLike ctx lookup i := fun i _ => rfl
  obtain ⟨same, written⟩ := evaluateWith_asks_alike alike
  refine ⟨alike, rfl, ?_, ?_⟩
  · rw [same]
    rfl
  · rw [written, same]
    rfl

end SurveyFlow
