import SurveyFlow.Proofs.Condition.Comparisons
import SurveyFlow.Proofs.Survey.Replay

/-!
# What the outcomes of a walk depend on

Two responses that read alike wherever the walk of the first one shows a prompt or a set
(`AlikeWhereShown`) have the same outcomes (`outcomes_eq_of_alikeWhereShown`). An answer counts as what later
conditions see of it (`Prompt.reading`), and two answers are alike if no comparison tells them apart
(`Answer.Alike`). What was uploaded for hidden prompts and sets, and for ids that are not declared, plays no
part.
-/

namespace SurveyFlow

/-! ## Numbers with one place

Comparisons see the place of a number among the others, which both zeros share. -/

namespace Double

variable {x y : Double}

/-- Numbers of one place have one magnitude. -/
theorem magnitude_eq_of_rank (h : x.rank = y.rank) : x.magnitude = y.magnitude := by
  unfold rank at h
  split at h <;> split at h <;> omega

theorem units_eq_zero_of_magnitude (h : x.magnitude = 0) : x.units = 0 := by
  rw [units, h]
  rfl

theorem signedUnits_eq_of_rank (h : x.rank = y.rank) : x.signedUnits = y.signedUnits := by
  have magnitude := magnitude_eq_of_rank h
  have units : x.units = y.units := by rw [Double.units, Double.units, magnitude]
  unfold rank at h
  unfold signedUnits
  rw [units]
  cases neg : x.isNegative <;> cases neg' : y.isNegative <;> simp only [neg, neg'] at h ⊢
  -- Numbers of one place and two signs are zeros.
  · have zero : y.units = 0 := units_eq_zero_of_magnitude (by simp at h; omega)
    simp [zero]
  · have zero : y.units = 0 := units_eq_zero_of_magnitude (by simp at h; omega)
    simp [zero]

end Double

/-- **No comparator tells numbers of one place apart.** -/
theorem holdsOfNumbers_congr {x y : Double} (h : x.rank = y.rank) (comparator : Comparator) (b : Double) :
    comparator.holdsOfNumbers x b = comparator.holdsOfNumbers y b := by
  have magnitude := Double.magnitude_eq_of_rank h
  have nan : x.isNaN = y.isNaN := by rw [Double.isNaN, Double.isNaN, magnitude]
  have infinite : x.isInfinite = y.isInfinite := by rw [Double.isInfinite, Double.isInfinite, magnitude]
  have units : x.units = y.units := by rw [Double.units, Double.units, magnitude]
  -- Equality up to a tolerance reads the number as an exact value, the orders read its place.
  have near : nearlyEqual x b = nearlyEqual y b := by
    rw [nearlyEqual, nearlyEqual, tolerance, tolerance, Double.distance, Double.distance, nan, infinite, units,
      Double.signedUnits_eq_of_rank h]
  have less : x.lt b = y.lt b := by rw [Double.lt, Double.lt, nan, h]
  have more : b.lt x = b.lt y := by rw [Double.lt, Double.lt, nan, h]
  have atMost : x.le b = y.le b := by rw [Double.le, Double.le, nan, h]
  have atLeast : b.le x = b.le y := by rw [Double.le, Double.le, nan, h]
  cases comparator with
  | eq => exact near
  | notEq => exact congrArg (!·) near
  | lt => exact less
  | gt => exact more
  | lte => exact atMost
  | gte => exact atLeast

/-! ## Answers that no condition tells apart -/

/-- The answers are equal, or they are numbers of one place. -/
inductive Answer.Alike : Answer → Answer → Prop where
  | refl (a : Answer) : Alike a a
  | number {x y : Double} : x.rank = y.rank → Alike (.given (.number x)) (.given (.number y))

/-- A comparison does not tell apart answers that are alike. -/
theorem compare_congr {a b : Answer} (h : a.Alike b) (x : Expression) :
    x.compare (.known a) = x.compare (.known b) := by
  cases h with
  | refl => rfl
  | @number u v same =>
    -- Only a number has an answer beside itself that is like it; only a literal that is a number is compared with it.
    have holds : ∀ literal, x.comparator.holds (.number u) literal = x.comparator.holds (.number v) literal := by
      intro literal
      cases literal with
      | number w =>
        rw [Comparator.holds, Comparator.holds]
        exact holdsOfNumbers_congr same x.comparator w
      | text _ => rfl
      | choice _ => rfl
      | boolean _ => rfl
    simp only [Expression.compare, TypedValue.type, holds]

/-- The answer sets have entries for the same identifiers, and these are alike. -/
def AnswerSet.Alike (s t : AnswerSet) : Prop :=
  ∀ id, Option.Rel Answer.Alike (s.get? id) (t.get? id)

theorem AnswerSet.Alike.insert {s t : AnswerSet} (h : s.Alike t) (id : String) {a b : Answer} (alike : a.Alike b) :
    (s.insert id a).Alike (t.insert id b) :=
  rel_get?_insert h id alike

theorem AnswerSet.Alike.empty : empty.Alike empty :=
  fun _ => .none

/-- Two contexts decide every comparison alike. -/
def Context.Alike (ctx ctx' : Context) : Prop :=
  ∀ x : Expression, x.decide (ctx x.identifier) = x.decide (ctx' x.identifier)

/-- Sets that are alike decide every comparison alike, also on what they have no entry for. -/
theorem AnswerSet.Alike.resolve {s t : AnswerSet} (h : s.Alike t) : Context.Alike s.resolve t.resolve := by
  intro x
  have entry := h x.identifier
  unfold AnswerSet.resolve
  generalize s.get? x.identifier = a, t.get? x.identifier = b at entry
  cases entry with
  | none => rfl
  | some alike => exact compare_congr alike x

/-- So do two layers, as the inner ones have entries for the same identifiers. -/
theorem AnswerSet.Alike.layered {inner inner' outer outer' : AnswerSet} (h : inner.Alike inner')
    (h' : outer.Alike outer') : Context.Alike (layered inner outer) (layered inner' outer') := by
  intro x
  have entry := h x.identifier
  unfold SurveyFlow.layered
  generalize inner.get? x.identifier = a, inner'.get? x.identifier = b at entry
  cases entry with
  | none => exact h'.resolve x
  | some alike => exact compare_congr alike x

/-- The status of an item depends on the evaluation of its condition, if that can be read. -/
theorem conditionStatus_of_evaluate {ctx ctx' : Context} (policy : Policy) {condition : Option String}
    (h : ∀ text s, condition = some text → parseCondition text = .ok s → s.evaluate ctx = s.evaluate ctx') :
    conditionStatus policy ctx condition = conditionStatus policy ctx' condition := by
  cases condition with
  | none => rfl
  | some text =>
    unfold conditionStatus evaluateCondition
    dsimp only
    cases read : parseCondition text with
    | error e => rfl
    | ok s =>
      dsimp only
      rw [h text s rfl read]

/-- In contexts that are alike an item has one status. -/
theorem conditionStatus_congr {ctx ctx' : Context} (h : ctx.Alike ctx') (policy : Policy)
    (condition : Option String) : conditionStatus policy ctx condition = conditionStatus policy ctx' condition :=
  conditionStatus_of_evaluate policy fun _ _ _ _ => evaluate_congr fun x _ => h x

/-! ## Responses that read alike

A place of a walk is given by what is before it: the items before an item, or also the prompts before a prompt
of a set. Nothing is asked of what a place that is not shown was given. -/

/-- From a point of the walk of `r` on, where the answers at the top level are `answers`, the responses read
alike wherever a prompt or a set is shown. -/
structure AlikeWhereShown (policy : Policy) (r r' : Response) (answers : AnswerSet) (items : List Item) : Prop where
  /-- A prompt at the top level that is shown has answers that are alike. -/
  prompt : ∀ before p after, items = before ++ .prompt p :: after →
    (conditionStatus policy (replayItems policy r answers before).2.resolve p.condition).isDisplayed = true →
    (p.reading (r.raw? p.id)).Alike (p.reading (r'.raw? p.id))
  /-- A set that is shown has as many iterations. -/
  count : ∀ before s after, items = before ++ .set s :: after →
    (conditionStatus policy (replayItems policy r answers before).2.resolve s.condition).isDisplayed = true →
    (r.readIterations s.id).length = (r'.readIterations s.id).length
  /-- A prompt that is shown in an iteration of such a set has answers in it that are alike. -/
  inner : ∀ before s after, items = before ++ .set s :: after →
    (conditionStatus policy (replayItems policy r answers before).2.resolve s.condition).isDisplayed = true →
    ∀ index uploaded uploaded', (r.readIterations s.id)[index]? = some uploaded →
      (r'.readIterations s.id)[index]? = some uploaded' → ∀ first p rest, s.prompts = first ++ p :: rest →
        let outer := (replayItems policy r answers before).2
        let scope := (replayPrompts policy outer index uploaded .empty first).2
        (conditionStatus policy (layered scope outer) p.condition).isDisplayed = true →
        (p.reading (uploaded.lookup p.id)).Alike (p.reading (uploaded'.lookup p.id))

/-- Behind the first item the responses still read alike. -/
theorem AlikeWhereShown.tail {policy : Policy} {r r' : Response} {answers : AnswerSet} {item : Item}
    {items : List Item} (h : AlikeWhereShown policy r r' answers (item :: items)) :
    AlikeWhereShown policy r r' (replayItem policy r answers item).2 items where
  prompt before p after split := h.prompt (item :: before) p after (congrArg (item :: ·) split)
  count before s after split := h.count (item :: before) s after (congrArg (item :: ·) split)
  inner before s after split := h.inner (item :: before) s after (congrArg (item :: ·) split)

/-- A prompt in contexts that are alike has one outcome, and leaves answers that are alike, if its raw answers
are read alike where it is shown. -/
theorem replayPrompt_congr (policy : Policy) {ctx ctx' : Context} (h : ctx.Alike ctx') (p : Prompt)
    (iteration : Option Nat) {raw raw' : Option Json}
    (shown : (conditionStatus policy ctx p.condition).isDisplayed = true →
      (p.reading raw).Alike (p.reading raw')) :
    (replayPrompt policy ctx p iteration raw).1.outcome = (replayPrompt policy ctx' p iteration raw').1.outcome ∧
      (replayPrompt policy ctx p iteration raw).2.Alike (replayPrompt policy ctx' p iteration raw').2 := by
  have status := conditionStatus_congr h policy p.condition
  unfold replayPrompt
  dsimp only
  rw [Visit.outcome_mk, Visit.outcome_mk, answer_of_settle, answer_of_settle, ← status]
  refine ⟨rfl, ?_⟩
  cases displayed : (conditionStatus policy ctx p.condition).isDisplayed with
  | true => exact shown displayed
  -- Where it is hidden nothing is asked of the raw answers, as both are masked.
  | false => exact .refl .notDisplayed

/-- The outcomes of an iteration. Induction on the prompts, the scopes of the two iterations being alike. -/
theorem outcomes_replayPrompts_congr {policy : Policy} {outer outer' : AnswerSet} (h : outer.Alike outer')
    {index : Nat} {uploaded uploaded' : Members} {scope scope' : AnswerSet} (h' : scope.Alike scope')
    {prompts : List Prompt}
    (shown : ∀ first p rest, prompts = first ++ p :: rest →
      (conditionStatus policy (layered (replayPrompts policy outer index uploaded scope first).2 outer)
        p.condition).isDisplayed = true →
      (p.reading (uploaded.lookup p.id)).Alike (p.reading (uploaded'.lookup p.id))) :
    (replayPrompts policy outer index uploaded scope prompts).1.map Visit.outcome =
      (replayPrompts policy outer' index uploaded' scope' prompts).1.map Visit.outcome := by
  induction prompts generalizing scope scope' with
  | nil => rfl
  | cons p prompts ih =>
    obtain ⟨outcome, alike⟩ := replayPrompt_congr policy (h'.layered h) p (some index)
      (shown [] p prompts rfl)
    have others := ih (h'.insert p.id alike) fun first q rest split =>
      shown (p :: first) q rest (congrArg (p :: ·) split)
    exact List.cons_eq_cons.2 ⟨outcome, others⟩

/-- The outcomes of all iterations, if there are as many and each two have the same. -/
theorem outcomes_replayIterations_congr {policy : Policy} {outer outer' : AnswerSet} {prompts : List Prompt}
    (start : Nat) {iterations iterations' : List Members} (count : iterations.length = iterations'.length)
    (each : ∀ index uploaded uploaded', iterations[index]? = some uploaded → iterations'[index]? = some uploaded' →
      (replayPrompts policy outer (start + index) uploaded .empty prompts).1.map Visit.outcome =
        (replayPrompts policy outer' (start + index) uploaded' .empty prompts).1.map Visit.outcome) :
    (replayIterations policy outer prompts start iterations).map Visit.outcome =
      (replayIterations policy outer' prompts start iterations').map Visit.outcome := by
  induction iterations generalizing start iterations' with
  | nil =>
    rw [List.eq_nil_of_length_eq_zero count.symm]
    rfl
  | cons uploaded more ih =>
    -- Both have another iteration, and it has the number of the first one left.
    cases iterations' with
    | nil => cases count
    | cons uploaded' more' =>
      have first := each 0 uploaded uploaded' rfl rfl
      rw [Nat.add_zero] at first
      have others := ih (start + 1) (Nat.succ.inj count) fun index next next' found found' => by
        have := each (index + 1) next next' found found'
        rwa [show start + (index + 1) = start + 1 + index by omega] at this
      rw [replayIterations, replayIterations, List.map_append, List.map_append, first, others]

/-- A set that is hidden has the same outcomes whatever was uploaded for it; one that is shown is read alike. -/
theorem outcomes_replaySet_congr {policy : Policy} {r r' : Response} {answers answers' : AnswerSet}
    (h : answers.Alike answers') {s : RepeatableSet} {items : List Item}
    (alike : AlikeWhereShown policy r r' answers (.set s :: items)) :
    (replaySet policy s r answers).map Visit.outcome = (replaySet policy s r' answers').map Visit.outcome := by
  have status := conditionStatus_congr h.resolve policy s.condition
  unfold replaySet
  dsimp only
  rw [← status, List.map_cons, List.map_cons, Visit.outcome_mk, Visit.outcome_mk]
  refine List.cons_eq_cons.2 ⟨rfl, ?_⟩
  cases displayed : (conditionStatus policy answers.resolve s.condition).isDisplayed with
  | false =>
    -- Hidden prompts have one outcome, whatever the iterations are.
    rw [if_neg Bool.false_ne_true, if_neg Bool.false_ne_true]
  | true =>
    rw [if_pos rfl, if_pos rfl, iterations_of_settleSet, iterations_of_settleSet]
    apply outcomes_replayIterations_congr 0 (alike.count [] s items rfl displayed)
    intro index uploaded uploaded' found found'
    rw [Nat.zero_add]
    -- What is shown in an iteration of the set is asked for at the head of the items.
    have shown := alike.inner [] s items rfl displayed index uploaded uploaded' found found'
    exact outcomes_replayPrompts_congr h .empty shown

/-- The outcomes of items. Induction on the items, the answers of the two walks being alike. -/
theorem outcomes_replayItems_congr {policy : Policy} {r r' : Response} {answers answers' : AnswerSet}
    (h : answers.Alike answers') {items : List Item} (alike : AlikeWhereShown policy r r' answers items) :
    (replayItems policy r answers items).1.map Visit.outcome =
      (replayItems policy r' answers' items).1.map Visit.outcome := by
  induction items generalizing answers answers' with
  | nil => rfl
  | cons item items ih =>
    cases item with
    | prompt p =>
      obtain ⟨outcome, reads⟩ := replayPrompt_congr policy h.resolve p none
        (alike.prompt [] p items rfl)
      have others := ih (h.insert p.id reads) alike.tail
      exact List.cons_eq_cons.2 ⟨outcome, others⟩
    -- A set leaves nothing behind, so the answers outside stay alike.
    | set s =>
      have inside := outcomes_replaySet_congr h alike
      have others := ih h alike.tail
      rw [replayItems, replayItems]
      dsimp only
      rw [List.map_append, List.map_append]
      exact congr (congrArg (· ++ ·) inside) others

/-- **The outcomes depend on what is shown and nothing else.** Two responses to a survey that read alike wherever
the walk of the first one shows a prompt or a set have the same outcomes, whatever the caches hold. -/
theorem outcomes_eq_of_alikeWhereShown (policy : Policy) {cache cache' : Cache} (reachable : cache.Reachable)
    (reachable' : cache'.Reachable) {d : Definition} {r r' : Response} (own : r.survey = d.id)
    (own' : r'.survey = d.id) (alike : AlikeWhereShown policy r r' .empty d.items) :
    ∃ report report', (walk policy cache d r).1 = .ok report ∧ (walk policy cache' d r').1 = .ok report' ∧
      report.outcomes = report'.outcomes :=
  ⟨_, _, walk_eq_replay policy r reachable.sound own, walk_eq_replay policy r' reachable'.sound own',
    outcomes_replayItems_congr .empty alike⟩

/-- A survey that asks those who slept little whether they are tired, and all for their naps. -/
def sleepSurvey : Definition :=
  ⟨"sleep", none,
    [.prompt ⟨"slept", .number, none, false, []⟩,
      .prompt ⟨"tired", .boolean, some "slept < 6", false, []⟩,
      .set ⟨"naps", none, [⟨"minutes", .number, none, false, []⟩]⟩]⟩

/-- A participant who slept enough, and is tired all the same. -/
def sleepUpload : Response :=
  ⟨"sleep", [("slept", .number (.integer 8)), ("tired", .bool true),
    ("naps", .array [.object [("minutes", .number (.integer 20))]])]⟩

/-- The same hours and minutes as texts, nothing on being tired, and an answer to nothing that is asked. -/
def sleepTexts : Response :=
  ⟨"sleep", [("slept", .string " 8"), ("mood", .string "fine"),
    ("naps", .array [.object [("minutes", .string "20")]])]⟩

/-- The two uploads have the same outcomes. -/
theorem outcomes_of_hidden_answer :
    ∃ report report', (walk .show (.new 4) sleepSurvey sleepUpload).1 = .ok report ∧
      (walk .show (.new 4) sleepSurvey sleepTexts).1 = .ok report' ∧ report.outcomes = report'.outcomes := by
  have hours : Prompt.reading ⟨"slept", .number, none, false, []⟩ (some (.number (.integer 8))) =
      Prompt.reading ⟨"slept", .number, none, false, []⟩ (some (.string " 8")) := by
    decide +kernel
  have minutes : Prompt.reading ⟨"minutes", .number, none, false, []⟩ (some (.number (.integer 20))) =
      Prompt.reading ⟨"minutes", .number, none, false, []⟩ (some (.string "20")) := by
    decide +kernel
  refine outcomes_eq_of_alikeWhereShown .show (.new 4) (.new 4) rfl rfl ⟨?prompt, ?count, ?inner⟩
  case prompt =>
    intro before p after split shown
    match before with
    | [] =>
      cases split
      exact hours ▸ .refl _
    | [_] =>
      cases split
      exact absurd shown (by decide +kernel)
    | [_, _] => cases split
    | _ :: _ :: _ :: before => cases before <;> cases split
  case count =>
    intro before s after split _
    match before with
    | [] => cases split
    | [_] => cases split
    | [_, _] =>
      cases split
      rfl
    | _ :: _ :: _ :: before => cases before <;> cases split
  case inner =>
    intro before s after split _ index uploaded uploaded' found found' first p rest within
    match before with
    | [] => cases split
    | [_] => cases split
    | [_, _] =>
      cases split
      match index with
      | 0 =>
        cases found
        cases found'
        match first with
        | [] =>
          cases within
          exact fun _ => minutes ▸ .refl _
        | _ :: first => cases first <;> cases within
      | _ + 1 => cases found
    | _ :: _ :: _ :: before => cases before <;> cases split

end SurveyFlow
