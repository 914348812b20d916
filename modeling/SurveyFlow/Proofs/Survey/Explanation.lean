import SurveyFlow.Proofs.Condition.Comparisons
import SurveyFlow.Proofs.Survey.Scoping

/-!
# Undetermined statuses are foreseen

Where a walk cannot decide an item, the check of the definition has an issue of that item that says why
(`undetermined_is_explained`). The two traversals go side by side: at every place the answers of the walk
record the prompts that the check sees (`Records`), so an error of an evaluation is the issue of one of the
comparisons (`issue_of_undetermined`).
-/

namespace SurveyFlow

/-- The issue says why a condition has no value, the reason being given by its wording: the condition cannot be
read, an identifier of it names no prompt that it sees, or a comparison does not fit the type of its prompt. -/
def IssueKind.Explains (text : String) : IssueKind → Prop
  | unparsable e => e.message = text
  | unknownReference i | forwardReference i | outsideRepeatableSet i | notAPrompt i =>
    text = "evaluation error: unknown identifier '" ++ i ++ "'"
  | invalidComparison i c => text = "evaluation error: " ++ (invalidComparison i c).message
  | literalTypeMismatch i l => text = "evaluation error: " ++ (literalTypeMismatch i l).message
  | duplicateId | unknownChoice _ _ => False

/-! ## One condition -/

/-- Wherever an invisible identifier is declared, if at all, its issue explains why a walk does not know it. -/
theorem explains_unresolved (d : Definition) (v : Visible) (i : String) :
    (v.unresolved d i).Explains (ConditionError.evaluation (.unknownIdentifier i)).message := by
  have wording : (ConditionError.evaluation (.unknownIdentifier i)).message =
      "evaluation error: unknown identifier '" ++ i ++ "'" := by
    -- Both put the text together, from other pieces.
    have joined : "evaluation error: " ++ "unknown identifier '" = "evaluation error: unknown identifier '" := by
      decide
    show "evaluation error: " ++ ("unknown identifier '" ++ i ++ "'") = _
    rw [← String.append_assoc, ← String.append_assoc, joined]
  unfold Visible.unresolved
  split
  · exact wording
  · exact wording
  · exact wording
  · split
    · exact wording
    · exact wording

/-- Reading a literal fails with the identifier and the comparator, or with the identifier and the literal. -/
theorem error_of_coerceLiteral {type : ValueType} {x : Expression} {e : EvalError}
    (h : coerceLiteral type x = .error e) :
    e = .invalidComparison x.identifier x.comparator ∨ e = .literalTypeMismatch x.identifier x.literal := by
  unfold coerceLiteral at h
  split at h
  · exact .inl (Except.error.inj h).symm
  · split at h
    · split at h
      · cases h
      · exact .inr (Except.error.inj h).symm
    · cases h
    · cases h
    · split at h
      · cases h
      · split at h
        · cases h
        · exact .inr (Except.error.inj h).symm

/-- The literal is read by the type of the answer, and then the two values are compared. -/
theorem compare_given (x : Expression) (value : TypedValue) :
    x.compare (.known (.given value)) = (coerceLiteral value.type x).map (x.comparator.holds value) := by
  change (coerceLiteral value.type x >>= fun literal => pure (x.comparator.holds value literal)) = _
  cases coerceLiteral value.type x <;> rfl

/-- A comparison with an answer fails as the reading of its literal does, whichever answer of its type that is. -/
theorem compare_eq_error_iff {x : Expression} {value : TypedValue} {e : EvalError} :
    x.compare (.known (.given value)) = .error e ↔ coerceLiteral value.type x = .error e := by
  rw [compare_given]
  cases coerceLiteral value.type x with
  | error e' =>
    constructor
    · rintro ⟨⟩
      rfl
    · rintro ⟨⟩
      rfl
  | ok literal => exact ⟨nofun, nofun⟩

/-- A literal that does not fit the type of a prompt has an issue that explains it. -/
theorem explains_checkLiteral {p : Prompt} {x : Expression} {e : EvalError}
    (h : coerceLiteral p.type.valueType x = .error e) :
    ∃ kind, p.checkLiteral x = some kind ∧ kind.Explains (ConditionError.evaluation e).message := by
  unfold Prompt.checkLiteral
  rw [h]
  rcases error_of_coerceLiteral h with rfl | rfl
  · exact ⟨_, rfl, rfl⟩
  · exact ⟨_, rfl, rfl⟩

/-- A comparison that cannot be decided in a fitting context has an issue that explains it. -/
theorem explains_checkExpression (d : Definition) {v : Visible} {ctx : Context} (fits : v.Fits ctx)
    {x : Expression} {e : EvalError} (h : x.decide (ctx x.identifier) = .error e) :
    ∃ kind, v.checkExpression d x = some kind ∧ kind.Explains (ConditionError.evaluation e).message := by
  have place := fits x.identifier
  unfold Visible.checkExpression
  -- What the check sees of the identifier is what the context has for it.
  cases found : v.find? x.identifier with
  | none =>
    simp only [found] at place
    rw [place] at h
    cases h
    exact ⟨_, rfl, explains_unresolved d v x.identifier⟩
  | some p =>
    simp only [found] at place
    obtain ⟨answer, known, typed⟩ := place
    rw [known] at h
    cases answer with
    | notDisplayed => cases h
    | given value =>
      -- The value has the declared type, so the check reads the literal as the walk does.
      have typed : value.type = p.type.valueType := typed
      have read := compare_eq_error_iff.1 h
      rw [typed] at read
      exact explains_checkLiteral read

/-- **The issue of an undetermined status.** In a context that fits what the check sees, an item without a
value has an issue that explains it. -/
theorem issue_of_undetermined {d : Definition} {v : Visible} {ctx : Context} (fits : v.Fits ctx)
    {policy applied : Policy} {item : String} {condition : Option String} {e : ConditionError}
    (h : conditionStatus policy ctx condition = .undetermined e applied) :
    ∃ issue ∈ v.check d item condition, issue.item = item ∧ issue.kind.Explains e.message := by
  cases condition with
  | none => cases h
  | some text =>
    unfold conditionStatus evaluateCondition at h
    unfold Visible.check
    dsimp only at h ⊢
    cases read : parseCondition text with
    | error e' =>
      simp only [read] at h
      cases h
      exact ⟨_, List.mem_singleton_self _, rfl, rfl⟩
    | ok s =>
      simp only [read] at h
      cases value : (s.evaluate ctx).result with
      | ok b =>
        rw [value] at h
        cases b <;> cases h
      | error e' =>
        rw [value] at h
        cases h
        -- The evaluation may have passed over other comparisons; the check goes through all of them.
        obtain ⟨x, mem, failed⟩ := decide_of_evaluate_error value
        obtain ⟨kind, checked, explains⟩ := explains_checkExpression d fits failed
        refine ⟨⟨item, kind⟩, ?_, rfl, explains⟩
        exact List.mem_map.2 ⟨kind, List.mem_filterMap.2 ⟨x, mem, checked⟩, rfl⟩

/-! ## The two traversals -/

/-- The visits have statuses that the issues explain. -/
def Explained (issues : List Issue) (visits : List Visit) : Prop :=
  ∀ visit ∈ visits, ∀ e applied, visit.status = .undetermined e applied →
    ∃ issue ∈ issues, issue.item = visit.item ∧ issue.kind.Explains e.message

theorem explained_nil (issues : List Issue) : Explained issues [] :=
  fun _ mem => absurd mem List.not_mem_nil

theorem Explained.mono {issues more : List Issue} {visits : List Visit} (h : Explained issues visits)
    (sub : issues ⊆ more) : Explained more visits := by
  intro visit mem e applied status
  obtain ⟨issue, found, explains⟩ := h visit mem e applied status
  exact ⟨issue, sub found, explains⟩

theorem Explained.append {issues : List Issue} {visits others : List Visit} (h : Explained issues visits)
    (h' : Explained issues others) : Explained issues (visits ++ others) := by
  intro visit mem
  rcases List.mem_append.1 mem with first | second
  · exact h visit first
  · exact h' visit second

/-- A visit whose status was decided by a condition is explained by the issues of that condition. -/
theorem explained_of_check {d : Definition} {v : Visible} {ctx : Context} (fits : v.Fits ctx) {policy : Policy}
    {condition : Option String} (visit : Visit) (h : visit.status = conditionStatus policy ctx condition) :
    Explained (v.check d visit.item condition) [visit] := by
  intro visit' mem e applied status
  rw [List.mem_singleton.1 mem] at status ⊢
  rw [h] at status
  exact issue_of_undetermined fits status

/-- The visits of the prompts of a set in one iteration are explained. Induction on the prompts, the scope of
the iteration recording those that are behind. -/
theorem explained_replayPrompts (d : Definition) (policy : Policy) {outer : List Prompt} {answers : AnswerSet}
    (established : Records outer answers) (set : String) (index : Nat) (uploaded : Members)
    {inner prompts : List Prompt} {scope : AnswerSet} (behind : Records inner scope)
    (distinct : (inner.map Prompt.id ++ prompts.map Prompt.id).Nodup) :
    Explained (checkInner d outer set inner prompts)
      (replayPrompts policy answers index uploaded scope prompts).1 := by
  induction prompts generalizing inner scope with
  | nil => exact explained_nil _
  | cons p prompts ih =>
    obtain ⟨new, distinct⟩ := nodup_next distinct
    let visit := (replayPrompt policy (layered scope answers) p (some index) (uploaded.lookup p.id)).1
    have first : Explained (Visible.check d ⟨outer, inner, some set⟩ p.id p.condition) [visit] :=
      explained_of_check (fits_layered established behind) visit rfl
    have others := ih (records_replayPrompt behind new policy (layered scope answers) (some index)
      (uploaded.lookup p.id)) distinct
    exact (first.mono (List.subset_append_left _ _)).append (others.mono (List.subset_append_right _ _))

/-- All iterations are explained by the issues of the set, which is checked once. -/
theorem explained_replayIterations (d : Definition) (policy : Policy) {outer : List Prompt} {answers : AnswerSet}
    (established : Records outer answers) (set : String) {prompts : List Prompt}
    (distinct : (prompts.map Prompt.id).Nodup) (index : Nat) (iterations : List Members) :
    Explained (checkInner d outer set [] prompts) (replayIterations policy answers prompts index iterations) := by
  induction iterations generalizing index with
  | nil => exact explained_nil _
  | cons uploaded more ih =>
    -- Each iteration begins with an empty scope, as the check of the set does.
    have fresh : (([] : List Prompt).map Prompt.id ++ prompts.map Prompt.id).Nodup := distinct
    have first := explained_replayPrompts d policy established set index uploaded records_empty fresh
    exact first.append (ih (index + 1))

/-- The visits of a set are explained. -/
theorem explained_replaySet (d : Definition) (policy : Policy) {outer : List Prompt} {answers : AnswerSet}
    (established : Records outer answers) {s : RepeatableSet} (distinct : (s.prompts.map Prompt.id).Nodup)
    (response : Response) :
    Explained (Visible.check d ⟨outer, [], none⟩ s.id s.condition ++ checkInner d outer s.id [] s.prompts)
      (replaySet policy s response answers) := by
  unfold replaySet
  dsimp only
  generalize settled : settleSet (conditionStatus policy answers.resolve s.condition) (response.iterations s.id) = r
  have gate : Explained (Visible.check d ⟨outer, [], none⟩ s.id s.condition)
      [⟨s.id, none, conditionStatus policy answers.resolve s.condition, r.1⟩] :=
    explained_of_check (fits_resolve established) _ rfl
  rw [← List.singleton_append]
  apply (gate.mono (List.subset_append_left _ _)).append
  split
  · have inside := explained_replayIterations d policy established s.id distinct 0 r.2
    exact inside.mono (List.subset_append_right _ _)
  · -- The prompts of a hidden set are hidden, which no condition decides.
    intro visit mem e applied status
    obtain ⟨p, _, rfl⟩ := List.mem_map.1 mem
    cases status

/-- **The visits of items are explained by the issues of their conditions.** Induction on the items, the answers
at the top level recording the prompts that are behind. -/
theorem explained_replayItems (d : Definition) (policy : Policy) (response : Response) {outer : List Prompt}
    {items : List Item} {answers : AnswerSet} (established : Records outer answers)
    (distinct : (outer.map Prompt.id ++ items.flatMap Item.ids).Nodup) :
    Explained (checkItems d outer items) (replayItems policy response answers items).1 := by
  induction items generalizing outer answers with
  | nil => exact explained_nil _
  | cons item items ih =>
    rw [List.flatMap_cons] at distinct
    cases item with
    | prompt p =>
      obtain ⟨new, distinct⟩ := nodup_next distinct
      let visit := (replayPrompt policy answers.resolve p none (response.raw? p.id)).1
      have first : Explained (Visible.check d ⟨outer, [], none⟩ p.id p.condition) [visit] :=
        explained_of_check (fits_resolve established) visit rfl
      have others := ih (records_replayPrompt established new policy answers.resolve none
        (response.raw? p.id)) distinct
      exact (first.mono (List.subset_append_left _ _)).append (others.mono (List.subset_append_right _ _))
    | set s =>
      have inside : (s.prompts.map Prompt.id).Nodup := by
        have own : (s.prompts.map Prompt.id).Sublist (Item.set s).ids := List.sublist_cons_self s.id _
        exact distinct.sublist ((own.trans (List.sublist_append_left _ _)).trans (List.sublist_append_right _ _))
      -- A set leaves the prompts that are seen at the top level as they are.
      have after : (outer.map Prompt.id ++ items.flatMap Item.ids).Nodup := nodup_past distinct
      have first := explained_replaySet d policy established inside response
      have others := ih established after
      exact (first.mono (List.subset_append_left _ _)).append (others.mono (List.subset_append_right _ _))

/-- A definition without issues leaves no item undetermined. -/
theorem isDetermined_of_valid {d : Definition} (valid : validate d = []) (policy : Policy) (response : Response) :
    ∀ visit ∈ (replayItems policy response .empty d.items).1, visit.status.isDetermined = true := by
  have distinct : d.ids.Nodup := nodup_ids_of_validate (by simp [valid])
  have explained := explained_replayItems d policy response records_empty distinct
  intro visit mem
  -- An issue would have to explain a status that is not determined.
  cases status : visit.status with
  | displayed => rfl
  | hidden => rfl
  | undetermined e applied =>
    obtain ⟨issue, found, _⟩ := explained visit mem e applied status
    have among : issue ∈ validate d := List.mem_append_right _ found
    rw [valid] at among
    cases among

/-- **Every undetermined status is foreseen by the check.** Where a walk of a definition with distinct ids leaves
an item undetermined, an issue of that item explains why; so a definition without issues has none. -/
theorem undetermined_is_explained (policy : Policy) {cache : Cache} (reachable : cache.Reachable)
    {d : Definition} {response : Response} (own : response.survey = d.id)
    (distinct : ∀ issue ∈ validate d, issue.kind ≠ .duplicateId) :
    ∃ report, (walk policy cache d response).1 = .ok report ∧
      (∀ visit ∈ report.visits, ∀ e applied, visit.status = .undetermined e applied →
        ∃ issue ∈ validate d, issue.item = visit.item ∧ issue.kind.Explains e.message) ∧
      (validate d = [] → ∀ visit ∈ report.visits, visit.status.isDetermined = true) := by
  have explained : Explained (validate d) (replayItems policy response .empty d.items).1 := by
    have items := explained_replayItems d policy response records_empty (nodup_ids_of_validate distinct)
    exact items.mono (List.subset_append_right _ _)
  refine ⟨_, walk_eq_replay policy response reachable.sound own, explained, fun valid visit mem => ?_⟩
  cases status : visit.status with
  | displayed => rfl
  | hidden => rfl
  | undetermined e applied =>
    obtain ⟨issue, found, _⟩ := explained visit mem e applied status
    rw [valid] at found
    cases found

/-- A survey with a set whose gate compares a number with a word, and with a condition on a prompt that is not
declared. -/
def householdSurvey : Definition :=
  ⟨"household", none,
    [.prompt ⟨"age", .number, none, false, []⟩,
      .set ⟨"pets", some "age > old", [⟨"kind", .text, some "ghost == 1", false, []⟩]⟩]⟩

/-- A participant of seven years with a cat. -/
def householdUpload : Response :=
  ⟨"household", [("age", .number (.integer 7)), ("pets", .array [.object [("kind", .string "cat")]])]⟩

/-- The set and its prompt in the only iteration are undetermined, and the check explains both. -/
theorem undetermined_household_is_explained :
    ∃ report, (walk .show (.new 4) householdSurvey householdUpload).1 = .ok report ∧
      (∀ visit ∈ report.visits, ∀ e applied, visit.status = .undetermined e applied →
        ∃ issue ∈ validate householdSurvey, issue.item = visit.item ∧ issue.kind.Explains e.message) ∧
      (validate householdSurvey = [] → ∀ visit ∈ report.visits, visit.status.isDetermined = true) := by
  have distinct : ∀ issue ∈ validate householdSurvey, issue.kind ≠ .duplicateId := by decide +kernel
  exact undetermined_is_explained .show (.new 4) rfl distinct

end SurveyFlow
