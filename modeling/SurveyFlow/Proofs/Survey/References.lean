import SurveyFlow.Proofs.Condition.Comparisons
import SurveyFlow.Proofs.Survey.Scoping

/-!
# Issues on references are no false alarms

The check reports a reference that names no visible prompt exactly where a walk does not know the identifier that it
looks up (`unknown_iff_issue`). For this a walk is told apart into its steps, each of which decides an item in a context
or passes over a prompt of a hidden set:

* **`outcomes_steps`** — the outcomes of a walk are those of its steps.
* **`Foreseen`** — the issues of the item that a step decides are those of its own condition, checked with just the
  prompts that the context of the step knows. Steps, issues and ids are put together side by side.
-/

namespace SurveyFlow

/-! ## Steps -/

/-- An item that is decided by its condition, with the context that the walk has there. -/
structure Decision where
  item : String
  iteration : Option Nat
  condition : Option String
  context : Context

namespace Decision

def status (policy : Policy) (x : Decision) : Status :=
  conditionStatus policy x.context x.condition

/-- The identifiers that the context is asked for. -/
def lookups (x : Decision) : List String :=
  match x.condition with
  | none => []
  | some text => (evaluateCondition x.context text).2

/-- The first comparison of the condition is about this identifier. -/
def Begins (x : Decision) (i : String) : Prop :=
  ∃ text s e, x.condition = some text ∧ parseCondition text = .ok s ∧ s.expressions.head? = some e ∧ e.identifier = i

end Decision

inductive Step where
  | decided (x : Decision)
  /-- A prompt of a hidden set, whose own condition is not looked at. -/
  | passed (p : Prompt)

def Step.outcome (policy : Policy) : Step → String × Option Nat × Status
  | decided x => (x.item, x.iteration, x.status policy)
  | passed p => (p.id, none, .hidden)

section Steps

variable (policy : Policy) (r : Response)

def stepsOfPrompts (outer : AnswerSet) (index : Nat) (uploaded : Members) : AnswerSet → List Prompt → List Step
  | _, [] => []
  | inner, p :: prompts =>
    let context := layered inner outer
    let left := (replayPrompt policy context p (some index) (uploaded.lookup p.id)).2
    .decided ⟨p.id, some index, p.condition, context⟩ ::
      stepsOfPrompts outer index uploaded (inner.insert p.id left) prompts

def stepsOfIterations (outer : AnswerSet) (prompts : List Prompt) : Nat → List Members → List Step
  | _, [] => []
  | index, uploaded :: more =>
    stepsOfPrompts policy outer index uploaded .empty prompts ++ stepsOfIterations outer prompts (index + 1) more

def stepsOfSet (s : RepeatableSet) (answers : AnswerSet) : List Step :=
  let gate : Decision := ⟨s.id, none, s.condition, answers.resolve⟩
  .decided gate ::
    if (gate.status policy).isDisplayed then stepsOfIterations policy answers s.prompts 0 (r.readIterations s.id)
    else s.prompts.map .passed

def stepsOfItem (answers : AnswerSet) : Item → List Step
  | .prompt p => [.decided ⟨p.id, none, p.condition, answers.resolve⟩]
  | .set s => stepsOfSet policy r s answers

/-- The steps of a walk, from the answers that have been given before. -/
def stepsOfItems (answers : AnswerSet) : List Item → List Step
  | [] => []
  | item :: items =>
    stepsOfItem policy r answers item ++ stepsOfItems (replayItem policy r answers item).2 items

/-! The outcomes are those of the steps, on each level. -/

/-- In an iteration every prompt is decided in the scope of those before it. -/
theorem outcomes_stepsOfPrompts (outer : AnswerSet) (index : Nat) (uploaded : Members) (inner : AnswerSet)
    (prompts : List Prompt) :
    (replayPrompts policy outer index uploaded inner prompts).1.map Visit.outcome =
      (stepsOfPrompts policy outer index uploaded inner prompts).map (Step.outcome policy) := by
  induction prompts generalizing inner with
  | nil => rfl
  | cons p prompts ih => exact List.cons_eq_cons.2 ⟨rfl, ih _⟩

theorem outcomes_stepsOfIterations (outer : AnswerSet) (prompts : List Prompt) (index : Nat)
    (iterations : List Members) :
    (replayIterations policy outer prompts index iterations).map Visit.outcome =
      (stepsOfIterations policy outer prompts index iterations).map (Step.outcome policy) := by
  induction iterations generalizing index with
  | nil => rfl
  | cons uploaded more ih =>
    rw [replayIterations, stepsOfIterations, List.map_append, List.map_append, ih, outcomes_stepsOfPrompts]

/-- A set is decided itself, and its prompts are decided or passed over. -/
theorem outcomes_stepsOfSet (s : RepeatableSet) (answers : AnswerSet) :
    (replaySet policy s r answers).map Visit.outcome = (stepsOfSet policy r s answers).map (Step.outcome policy) := by
  unfold replaySet stepsOfSet Decision.status
  dsimp only
  rw [iterations_of_settleSet]
  refine List.cons_eq_cons.2 ⟨rfl, ?_⟩
  split
  · exact outcomes_stepsOfIterations policy answers s.prompts 0 (r.readIterations s.id)
  · rw [List.map_map, List.map_map]
    rfl

/-- **The outcomes of a walk are those of its steps.** Induction on the items, whatever has been answered before
them. -/
theorem outcomes_steps (answers : AnswerSet) (items : List Item) :
    (replayItems policy r answers items).1.map Visit.outcome =
      (stepsOfItems policy r answers items).map (Step.outcome policy) := by
  induction items generalizing answers with
  | nil => rfl
  | cons item items ih =>
    have first : (replayItem policy r answers item).1.map Visit.outcome =
        (stepsOfItem policy r answers item).map (Step.outcome policy) := by
      cases item with
      | prompt p => rfl
      | set s => exact outcomes_stepsOfSet policy r s answers
    rw [replayItems, stepsOfItems, List.map_append, List.map_append, first, ih]

end Steps

/-! ## References -/

/-- The issue is that a reference names no prompt that the condition sees. -/
def IssueKind.Names (i : String) : IssueKind → Prop
  | unknownReference j | forwardReference j | outsideRepeatableSet j | notAPrompt j => j = i
  | duplicateId | unparsable _ | invalidComparison _ _ | literalTypeMismatch _ _ | unknownChoice _ _ => False

/-- An invisible identifier is named by its issue, wherever it is declared. -/
theorem names_unresolved_iff (d : Definition) (v : Visible) (i j : String) : (v.unresolved d j).Names i ↔ j = i := by
  unfold Visible.unresolved
  split
  · rfl
  · rfl
  · rfl
  · split
    · rfl
    · rfl

/-- An issue on a literal is about its form, not about the reference. -/
theorem not_names_of_checkLiteral {p : Prompt} {x : Expression} {kind : IssueKind} (h : p.checkLiteral x = some kind)
    (i : String) : ¬kind.Names i := by
  unfold Prompt.checkLiteral at h
  split at h
  · cases h
    exact id
  · cases h
    exact id
  · cases h
  · split at h
    · cases h
      exact id
    · cases h

theorem unresolved_ne_unparsable (d : Definition) (v : Visible) (i : String) (e : ConditionError) :
    v.unresolved d i ≠ .unparsable e := by
  unfold Visible.unresolved
  split
  · nofun
  · nofun
  · nofun
  · split
    · nofun
    · nofun

/-- A condition that can be read has no issue that it cannot. -/
theorem checkExpression_ne_unparsable (d : Definition) (v : Visible) (x : Expression) (e : ConditionError) :
    v.checkExpression d x ≠ some (.unparsable e) := by
  intro h
  unfold Visible.checkExpression at h
  split at h
  · unfold Prompt.checkLiteral at h
    split at h
    · cases h
    · cases h
    · cases h
    · split at h
      · cases h
      · cases h
  · exact unresolved_ne_unparsable d v x.identifier e (Option.some.inj h)

/-- A comparison has an issue that names an identifier exactly if it is about it and no visible prompt has the name. -/
theorem names_checkExpression_iff (d : Definition) (v : Visible) (x : Expression) (i : String) :
    (∃ kind, v.checkExpression d x = some kind ∧ kind.Names i) ↔ v.find? x.identifier = none ∧ x.identifier = i := by
  unfold Visible.checkExpression
  cases found : v.find? x.identifier with
  | none =>
    constructor
    · rintro ⟨kind, same, names⟩
      cases same
      exact ⟨rfl, (names_unresolved_iff d v i x.identifier).1 names⟩
    · rintro ⟨_, same⟩
      exact ⟨_, rfl, (names_unresolved_iff d v i x.identifier).2 same⟩
  | some p =>
    constructor
    · rintro ⟨kind, checked, names⟩
      exact absurd names (not_names_of_checkLiteral checked i)
    · rintro ⟨⟨⟩, _⟩

/-- The issues of a condition that name an identifier: there is one if it occurs and no visible prompt has the name. -/
theorem names_check_iff {d : Definition} {v : Visible} {item text : String} {s : Sentence}
    (read : parseCondition text = .ok s) (i : String) :
    (∃ kind, ⟨item, kind⟩ ∈ v.check d item (some text) ∧ kind.Names i) ↔ v.find? i = none ∧ i ∈ s.identifiers := by
  unfold Visible.check Sentence.identifiers
  simp only [read]
  -- The issues are those of the comparisons, each for itself.
  constructor
  · rintro ⟨kind, mem, names⟩
    obtain ⟨kind', found, same⟩ := List.mem_map.1 mem
    cases same
    obtain ⟨x, inside, checked⟩ := List.mem_filterMap.1 found
    obtain ⟨invisible, named⟩ := (names_checkExpression_iff d v x i).1 ⟨kind, checked, names⟩
    rw [named] at invisible
    exact ⟨invisible, List.mem_map.2 ⟨x, inside, named⟩⟩
  · rintro ⟨invisible, mem⟩
    obtain ⟨x, inside, named⟩ := List.mem_map.1 mem
    rw [← named] at invisible
    obtain ⟨kind, checked, names⟩ := (names_checkExpression_iff d v x i).2 ⟨invisible, named⟩
    exact ⟨kind, List.mem_map.2 ⟨kind, List.mem_filterMap.2 ⟨x, inside, checked⟩, rfl⟩, names⟩

/-- In a fitting context the unknown identifiers are the invisible ones. -/
theorem Visible.Fits.unknown_iff {v : Visible} {ctx : Context} (fits : v.Fits ctx) (i : String) :
    ctx i = .ok .unknown ↔ v.find? i = none := by
  have entry := fits i
  cases found : v.find? i with
  | none =>
    rw [found] at entry
    exact iff_of_true entry rfl
  | some p =>
    rw [found] at entry
    obtain ⟨answer, known, _⟩ := entry
    rw [known]
    exact iff_of_false nofun nofun

/-! ## One decision -/

/-- The issues of the item are those of its condition, checked with the prompts that the context knows. -/
def Decision.Checked (d : Definition) (issues : List Issue) (x : Decision) : Prop :=
  ∃ v : Visible, v.Fits x.context ∧ ∀ kind, ⟨x.item, kind⟩ ∈ issues ↔ ⟨x.item, kind⟩ ∈ v.check d x.item x.condition

namespace Decision

variable {d : Definition} {issues : List Issue} {x : Decision}

/-- Only identifiers of the condition are looked up. -/
theorem mem_identifiers_of_lookups {i : String} (asked : i ∈ x.lookups) :
    ∃ text s, x.condition = some text ∧ parseCondition text = .ok s ∧ i ∈ s.identifiers := by
  unfold lookups at asked
  cases condition : x.condition with
  | none =>
    rw [condition] at asked
    cases asked
  | some text =>
    rw [condition] at asked
    unfold evaluateCondition at asked
    cases read : parseCondition text with
    | error e =>
      simp only [read] at asked
      cases asked
    | ok s =>
      simp only [read] at asked
      obtain ⟨before, last, sub, asks⟩ := evaluate_asks x.context s
      rw [asks.lookups] at asked
      exact ⟨text, s, rfl, read, (sub.map Expression.identifier).subset asked⟩

/-- **What is not known is reported, and nothing else.** -/
theorem Checked.unknown_iff (h : x.Checked d issues) {i : String} (asked : i ∈ x.lookups) :
    x.context i = .ok .unknown ↔ ∃ kind, ⟨x.item, kind⟩ ∈ issues ∧ kind.Names i := by
  obtain ⟨v, fits, own⟩ := h
  obtain ⟨text, s, condition, read, mem⟩ := mem_identifiers_of_lookups asked
  rw [condition] at own
  simp only [own]
  rw [names_check_iff read, fits.unknown_iff]
  exact (and_iff_left mem).symm

/-- A condition that cannot be read has no value. -/
theorem Checked.undetermined_of_unparsable (h : x.Checked d issues) {e : ConditionError}
    (issue : ⟨x.item, .unparsable e⟩ ∈ issues) (policy : Policy) : x.status policy = .undetermined e policy := by
  obtain ⟨v, _, own⟩ := h
  have check := (own _).1 issue
  unfold Visible.check at check
  unfold status conditionStatus evaluateCondition
  cases condition : x.condition with
  | none =>
    rw [condition] at check
    cases check
  | some text =>
    simp only [condition] at check ⊢
    cases read : parseCondition text with
    | error e' =>
      simp only [read] at check ⊢
      cases List.mem_singleton.1 check
      rfl
    | ok s =>
      simp only [read] at check
      obtain ⟨kind, found, same⟩ := List.mem_map.1 check
      cases same
      obtain ⟨y, _, checked⟩ := List.mem_filterMap.1 found
      exact absurd checked (checkExpression_ne_unparsable d v y e)

/-- A condition whose first reference is reported has no value, since that is looked up first. -/
theorem Checked.undetermined_of_begins (h : x.Checked d issues) {i : String} (begins : x.Begins i) {kind : IssueKind}
    (issue : ⟨x.item, kind⟩ ∈ issues) (names : kind.Names i) (policy : Policy) :
    x.status policy = .undetermined (.evaluation (.unknownIdentifier i)) policy := by
  obtain ⟨v, fits, own⟩ := h
  obtain ⟨text, s, y, condition, read, first, named⟩ := begins
  have check := (own kind).1 issue
  rw [condition] at check
  obtain ⟨invisible, _⟩ := (names_check_iff read i).1 ⟨kind, check, names⟩
  -- The context knows as little of it as the check sees, so the first comparison fails.
  have unknown : x.context y.identifier = .ok .unknown := by
    rw [named]
    exact (fits.unknown_iff i).2 invisible
  have failed : y.decide (x.context y.identifier) = .error (.unknownIdentifier i) := by
    rw [unknown, ← named]
    rfl
  unfold status conditionStatus evaluateCondition
  simp only [condition, read, evaluate_of_first_error first failed]
  rfl

end Decision

/-! ## All decisions -/

/-- The steps decide items with these ids. The issues are about the same ids, and those of a decided item are its
own. -/
structure Foreseen (d : Definition) (ids : List String) (issues : List Issue) (steps : List Step) : Prop where
  about : ∀ issue ∈ issues, issue.item ∈ ids
  checked : ∀ x, .decided x ∈ steps → x.item ∈ ids ∧ x.Checked d issues

/-- The issues of a condition are about its item. -/
theorem about_check (d : Definition) (v : Visible) (item : String) (condition : Option String) :
    ∀ issue ∈ v.check d item condition, issue.item = item := by
  intro issue mem
  unfold Visible.check at mem
  split at mem
  · cases mem
  · split at mem
    · rw [List.mem_singleton.1 mem]
    · obtain ⟨kind, _, rfl⟩ := List.mem_map.1 mem
      rfl

/-- One decision: the issues are those of its condition. -/
theorem foreseen_decided {d : Definition} {v : Visible} (x : Decision) (fits : v.Fits x.context) :
    Foreseen d [x.item] (v.check d x.item x.condition) [.decided x] := by
  constructor
  · intro issue mem
    rw [about_check d v x.item x.condition issue mem]
    exact List.mem_singleton_self _
  · intro y mem
    cases List.mem_singleton.1 mem
    exact ⟨List.mem_singleton_self _, v, fits, fun _ => .rfl⟩

namespace Foreseen

variable {d : Definition} {ids ids' : List String} {issues issues' : List Issue} {steps steps' : List Step}

/-- Issues about other ids do not count. -/
theorem append (h : Foreseen d ids issues steps) (h' : Foreseen d ids' issues' steps')
    (apart : ∀ id ∈ ids, id ∉ ids') : Foreseen d (ids ++ ids') (issues ++ issues') (steps ++ steps') := by
  constructor
  · intro issue mem
    rcases List.mem_append.1 mem with first | second
    · exact List.mem_append_left _ (h.about issue first)
    · exact List.mem_append_right _ (h'.about issue second)
  · intro x mem
    rcases List.mem_append.1 mem with first | second
    · -- An issue of the others would be about an id of theirs.
      obtain ⟨known, v, fits, own⟩ := h.checked x first
      refine ⟨List.mem_append_left _ known, v, fits, fun kind => ?_⟩
      have other : ⟨x.item, kind⟩ ∉ issues' := fun issue => apart x.item known (h'.about _ issue)
      rw [List.mem_append, or_iff_left other, own kind]
    · obtain ⟨known, v, fits, own⟩ := h'.checked x second
      refine ⟨List.mem_append_right _ known, v, fits, fun kind => ?_⟩
      have other : ⟨x.item, kind⟩ ∉ issues := fun issue => apart x.item (h.about _ issue) known
      rw [List.mem_append, or_iff_right other, own kind]

/-- The same items may be decided more than once. -/
theorem again (h : Foreseen d ids issues steps) (h' : Foreseen d ids issues steps') :
    Foreseen d ids issues (steps ++ steps') := by
  refine ⟨h.about, fun x mem => ?_⟩
  rcases List.mem_append.1 mem with first | second
  · exact h.checked x first
  · exact h'.checked x second

end Foreseen

section Traversals

variable (d : Definition) (policy : Policy) {outer : List Prompt} {answers : AnswerSet}

/-- The prompts of an iteration. Induction on the prompts, the scope of the iteration recording those behind. -/
theorem foreseen_stepsOfPrompts (established : Records outer answers) (set : String) (index : Nat)
    (uploaded : Members) {inner prompts : List Prompt} {scope : AnswerSet} (behind : Records inner scope)
    (distinct : (inner.map Prompt.id ++ prompts.map Prompt.id).Nodup) :
    Foreseen d (prompts.map Prompt.id) (checkInner d outer set inner prompts)
      (stepsOfPrompts policy answers index uploaded scope prompts) := by
  induction prompts generalizing inner scope with
  | nil => exact ⟨nofun, nofun⟩
  | cons p prompts ih =>
    have new : p.id ∉ prompts.map Prompt.id := (List.nodup_cons.1 (List.nodup_append.1 distinct).2.1).1
    obtain ⟨fresh, distinct⟩ := nodup_next distinct
    let context := layered scope answers
    have fits : Visible.Fits ⟨outer, inner, some set⟩ context := fits_layered established behind
    have first := foreseen_decided (d := d) ⟨p.id, some index, p.condition, context⟩ fits
    have others := ih (records_replayPrompt behind fresh policy context (some index) (uploaded.lookup p.id)) distinct
    exact first.append others (List.forall_mem_singleton.2 new)

theorem about_checkInner (set : String) (inner prompts : List Prompt) :
    ∀ issue ∈ checkInner d outer set inner prompts, issue.item ∈ prompts.map Prompt.id := by
  induction prompts generalizing inner with
  | nil => nofun
  | cons p prompts ih =>
    intro issue mem
    rcases List.mem_append.1 mem with own | later
    · rw [about_check d _ p.id p.condition issue own]
      exact List.mem_cons_self
    · exact List.mem_cons_of_mem _ (ih _ issue later)

/-- Each iteration decides the same prompts, with the same issues. -/
theorem foreseen_stepsOfIterations (established : Records outer answers) (set : String) {prompts : List Prompt}
    (distinct : (prompts.map Prompt.id).Nodup) (index : Nat) (iterations : List Members) :
    Foreseen d (prompts.map Prompt.id) (checkInner d outer set [] prompts)
      (stepsOfIterations policy answers prompts index iterations) := by
  induction iterations generalizing index with
  | nil => exact ⟨about_checkInner d set [] prompts, nofun⟩
  | cons uploaded more ih =>
    have fresh : (([] : List Prompt).map Prompt.id ++ prompts.map Prompt.id).Nodup := distinct
    exact (foreseen_stepsOfPrompts d policy established set index uploaded records_empty fresh).again (ih (index + 1))

/-- The gate of a set and the prompts in it have different ids, so their issues can be told apart. -/
theorem foreseen_stepsOfSet (r : Response) (established : Records outer answers) {s : RepeatableSet}
    (distinct : (Item.set s).ids.Nodup) :
    Foreseen d (Item.set s).ids
      (Visible.check d ⟨outer, [], none⟩ s.id s.condition ++ checkInner d outer s.id [] s.prompts)
      (stepsOfSet policy r s answers) := by
  obtain ⟨new, inside⟩ := List.nodup_cons.1 distinct
  have gate := foreseen_decided (d := d) ⟨s.id, none, s.condition, answers.resolve⟩ (fits_resolve established)
  have visited := foreseen_stepsOfIterations d policy established s.id inside 0 (r.readIterations s.id)
  have hidden : Foreseen d (s.prompts.map Prompt.id) (checkInner d outer s.id [] s.prompts)
      (s.prompts.map .passed) := by
    -- Prompts that are passed over are not decided.
    refine ⟨about_checkInner d s.id [] s.prompts, fun x mem => ?_⟩
    obtain ⟨p, _, passed⟩ := List.mem_map.1 mem
    cases passed
  unfold stepsOfSet
  dsimp only
  split
  · exact gate.append visited (List.forall_mem_singleton.2 new)
  · exact gate.append hidden (List.forall_mem_singleton.2 new)

/-- **Every decision is foreseen.** Induction on the items, the answers at the top level recording the prompts that are
behind. -/
theorem foreseen_stepsOfItems (r : Response) {items : List Item} (established : Records outer answers)
    (distinct : (outer.map Prompt.id ++ items.flatMap Item.ids).Nodup) :
    Foreseen d (items.flatMap Item.ids) (checkItems d outer items) (stepsOfItems policy r answers items) := by
  induction items generalizing outer answers with
  | nil => exact ⟨nofun, nofun⟩
  | cons item items ih =>
    rw [List.flatMap_cons] at distinct ⊢
    obtain ⟨here, _, apart⟩ := List.nodup_append.1 (List.nodup_append.1 distinct).2.1
    have other : ∀ id ∈ item.ids, id ∉ items.flatMap Item.ids := fun id own later => apart id own id later rfl
    cases item with
    | prompt p =>
      obtain ⟨new, distinct⟩ := nodup_next distinct
      have first := foreseen_decided (d := d) ⟨p.id, none, p.condition, answers.resolve⟩ (fits_resolve established)
      have others := ih (records_replayPrompt established new policy answers.resolve none (r.raw? p.id)) distinct
      exact first.append others other
    | set s =>
      have first := foreseen_stepsOfSet d policy r established here
      exact first.append (ih established (nodup_past distinct)) other

end Traversals

/-- A definition without repeated ids has the issues of its conditions only. -/
theorem validate_of_nodup {d : Definition} (distinct : d.ids.Nodup) : validate d = checkItems d [] d.items := by
  have none : repeats [] d.ids = [] := repeats_eq_nil_iff.2 ⟨distinct, fun _ _ => List.not_mem_nil⟩
  rw [validate, none]
  rfl

/-- **The issues on references are no false alarms.** In a definition with distinct ids, whenever an item is decided,
an identifier that is looked up is unknown exactly if an issue of the item names it. So an item whose condition cannot
be read, or begins with such a reference, is undetermined each time. -/
theorem unknown_iff_issue (policy : Policy) {cache : Cache} (reachable : cache.Reachable) {d : Definition}
    {r : Response} (own : r.survey = d.id) (distinct : ∀ issue ∈ validate d, issue.kind ≠ .duplicateId) :
    ∃ report, (walk policy cache d r).1 = .ok report ∧
      report.outcomes = (stepsOfItems policy r .empty d.items).map (Step.outcome policy) ∧
      ∀ x, .decided x ∈ stepsOfItems policy r .empty d.items →
        (∀ i ∈ x.lookups, x.context i = .ok .unknown ↔ ∃ kind, ⟨x.item, kind⟩ ∈ validate d ∧ kind.Names i) ∧
        (∀ e, ⟨x.item, .unparsable e⟩ ∈ validate d → ∃ e', x.status policy = .undetermined e' policy) ∧
        ∀ i kind, x.Begins i → ⟨x.item, kind⟩ ∈ validate d → kind.Names i →
          ∃ e, x.status policy = .undetermined e policy := by
  have ids := nodup_ids_of_validate distinct
  have foreseen := foreseen_stepsOfItems d policy r records_empty ids
  rw [← validate_of_nodup ids] at foreseen
  refine ⟨_, walk_eq_replay policy r reachable.sound own, outcomes_steps policy r .empty d.items, fun x mem => ?_⟩
  obtain ⟨_, checked⟩ := foreseen.checked x mem
  refine ⟨fun i asked => checked.unknown_iff asked, fun e issue => ?_, fun i kind begins issue names => ?_⟩
  · exact ⟨e, checked.undetermined_of_unparsable issue policy⟩
  · exact ⟨_, checked.undetermined_of_begins begins issue names policy⟩

/-- A survey on a garden. The gate of the beds asks for a prompt inside them, the harvest for the beds themselves. -/
def gardenSurvey : Definition :=
  ⟨"garden", none,
    [.prompt ⟨"plot", .boolean, none, false, []⟩,
      .set ⟨"beds", some "plot == true or crop == bean",
        [⟨"crop", .text, none, true, []⟩, ⟨"harvest", .number, some "crop == bean and beds > 1", false, []⟩,
          ⟨"wish", .text, some "wish !=", true, []⟩]⟩]⟩

/-- A participant with two beds. -/
def gardenUpload : Response :=
  ⟨"garden", [("plot", .bool true),
    ("beds", .array [.object [("crop", .string "bean"), ("harvest", .number (.integer 3))],
      .object [("crop", .string "leek")]])]⟩

/-- The harvest asks for the beds in the first iteration only, and both its issue and that of the wish are true. -/
theorem unknown_iff_issue_garden :
    (Cache.new 4).Reachable ∧ gardenUpload.survey = gardenSurvey.id ∧
      (∀ issue ∈ validate gardenSurvey, issue.kind ≠ .duplicateId) ∧
      ∃ report, (walk .show (.new 4) gardenSurvey gardenUpload).1 = .ok report ∧
        report.outcomes = (stepsOfItems .show gardenUpload .empty gardenSurvey.items).map (Step.outcome .show) ∧
        ∀ x, .decided x ∈ stepsOfItems .show gardenUpload .empty gardenSurvey.items →
          (∀ i ∈ x.lookups, x.context i = .ok .unknown ↔
            ∃ kind, ⟨x.item, kind⟩ ∈ validate gardenSurvey ∧ kind.Names i) ∧
          (∀ e, ⟨x.item, .unparsable e⟩ ∈ validate gardenSurvey → ∃ e', x.status .show = .undetermined e' .show) ∧
          ∀ i kind, x.Begins i → ⟨x.item, kind⟩ ∈ validate gardenSurvey → kind.Names i →
            ∃ e, x.status .show = .undetermined e .show := by
  have distinct : ∀ issue ∈ validate gardenSurvey, issue.kind ≠ .duplicateId := by decide +kernel
  exact ⟨.new 4, rfl, distinct, unknown_iff_issue .show (.new 4) rfl distinct⟩

end SurveyFlow
