import SurveyFlow.Proofs.Survey.Replay

/-!
# How far the policy reaches

The policy decides an item whose condition has no value, and nothing else. So the walks of a response under the two
policies go side by side up to the first item that is undetermined in either of them; there both have the same error,
and each applies its own policy (`reports_part_at_undetermined`). What comes later may differ in any way, as the item is
answered in one of the walks only.

* **`Abreast`** — two runs that have made the same visits, all of them determined, and stand in the same state, or
  that have parted at a visit that neither could determine. What goes on from there is abreast too (`Abreast.append`).
* **`abreast_replayItems`** — the replays under any two policies are abreast, on each level of the walk.
-/

namespace SurveyFlow

/-! ## Runs abreast -/

/-- The item was undetermined in both visits, for one reason; each policy decided for its own walk. -/
def Visit.Parts (policy policy' : Policy) (v v' : Visit) : Prop :=
  ∃ e, v.outcome = (v.item, v.iteration, .undetermined e policy) ∧
    v'.outcome = (v.item, v.iteration, .undetermined e policy')

/-- Two runs, each with its visits and the state behind them. -/
inductive Abreast {σ : Type} (policy policy' : Policy) : List Visit × σ → List Visit × σ → Prop where
  /-- Nothing was left to a policy. -/
  | together {visits : List Visit} (state : σ) (determined : AllDetermined visits) :
    Abreast policy policy' (visits, state) (visits, state)
  /-- The visits `v` and `v'` are the first ones that were. -/
  | parted {before after after' : List Visit} {v v' : Visit} (state state' : σ) (determined : AllDetermined before)
    (parts : v.Parts policy policy' v') :
    Abreast policy policy' (before ++ v :: after, state) (before ++ v' :: after', state')

variable {policy policy' : Policy}

theorem allDetermined_nil : AllDetermined [] :=
  fun _ mem => absurd mem List.not_mem_nil

theorem allDetermined_append {visits others : List Visit} (h : AllDetermined visits) (h' : AllDetermined others) :
    AllDetermined (visits ++ others) :=
  List.forall_mem_append.2 ⟨h, h'⟩

/-- Runs that part at their first visit. -/
theorem Abreast.apart {σ : Type} {after after' : List Visit} {v v' : Visit} (state state' : σ)
    (parts : v.Parts policy policy' v') : Abreast policy policy' (v :: after, state) (v' :: after', state') := by
  rw [← List.nil_append (v :: after), ← List.nil_append (v' :: after')]
  exact .parted state state' allDetermined_nil parts

/-- **Runs that go on stay abreast,** if from each common state on they do. -/
theorem Abreast.append {σ τ : Type} {x x' : List Visit × σ} {more more' : σ → List Visit × τ}
    (first : Abreast policy policy' x x') (others : ∀ state, Abreast policy policy' (more state) (more' state)) :
    Abreast policy policy' (x.1 ++ (more x.2).1, (more x.2).2) (x'.1 ++ (more' x'.2).1, (more' x'.2).2) := by
  cases first with
  | @together visits state determined =>
    dsimp only
    generalize run : more state = y, run' : more' state = y'
    have rest := others state
    rw [run, run'] at rest
    cases rest with
    -- Still in one state, so the second runs start from it and are abreast by `others`.
    | together last later => exact .together last (allDetermined_append determined later)
    | parted last last' later parts =>
      dsimp only
      rw [← List.append_assoc, ← List.append_assoc]
      exact .parted last last' (allDetermined_append determined later) parts
  | parted state state' determined parts =>
    -- What was different stays behind, whatever each of the runs adds to it.
    dsimp only
    rw [List.append_assoc, List.append_assoc, List.cons_append, List.cons_append]
    exact .parted _ _ determined parts

/-- A visit that was determined may be put in front of both runs. -/
theorem Abreast.cons {σ : Type} {v : Visit} {x x' : List Visit × σ} (others : Abreast policy policy' x x')
    (determined : v.status.isDetermined = true) : Abreast policy policy' (v :: x.1, x.2) (v :: x'.1, x'.2) := by
  have first : Abreast policy policy' ([v], ()) ([v], ()) := .together () (List.forall_mem_singleton.2 determined)
  exact first.append fun _ => others

/-- Runs that have not parted are one run. A visit of either run at which they had parted would be undetermined. -/
theorem Abreast.eq_of_determined {σ : Type} {x x' : List Visit × σ} (h : Abreast policy policy' x x')
    (determined : AllDetermined x.1 ∨ AllDetermined x'.1) : x = x' := by
  cases h with
  | together => rfl
  | @parted before after after' v v' _ _ _ parts =>
    obtain ⟨e, outcome, outcome'⟩ := parts
    have status : v.status = .undetermined e policy := congrArg (·.2.2) outcome
    have status' : v'.status = .undetermined e policy' := congrArg (·.2.2) outcome'
    rcases determined with all | all
    · have decided := all v (List.mem_append_right before List.mem_cons_self)
      rw [status] at decided
      cases decided
    · have decided := all v' (List.mem_append_right before List.mem_cons_self)
      rw [status'] at decided
      cases decided

/-- Runs with a visit that was left to a policy have parted. -/
theorem Abreast.parts_of_undetermined {σ : Type} {x x' : List Visit × σ} (h : Abreast policy policy' x x')
    (doubt : ¬AllDetermined x.1 ∨ ¬AllDetermined x'.1) :
    ∃ before v v' after after', x.1 = before ++ v :: after ∧ x'.1 = before ++ v' :: after' ∧ AllDetermined before ∧
      v.Parts policy policy' v' := by
  cases h with
  | together state determined =>
    rcases doubt with some | some
    · exact absurd determined some
    · exact absurd determined some
  | parted state state' determined parts => exact ⟨_, _, _, _, _, rfl, rfl, determined, parts⟩

/-! ## The replay -/

variable (policy policy')

/-- A condition has a value under both policies, and then it is the same, or under neither. -/
theorem conditionStatus_of_policies (ctx : Context) (condition : Option String) :
    (conditionStatus policy ctx condition = conditionStatus policy' ctx condition ∧
        (conditionStatus policy ctx condition).isDetermined = true) ∨
      ∃ e, conditionStatus policy ctx condition = .undetermined e policy ∧
        conditionStatus policy' ctx condition = .undetermined e policy' := by
  cases condition with
  | none => exact .inl ⟨rfl, rfl⟩
  | some text =>
    unfold conditionStatus
    dsimp only
    -- A value decides under any policy, an error under none.
    match (evaluateCondition ctx text).1 with
    | .ok true => exact .inl ⟨rfl, rfl⟩
    | .ok false => exact .inl ⟨rfl, rfl⟩
    | .error e => exact .inr ⟨e, rfl, rfl⟩

/-- One prompt. Both walks see the same scope, so both conditions have the same value or the same error. -/
theorem abreast_replayPrompt (ctx : Context) (p : Prompt) (iteration : Option Nat) (raw : Option Json) :
    Abreast policy policy'
      ([(replayPrompt policy ctx p iteration raw).1], (replayPrompt policy ctx p iteration raw).2)
      ([(replayPrompt policy' ctx p iteration raw).1], (replayPrompt policy' ctx p iteration raw).2) := by
  unfold replayPrompt
  dsimp only
  rcases conditionStatus_of_policies policy policy' ctx p.condition with ⟨same, determined⟩ | ⟨e, left, right⟩
  · rw [← same]
    exact .together _ (List.forall_mem_singleton.2 determined)
  · rw [left, right]
    exact .apart _ _ ⟨e, rfl, rfl⟩

/-- The prompts of an iteration. Induction on the prompts, whatever has been answered before them. -/
theorem abreast_replayPrompts (outer : AnswerSet) (index : Nat) (uploaded : Members) (scope : AnswerSet)
    (prompts : List Prompt) :
    Abreast policy policy' (replayPrompts policy outer index uploaded scope prompts)
      (replayPrompts policy' outer index uploaded scope prompts) := by
  induction prompts generalizing scope with
  | nil => exact .together scope allDetermined_nil
  | cons p prompts ih =>
    have first := abreast_replayPrompt policy policy' (layered scope outer) p (some index) (uploaded.lookup p.id)
    exact first.append fun answer => ih (scope.insert p.id answer)

/-- The iterations of a set. They leave nothing behind, so any state may stand beside them. -/
theorem abreast_replayIterations {σ : Type} (state : σ) (outer : AnswerSet) (prompts : List Prompt) (index : Nat)
    (iterations : List Members) :
    Abreast policy policy' (replayIterations policy outer prompts index iterations, state)
      (replayIterations policy' outer prompts index iterations, state) := by
  induction iterations generalizing index with
  | nil => exact .together state allDetermined_nil
  | cons uploaded more ih =>
    have first := abreast_replayPrompts policy policy' outer index uploaded .empty prompts
    exact first.append fun _ => ih (index + 1)

/-- A set with its prompts. Whether it is shown is the same in both walks, or they part at the set itself. -/
theorem abreast_replaySet {σ : Type} (state : σ) (s : RepeatableSet) (response : Response) (answers : AnswerSet) :
    Abreast policy policy' (replaySet policy s response answers, state)
      (replaySet policy' s response answers, state) := by
  unfold replaySet
  dsimp only
  rw [iterations_of_settleSet, iterations_of_settleSet]
  rcases conditionStatus_of_policies policy policy' answers.resolve s.condition with
    ⟨same, determined⟩ | ⟨e, left, right⟩
  · rw [← same]
    -- A set that is off has only hidden prompts, and `hidden` leaves nothing to a policy.
    cases (conditionStatus policy answers.resolve s.condition).isDisplayed with
    | true =>
      rw [if_pos rfl, if_pos rfl]
      have inside := abreast_replayIterations policy policy' state answers s.prompts 0 (response.readIterations s.id)
      exact inside.cons determined
    | false =>
      rw [if_neg Bool.false_ne_true, if_neg Bool.false_ne_true]
      have inside : AllDetermined (s.prompts.map fun p => ⟨p.id, none, .hidden, none⟩) := by
        intro v mem
        obtain ⟨p, _, rfl⟩ := List.mem_map.1 mem
        rfl
      exact (Abreast.together state inside).cons determined
  · rw [left, right]
    exact .apart _ _ ⟨e, rfl, rfl⟩

/-- One item. Behind a prompt both walks put in the same answer, if they have not parted at it. -/
theorem abreast_replayItem (response : Response) (answers : AnswerSet) (item : Item) :
    Abreast policy policy' (replayItem policy response answers item) (replayItem policy' response answers item) := by
  cases item with
  | prompt p =>
    have visit := abreast_replayPrompt policy policy' answers.resolve p none (response.raw? p.id)
    exact visit.append fun answer => .together (answers.insert p.id answer) allDetermined_nil
  | set s => exact abreast_replaySet policy policy' answers s response answers

/-- **The replays under two policies are abreast.** Induction on the items, whatever has been answered before them. -/
theorem abreast_replayItems (response : Response) (answers : AnswerSet) (items : List Item) :
    Abreast policy policy' (replayItems policy response answers items)
      (replayItems policy' response answers items) := by
  induction items generalizing answers with
  | nil => exact .together answers allDetermined_nil
  | cons item items ih =>
    have first := abreast_replayItem policy policy' response answers item
    exact first.append fun next => ih next

/-- **The policy matters from the first undetermined item on.** If one of the two walks of a response leaves nothing
undetermined, they have the same report. Otherwise they make the same visits before the first item that either of them
leaves undetermined, and that item is undetermined in both for one reason. -/
theorem reports_part_at_undetermined {cache cache' : Cache} (reachable : cache.Reachable)
    (reachable' : cache'.Reachable) {d : Definition} {r : Response} (own : r.survey = d.id) :
    ∃ shown hidden, (walk .show cache d r).1 = .ok shown ∧ (walk .hide cache' d r).1 = .ok hidden ∧
      (AllDetermined shown.visits ∨ AllDetermined hidden.visits → shown = hidden) ∧
      (¬AllDetermined shown.visits ∨ ¬AllDetermined hidden.visits →
        ∃ before v v' after after', shown.visits = before ++ v :: after ∧ hidden.visits = before ++ v' :: after' ∧
          AllDetermined before ∧ v.Parts .show .hide v') := by
  have abreast := abreast_replayItems .show .hide r .empty d.items
  refine ⟨_, _, walk_eq_replay .show r reachable.sound own, walk_eq_replay .hide r reachable'.sound own, ?_,
    abreast.parts_of_undetermined⟩
  -- The first conjunct is the replays being one, the second is their parting.
  intro determined
  rw [abreast.eq_of_determined determined]

/-- A survey that compares an age with a word, and asks for an escort where the answer to that item says so. -/
def escortSurvey : Definition :=
  ⟨"escort", none,
    [.prompt ⟨"age", .number, none, false, []⟩,
      .prompt ⟨"alone", .boolean, some "age > old", false, []⟩,
      .prompt ⟨"name", .text, some "alone == false", false, []⟩]⟩

def escortUpload : Response :=
  ⟨"escort", [("age", .number (.integer 7)), ("alone", .bool false), ("name", .string "Ana")]⟩

/-- The walks part at an item that cannot be decided, and with it the statuses of the item behind it. -/
theorem reports_part_at_escort :
    ∃ shown hidden, (walk .show (.new 4) escortSurvey escortUpload).1 = .ok shown ∧
      (walk .hide (.new 0) escortSurvey escortUpload).1 = .ok hidden ∧
      (∃ before v v' after after', shown.visits = before ++ v :: after ∧ hidden.visits = before ++ v' :: after' ∧
        AllDetermined before ∧ v.Parts .show .hide v') ∧
      shown.status? "name" none = some .displayed ∧ hidden.status? "name" none = some .hidden := by
  obtain ⟨shown, hidden, walked, walked', _, part⟩ :=
    reports_part_at_undetermined (.new 4) (.new 0) (d := escortSurvey) (r := escortUpload) rfl
  have here : ((walk .show (.new 4) escortSurvey escortUpload).1.toOption.map fun report =>
      (report.visits.all (·.status.isDetermined), report.status? "name" none)) = some (false, some .displayed) := by
    decide +kernel
  have there : ((walk .hide (.new 0) escortSurvey escortUpload).1.toOption.map fun report =>
      report.status? "name" none) = some (some .hidden) := by
    decide +kernel
  rw [walked] at here
  rw [walked'] at there
  obtain ⟨doubt, name⟩ := Prod.mk.inj (Option.some.inj here)
  have left : ¬AllDetermined shown.visits := fun all => absurd (List.all_eq_true.2 all) (by simp [doubt])
  exact ⟨shown, hidden, walked, walked', part (.inl left), name, Option.some.inj there⟩

end SurveyFlow
