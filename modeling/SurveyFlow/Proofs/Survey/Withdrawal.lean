import Mathlib.Data.List.Forall2
import SurveyFlow.Proofs.Condition.Hiding
import SurveyFlow.Proofs.Survey.Explanation

/-!
# Withdrawing answers only hides more

A response from which answers have been withdrawn (`Response.Withdraws`) shows nothing that the whole response does
not show (`displayed_of_withdraws`). Side by side, the walk of the first one sees at every place the answers of
the other walk, or that the prompt was not shown (`AnswerSet.Hides`), and conditions are monotone in that
(`evaluate_atMost`). Statuses that the policy chose are not, so the definition must have no issues.
-/

namespace SurveyFlow

/-! ## Withdrawn answers -/

/-- There is no answer: it is absent, null, or one of the sentinels. -/
def NoAnswer (raw : Option Json) : Prop :=
  raw = none ∨ raw = some .null ∨ raw = some (.string notDisplayedMark) ∨ raw = some (.string skippedMark)

/-- Of the second members, some have been withdrawn in the first. -/
def Withdraws (answers' answers : Members) : Prop :=
  ∀ id, answers'.lookup id = answers.lookup id ∨ NoAnswer (answers'.lookup id)

/-- An entry of a list of iterations, with answers withdrawn inside it. -/
inductive WithdrawsIteration : Json → Json → Prop where
  | kept (item : Json) : WithdrawsIteration item item
  | inside {answers' answers : Members} :
    Withdraws answers' answers → WithdrawsIteration (.object answers') (.object answers)

/-- An answer to a prompt or a set: as it was, withdrawn, or with answers withdrawn inside its iterations. -/
inductive WithdrawsEntry : Option Json → Option Json → Prop where
  | kept (raw : Option Json) : WithdrawsEntry raw raw
  | withdrawn {raw' raw : Option Json} : NoAnswer raw' → WithdrawsEntry raw' raw
  | inside {items' items : List Json} :
    List.Forall₂ WithdrawsIteration items' items → WithdrawsEntry (some (.array items')) (some (.array items))

/-- The first response is the second one with some answers withdrawn. -/
structure Response.Withdraws (r' r : Response) : Prop where
  survey : r'.survey = r.survey
  entry : ∀ id, WithdrawsEntry (r'.raw? id) (r.raw? id)

/-! ## What is read -/

/-- The first answer is the second, or hidden. -/
def Answer.Hides (a' a : Answer) : Prop :=
  a' = a ∨ a' = .notDisplayed

/-- The lack of an answer counts as not displayed. -/
theorem reading_of_noAnswer (p : Prompt) {raw : Option Json} (h : NoAnswer raw) : p.reading raw = .notDisplayed := by
  rcases h with rfl | rfl | rfl | rfl <;> rfl

/-- An entry with answers withdrawn is read as it was, or as not displayed. -/
theorem hides_reading (p : Prompt) {raw' raw : Option Json} (h : WithdrawsEntry raw' raw) :
    (p.reading raw').Hides (p.reading raw) := by
  cases h with
  | kept => exact .inl rfl
  | withdrawn none => exact .inr (reading_of_noAnswer p none)
  | inside _ =>
    -- A list answers no prompt, whatever its type.
    right
    unfold Prompt.reading Prompt.decode Upload.ofRaw Prompt.decodeAnswer decodeValue?
    cases p.type <;> rfl

/-- Members with some withdrawn are entries, each as it was or withdrawn. -/
theorem withdrawsEntry_of_withdraws {answers' answers : Members} (h : Withdraws answers' answers) (id : String) :
    WithdrawsEntry (answers'.lookup id) (answers.lookup id) := by
  rcases h id with same | none
  · rw [same]
    exact .kept _
  · exact .withdrawn none

/-- An entry is an object exactly if it was one, and then answers have been withdrawn in it. -/
theorem rel_asObject? {item' item : Json} (h : WithdrawsIteration item' item) :
    Option.Rel Withdraws item'.asObject? item.asObject? := by
  cases h with
  | kept =>
    cases found : item'.asObject? with
    | none => exact .none
    | some answers => exact .some fun _ => .inl rfl
  | inside withdraws => exact .some withdraws

/-- A list with answers withdrawn in it is a list of objects exactly if it was one. -/
theorem rel_mapM_asObject? {items' items : List Json} (h : List.Forall₂ WithdrawsIteration items' items) :
    Option.Rel (List.Forall₂ Withdraws) (items'.mapM Json.asObject?) (items.mapM Json.asObject?) := by
  induction h with
  | nil => exact .some .nil
  | @cons item' item items' items first _ ih =>
    have head := rel_asObject? first
    rw [List.mapM_cons, List.mapM_cons]
    generalize item'.asObject? = found', item.asObject? = found at head
    generalize items'.mapM Json.asObject? = others', items.mapM Json.asObject? = others at ih
    cases head with
    | none => exact .none
    | some withdraws =>
      cases ih with
      | none => exact .none
      | some rest => exact .some (.cons withdraws rest)

/-- The iterations that are read: none, or as many, with answers withdrawn inside them. -/
theorem readIterations_of_withdraws {r' r : Response} (h : r'.Withdraws r) (set : String) :
    r'.readIterations set = [] ∨ List.Forall₂ Withdraws (r'.readIterations set) (r.readIterations set) := by
  have entry := h.entry set
  unfold Response.readIterations Response.iterations iterationsIn
  unfold Response.raw? at entry
  generalize r'.answers.lookup set = raw', r.answers.lookup set = raw at entry
  -- As it was, withdrawn, or still a list; a list that cannot be read stays so.
  cases entry with
  | kept => exact .inr (List.forall₂_same.2 fun _ _ _ => .inl rfl)
  | withdrawn none =>
    left
    rcases none with rfl | rfl | rfl | rfl <;> rfl
  | @inside items' items each =>
    have objects := rel_mapM_asObject? each
    dsimp only [Upload.ofRaw]
    generalize items'.mapM Json.asObject? = found', items.mapM Json.asObject? = found at objects
    cases objects with
    | none => exact .inl rfl
    | some iterations => exact .inr iterations

/-! ## Conditions -/

/-- The answer sets have entries for the same identifiers, those of the first being those of the second or
hidden. -/
def AnswerSet.Hides (s' s : AnswerSet) : Prop :=
  ∀ id, Option.Rel Answer.Hides (s'.get? id) (s.get? id)

theorem AnswerSet.hides_empty : empty.Hides empty :=
  fun _ => .none

/-- Conditions at the top level see the same answers, or hidden ones. -/
theorem hides_resolve {s' s : AnswerSet} (h : s'.Hides s) : Context.Hides s'.resolve s.resolve := by
  intro id
  have entry := h id
  unfold AnswerSet.resolve
  generalize s'.get? id = a', s.get? id = a at entry
  cases entry with
  | none => exact .inl rfl
  | some hides => exact hides.imp (fun same => by rw [same]) fun hidden => by rw [hidden]

theorem hides_layered {inner' inner outer' outer : AnswerSet} (h : inner'.Hides inner) (h' : outer'.Hides outer) :
    Context.Hides (layered inner' outer') (layered inner outer) := by
  intro id
  have entry := h id
  unfold layered
  generalize inner'.get? id = a', inner.get? id = a at entry
  cases entry with
  | none => exact hides_resolve h' id
  | some hides => exact hides.imp (fun same => by rw [same]) fun hidden => by rw [hidden]

/-- A condition that shows its item among hidden answers shows it among all of them, where neither status is
left to the policy. -/
theorem isDisplayed_of_hides {ctx' ctx : Context} (hides : ctx'.Hides ctx) {policy : Policy}
    {condition : Option String} (determined' : (conditionStatus policy ctx' condition).isDetermined = true)
    (determined : (conditionStatus policy ctx condition).isDetermined = true)
    (shown : (conditionStatus policy ctx' condition).isDisplayed = true) :
    (conditionStatus policy ctx condition).isDisplayed = true := by
  cases condition with
  | none => rfl
  | some text =>
    unfold conditionStatus evaluateCondition at *
    cases read : parseCondition text with
    | error e =>
      simp only [read] at determined
      cases determined
    | ok s =>
      -- Both conditions have values, and the first is at most the second.
      have atMost := evaluate_atMost hides s
      simp only [read] at determined' determined shown ⊢
      cases value' : (s.evaluate ctx').result with
      | error e =>
        rw [value'] at determined'
        cases determined'
      | ok b' =>
        cases value : (s.evaluate ctx).result with
        | error e =>
          rw [value] at determined
          cases determined
        | ok b =>
          rw [value'] at shown
          cases b' with
          | false => cases shown
          | true =>
            rw [atMost b value' value]
            rfl

/-! ## The two walks -/

/-- What the first visits show, the others show. -/
def ShownIn (visits' visits : List Visit) : Prop :=
  ∀ v' ∈ visits', v'.status.isDisplayed = true →
    ∃ v ∈ visits, v.item = v'.item ∧ v.iteration = v'.iteration ∧ v.status.isDisplayed = true

theorem shownIn_nil (visits : List Visit) : ShownIn [] visits :=
  fun _ mem => absurd mem List.not_mem_nil

theorem shownIn_of_hidden {visits' visits : List Visit} (h : ∀ v' ∈ visits', v'.status.isDisplayed = false) :
    ShownIn visits' visits := by
  intro v' mem shown
  rw [h v' mem] at shown
  cases shown

theorem shownIn_singleton {v' v : Visit} (item : v.item = v'.item) (iteration : v.iteration = v'.iteration)
    (shown : v'.status.isDisplayed = true → v.status.isDisplayed = true) : ShownIn [v'] [v] := by
  intro w mem displayed
  rw [List.mem_singleton.1 mem] at displayed ⊢
  exact ⟨v, List.mem_singleton_self v, item, iteration, shown displayed⟩

/-- Visits side by side may be followed by others side by side. -/
theorem ShownIn.append {first' first others' others : List Visit} (h : ShownIn first' first)
    (h' : ShownIn others' others) : ShownIn (first' ++ others') (first ++ others) := by
  intro v' mem shown
  rcases List.mem_append.1 mem with inFirst | inOthers
  · obtain ⟨v, found, same⟩ := h v' inFirst shown
    exact ⟨v, List.mem_append_left _ found, same⟩
  · obtain ⟨v, found, same⟩ := h' v' inOthers shown
    exact ⟨v, List.mem_append_right _ found, same⟩

theorem ShownIn.cons {v' v : Visit} {others' others : List Visit} (h : ShownIn [v'] [v])
    (h' : ShownIn others' others) : ShownIn (v' :: others') (v :: others) :=
  h.append h'

/-- One prompt: what the first walk shows the other shows, and the answers that they leave stay side by side. -/
theorem shownIn_replayPrompt {policy : Policy} {ctx' ctx : Context} (hides : ctx'.Hides ctx) (p : Prompt)
    (iteration : Option Nat) {raw' raw : Option Json} (withdraws : WithdrawsEntry raw' raw)
    (determined' : (replayPrompt policy ctx' p iteration raw').1.status.isDetermined = true)
    (determined : (replayPrompt policy ctx p iteration raw).1.status.isDetermined = true) :
    ShownIn [(replayPrompt policy ctx' p iteration raw').1] [(replayPrompt policy ctx p iteration raw).1] ∧
      (replayPrompt policy ctx' p iteration raw').2.Hides (replayPrompt policy ctx p iteration raw).2 := by
  have shown : (conditionStatus policy ctx' p.condition).isDisplayed = true →
      (conditionStatus policy ctx p.condition).isDisplayed = true :=
    isDisplayed_of_hides hides determined' determined
  unfold replayPrompt
  dsimp only
  rw [answer_of_settle, answer_of_settle]
  refine ⟨shownIn_singleton rfl rfl shown, ?_⟩
  cases displayed : (conditionStatus policy ctx' p.condition).isDisplayed with
  | false => exact .inr rfl
  | true =>
    rw [shown displayed]
    exact hides_reading p withdraws

/-- The prompts of an iteration. Induction on the prompts, the scopes staying side by side. -/
theorem shownIn_replayPrompts {policy : Policy} {outer' outer : AnswerSet} (hides : outer'.Hides outer) {index : Nat}
    {uploaded' uploaded : Members} (withdraws : Withdraws uploaded' uploaded) {scope' scope : AnswerSet}
    (inside : scope'.Hides scope) {prompts : List Prompt}
    (determined' : AllDetermined (replayPrompts policy outer' index uploaded' scope' prompts).1)
    (determined : AllDetermined (replayPrompts policy outer index uploaded scope prompts).1) :
    ShownIn (replayPrompts policy outer' index uploaded' scope' prompts).1
      (replayPrompts policy outer index uploaded scope prompts).1 := by
  induction prompts generalizing scope' scope with
  | nil => exact shownIn_nil _
  | cons p prompts ih =>
    obtain ⟨first', others'⟩ := List.forall_mem_cons.1 determined'
    obtain ⟨first, others⟩ := List.forall_mem_cons.1 determined
    obtain ⟨shown, answers⟩ := shownIn_replayPrompt (hides_layered inside hides) p (some index)
      (withdrawsEntry_of_withdraws withdraws p.id) first' first
    have rest := ih (AnswerSet.rel_get?_insert inside p.id answers) others' others
    exact shown.cons rest

/-- The iterations, as many on both sides, each with answers withdrawn. -/
theorem shownIn_replayIterations {policy : Policy} {outer' outer : AnswerSet} (hides : outer'.Hides outer)
    {prompts : List Prompt} {iterations' iterations : List Members}
    (withdraws : List.Forall₂ Withdraws iterations' iterations) (start : Nat)
    (determined' : AllDetermined (replayIterations policy outer' prompts start iterations'))
    (determined : AllDetermined (replayIterations policy outer prompts start iterations)) :
    ShownIn (replayIterations policy outer' prompts start iterations')
      (replayIterations policy outer prompts start iterations) := by
  induction withdraws generalizing start with
  | nil => exact shownIn_nil _
  | cons first _ ih =>
    obtain ⟨here', later'⟩ := List.forall_mem_append.1 determined'
    obtain ⟨here, later⟩ := List.forall_mem_append.1 determined
    have shown := shownIn_replayPrompts hides first AnswerSet.hides_empty here' here
    exact shown.append (ih (start + 1) later' later)

/-- A set: what the first walk shows of it, the other shows, as both read the iterations that are left. -/
theorem shownIn_replaySet {policy : Policy} {r' r : Response} (withdraws : r'.Withdraws r) (s : RepeatableSet)
    {answers' answers : AnswerSet} (hides : answers'.Hides answers)
    (determined' : AllDetermined (replaySet policy s r' answers'))
    (determined : AllDetermined (replaySet policy s r answers)) :
    ShownIn (replaySet policy s r' answers') (replaySet policy s r answers) := by
  unfold replaySet at *
  dsimp only at *
  obtain ⟨gate', inside'⟩ := List.forall_mem_cons.1 determined'
  obtain ⟨gate, inside⟩ := List.forall_mem_cons.1 determined
  dsimp only at gate' gate
  cases displayed' : (conditionStatus policy answers'.resolve s.condition).isDisplayed with
  | false =>
    -- A hidden set shows nothing, with whatever iterations.
    apply shownIn_of_hidden
    rw [if_neg Bool.false_ne_true, List.forall_mem_cons]
    refine ⟨displayed', fun v' mem => ?_⟩
    obtain ⟨p, _, rfl⟩ := List.mem_map.1 mem
    rfl
  | true =>
    have displayed := isDisplayed_of_hides (hides_resolve hides) gate' gate displayed'
    rw [displayed', if_pos rfl, iterations_of_settleSet] at inside'
    rw [displayed, if_pos rfl, iterations_of_settleSet] at inside
    rw [displayed, if_pos rfl, if_pos rfl, iterations_of_settleSet, iterations_of_settleSet]
    refine ShownIn.cons (shownIn_singleton rfl rfl fun _ => displayed) ?_
    rcases readIterations_of_withdraws withdraws s.id with none | each
    · rw [none]
      exact shownIn_nil _
    · exact shownIn_replayIterations hides each 0 inside' inside

/-- **The items.** Induction on the items, the answers at the top level staying side by side. -/
theorem shownIn_replayItems {policy : Policy} {r' r : Response} (withdraws : r'.Withdraws r) {items : List Item}
    {answers' answers : AnswerSet} (hides : answers'.Hides answers)
    (determined' : AllDetermined (replayItems policy r' answers' items).1)
    (determined : AllDetermined (replayItems policy r answers items).1) :
    ShownIn (replayItems policy r' answers' items).1 (replayItems policy r answers items).1 := by
  induction items generalizing answers' answers with
  | nil => exact shownIn_nil _
  | cons item items ih =>
    obtain ⟨here', later'⟩ := List.forall_mem_append.1 determined'
    obtain ⟨here, later⟩ := List.forall_mem_append.1 determined
    cases item with
    | prompt p =>
      obtain ⟨shown, left⟩ := shownIn_replayPrompt (hides_resolve hides) p none (withdraws.entry p.id)
        (here' _ (List.mem_singleton_self _)) (here _ (List.mem_singleton_self _))
      have rest := ih (AnswerSet.rel_get?_insert hides p.id left) later' later
      exact shown.cons rest
    | set s =>
      have shown := shownIn_replaySet withdraws s hides here' here
      exact shown.append (ih hides later' later)

/-- **Withdrawing answers only hides more.** In a survey without issues, whatever the walk of a response with
withdrawn answers shows, the walk of the whole response shows, whatever the caches hold. -/
theorem displayed_of_withdraws (policy : Policy) {cache cache' : Cache} (reachable : cache.Reachable)
    (reachable' : cache'.Reachable) {d : Definition} (valid : validate d = []) {r r' : Response}
    (own : r.survey = d.id) (withdraws : r'.Withdraws r) :
    ∃ report report', (walk policy cache d r).1 = .ok report ∧ (walk policy cache' d r').1 = .ok report' ∧
      ∀ item iteration status', (item, iteration, status') ∈ report'.outcomes → status'.isDisplayed = true →
        ∃ status, (item, iteration, status) ∈ report.outcomes ∧ status.isDisplayed = true := by
  have own' : r'.survey = d.id := withdraws.survey.trans own
  refine ⟨_, _, walk_eq_replay policy r reachable.sound own, walk_eq_replay policy r' reachable'.sound own', ?_⟩
  have shownIn := shownIn_replayItems withdraws AnswerSet.hides_empty (isDetermined_of_valid valid policy r')
    (isDetermined_of_valid valid policy r)
  intro item iteration status' mem shown
  obtain ⟨v', visited, same⟩ := List.mem_map.1 mem
  cases same
  -- The visit that shows the item stands at the same place in the other report.
  obtain ⟨v, found, sameItem, sameIteration, displayed⟩ := shownIn v' visited shown
  refine ⟨v.status, List.mem_map.2 ⟨v, found, ?_⟩, displayed⟩
  rw [Visit.outcome, sameItem, sameIteration]

/-- A survey on meals, with the price of whatever is not water. -/
def dietSurvey : Definition :=
  ⟨"diet", none,
    [.prompt ⟨"hungry", .boolean, none, true, []⟩,
      .set ⟨"meals", some "hungry != false",
        [⟨"food", .text, none, false, []⟩, ⟨"price", .number, some "food != water", true, []⟩]⟩]⟩

/-- A participant with two meals. -/
def dietUpload : Response :=
  ⟨"diet", [("hungry", .bool true),
    ("meals", .array [.object [("food", .string "soup"), ("price", .number (.integer 5))],
      .object [("food", .string "bread"), ("price", .number (.integer 2))]])]⟩

/-- The same without the first food, on which a price depends, and without the second price. -/
def dietWithdrawn : Response :=
  ⟨"diet", [("hungry", .bool true),
    ("meals", .array [.object [("food", .null), ("price", .number (.integer 5))],
      .object [("food", .string "bread"), ("price", .string "SKIPPED")]])]⟩

/-- What is shown of the meals without the food is shown with it. -/
theorem displayed_of_withdrawn_food :
    ∃ report report', (walk .show (.new 4) dietSurvey dietUpload).1 = .ok report ∧
      (walk .show (.new 4) dietSurvey dietWithdrawn).1 = .ok report' ∧
      ∀ item iteration status', (item, iteration, status') ∈ report'.outcomes → status'.isDisplayed = true →
        ∃ status, (item, iteration, status) ∈ report.outcomes ∧ status.isDisplayed = true := by
  have valid : validate dietSurvey = [] := by decide +kernel
  have firstMeal : WithdrawsIteration (.object [("food", .null), ("price", .number (.integer 5))])
      (.object [("food", .string "soup"), ("price", .number (.integer 5))]) := by
    refine .inside fun id => ?_
    simp only [List.lookup_cons, List.lookup_nil]
    cases id == "food" with
    | true => exact .inr (.inr (.inl rfl))
    | false => exact .inl rfl
  have secondMeal : WithdrawsIteration (.object [("food", .string "bread"), ("price", .string "SKIPPED")])
      (.object [("food", .string "bread"), ("price", .number (.integer 2))]) := by
    refine .inside fun id => ?_
    simp only [List.lookup_cons, List.lookup_nil]
    cases id == "food" with
    | true => exact .inl rfl
    | false =>
      cases id == "price" with
      | true => exact .inr (.inr (.inr (.inr rfl)))
      | false => exact .inl rfl
  have withdraws : dietWithdrawn.Withdraws dietUpload := by
    refine ⟨rfl, fun id => ?_⟩
    simp only [Response.raw?, dietWithdrawn, dietUpload, List.lookup_cons, List.lookup_nil]
    cases id == "hungry" with
    | true => exact .kept _
    | false =>
      cases id == "meals" with
      | true => exact .inside (.cons firstMeal (.cons secondMeal .nil))
      | false => exact .kept _
  exact displayed_of_withdraws .show (.new 4) (.new 4) valid rfl withdraws

end SurveyFlow
