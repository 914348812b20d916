import SurveyFlow.Proofs.Condition.Comparisons
import SurveyFlow.Proofs.Survey.Explanation
import SurveyFlow.Proofs.Survey.Places
import SurveyFlow.Survey.Scope

/-!
# The walk and the evaluation on an upload

A walk finds out step by step what conditions see: it records the answers of the prompts that it has visited, and
drops those of hidden ones. An evaluation on an upload looks each identifier up in the definition and reads its raw
answer there and then. They differ on prompts that are declared later, on answers of hidden prompts and on answers
that cannot be read; and none of these is left in a definition without issues and an upload without faults:

* **`ReadFrom`** — what such a walk has recorded are the raw answers as they are read (`decode_of_settle`);
* **`context_of_resolve`**, **`context_of_layered`** — so the scope of an upload knows what the walk knows;
* **`evaluateResponse_of_consistent`** — and each status is the value of its condition on the upload.
-/

namespace SurveyFlow

/-- Whether the item is shown, if it was visited there. -/
def Report.shows? (report : Report) (item : String) (iteration : Option Nat) : Option Bool :=
  (report.status? item iteration).map Status.isDisplayed

/-- The upload has nothing against any of the statuses. -/
def Faultless (visits : List Visit) : Prop :=
  ∀ v ∈ visits, v.finding = none

/-- In a consistent report no visit has found a fault. -/
theorem faultless_of_isConsistent {report : Report} (h : report.isConsistent = true) : Faultless report.visits := by
  have none : report.faults = [] := List.isEmpty_iff.1 h
  intro v mem
  have skipped := List.filterMap_eq_nil_iff.1 none v mem
  exact Option.map_eq_none_iff.1 skipped

/-! ## What is recorded -/

/-- An upload that has nothing against the status of a prompt is read to the answer that is recorded. -/
theorem decode_of_settle {p : Prompt} {status : Status} {raw : Option Json}
    (faultless : (settle p status (Upload.ofRaw raw)).1 = none) :
    p.decode raw = .ok (settle p status (Upload.ofRaw raw)).2 := by
  unfold settle at *
  unfold Prompt.decode
  cases upload : Upload.ofRaw raw with
  | nothing | notDisplayed | skipped =>
    -- Without an answer both have a prompt that was not shown.
    cases status.isDisplayed <;> rfl
  | value raw =>
    rw [upload] at faultless
    cases displayed : status.isDisplayed with
    | false =>
      rw [displayed] at faultless
      cases faultless
    | true =>
      rw [displayed] at faultless
      dsimp only at faultless ⊢
      cases read : p.decodeAnswer raw with
      | ok answer => rfl
      | error e =>
        rw [read] at faultless
        cases faultless

/-- Every recorded answer is that of one of the prompts, as it is read from the upload. -/
def ReadFrom (uploaded : Members) (prompts : List Prompt) (answers : AnswerSet) : Prop :=
  ∀ id answer, answers.get? id = some answer →
    ∃ p, prompts.find? (fun p => p.id == id) = some p ∧ p.decode (uploaded.lookup id) = .ok answer

theorem readFrom_empty (uploaded : Members) : ReadFrom uploaded [] .empty := by
  intro id answer recorded
  rw [AnswerSet.get?_empty] at recorded
  cases recorded

/-- One more answer is recorded, of a prompt whose id is new. -/
theorem readFrom_insert {uploaded : Members} {prompts : List Prompt} {answers : AnswerSet} {p : Prompt}
    {answer : Answer} (before : ReadFrom uploaded prompts answers) (new : p.id ∉ prompts.map Prompt.id)
    (read : p.decode (uploaded.lookup p.id) = .ok answer) :
    ReadFrom uploaded (prompts ++ [p]) (answers.insert p.id answer) := by
  intro id answer' recorded
  rw [AnswerSet.get?_insert] at recorded
  rw [find?_append_new new]
  -- The new id is found at the new prompt, any other one before it.
  by_cases same : id = p.id
  · rw [if_pos same] at recorded ⊢
    rw [same, ← Option.some.inj recorded]
    exact ⟨p, rfl, read⟩
  · rw [if_neg same] at recorded ⊢
    exact before id answer' recorded

section Walk

variable (policy : Policy) (r : Response)

/-- A visit without a fault records the answer as it is read. -/
theorem readFrom_replayPrompt {uploaded : Members} {prompts : List Prompt} {answers : AnswerSet} {p : Prompt}
    (before : ReadFrom uploaded prompts answers) (new : p.id ∉ prompts.map Prompt.id) {ctx : Context}
    {iteration : Option Nat}
    (faultless : (replayPrompt policy ctx p iteration (uploaded.lookup p.id)).1.finding = none) :
    ReadFrom uploaded (prompts ++ [p])
      (answers.insert p.id (replayPrompt policy ctx p iteration (uploaded.lookup p.id)).2) :=
  readFrom_insert before new (decode_of_settle faultless)

/-- The prompts of an iteration. Induction on the prompts, those of `inner` being behind. -/
theorem readFrom_replayPrompts {outer : AnswerSet} {index : Nat} {uploaded : Members} {inner prompts : List Prompt}
    {scope : AnswerSet} (behind : ReadFrom uploaded inner scope)
    (distinct : (inner.map Prompt.id ++ prompts.map Prompt.id).Nodup)
    (faultless : Faultless (replayPrompts policy outer index uploaded scope prompts).1) :
    ReadFrom uploaded (inner ++ prompts) (replayPrompts policy outer index uploaded scope prompts).2 := by
  induction prompts generalizing inner scope with
  | nil =>
    rw [List.append_nil]
    exact behind
  | cons p prompts ih =>
    obtain ⟨new, distinct⟩ := nodup_next distinct
    obtain ⟨here, others⟩ := List.forall_mem_cons.1 faultless
    have next := readFrom_replayPrompt policy behind new here
    rw [← List.singleton_append, ← List.append_assoc]
    exact ih next distinct others

/-- The items. Induction on the items, the prompts of `outer` being behind. -/
theorem readFrom_replayItems {outer : List Prompt} {items : List Item} {answers : AnswerSet}
    (behind : ReadFrom r.answers outer answers)
    (distinct : (outer.map Prompt.id ++ items.flatMap Item.ids).Nodup)
    (faultless : Faultless (replayItems policy r answers items).1) :
    ReadFrom r.answers (outer ++ items.filterMap Item.asPrompt?) (replayItems policy r answers items).2 := by
  induction items generalizing outer answers with
  | nil =>
    rw [List.filterMap_nil, List.append_nil]
    exact behind
  | cons item items ih =>
    rw [List.flatMap_cons] at distinct
    cases item with
    | prompt p =>
      obtain ⟨new, distinct⟩ := nodup_next distinct
      obtain ⟨here, others⟩ := List.forall_mem_cons.1 faultless
      have next := readFrom_replayPrompt policy behind new here
      have prompts : (Item.prompt p :: items).filterMap Item.asPrompt? = [p] ++ items.filterMap Item.asPrompt? := rfl
      rw [prompts, ← List.append_assoc]
      exact ih next distinct others
    -- A set records nothing at the top level.
    | set s =>
      have later : (outer.map Prompt.id ++ items.flatMap Item.ids).Nodup := nodup_past distinct
      exact ih behind later (List.forall_mem_append.1 faultless).2

end Walk

/-! ## What the scope of an upload knows -/

section Scope

variable {d : Definition} {uploaded : Members} {before after : List Item} {item : Item} {answers : AnswerSet}

/-- A prompt that is recorded at an item is found in the definition. -/
theorem prompt?_of_readFrom (split : d.items = before ++ item :: after)
    (read : ReadFrom uploaded (before.filterMap Item.asPrompt?) answers) {i : String} {answer : Answer}
    (known : answers.resolve i = .ok (.known answer)) :
    ∃ p ∈ before.filterMap Item.asPrompt?, p.id = i ∧ d.prompt? i = some p ∧
      p.decode (uploaded.lookup i) = .ok answer := by
  have recorded : answers.get? i = some answer := by
    unfold AnswerSet.resolve at known
    cases entry : answers.get? i with
    | none =>
      rw [entry] at known
      cases known
    | some a =>
      rw [entry] at known
      cases known
      rfl
  obtain ⟨p, found, decoded⟩ := read i answer recorded
  have named : p.id = i := beq_iff_eq.1 (List.find?_some (p := fun q : Prompt => q.id == i) found)
  refine ⟨p, List.mem_of_find?_eq_some found, named, ?_, decoded⟩
  rw [Definition.prompt?, Definition.topPrompts, split, List.filterMap_append, List.find?_append, found]
  rfl

/-- **The scope of an upload knows what the walk knows,** outside sets. -/
theorem context_of_resolve (split : d.items = before ++ item :: after)
    (read : ReadFrom uploaded (before.filterMap Item.asPrompt?) answers) {i : String} {answer : Answer}
    (known : answers.resolve i = .ok (.known answer)) :
    UploadScope.context ⟨d, uploaded, none⟩ i = .ok (.known answer) := by
  obtain ⟨p, _, _, found, decoded⟩ := prompt?_of_readFrom split read known
  have place : UploadScope.find? ⟨d, uploaded, none⟩ i = some (p, uploaded.lookup i) := by
    simp [UploadScope.find?, found]
  simp [UploadScope.context, UploadScope.resolve, place, decoded, Except.map, Except.mapError]

/-- In a set, the prompts of the set come first in both. A prompt at the top level is none of them. -/
theorem context_of_layered {s : RepeatableSet} (split : d.items = before ++ .set s :: after) (distinct : d.ids.Nodup)
    (read : ReadFrom uploaded (before.filterMap Item.asPrompt?) answers) {own : Members} {first prompts : List Prompt}
    (inside : s.prompts = first ++ prompts) {scope : AnswerSet} (readOwn : ReadFrom own first scope) {i : String}
    {answer : Answer} (known : layered scope answers i = .ok (.known answer)) :
    UploadScope.context ⟨d, uploaded, some (s, own)⟩ i = .ok (.known answer) := by
  suffices place : ∃ p raw, UploadScope.find? ⟨d, uploaded, some (s, own)⟩ i = some (p, raw) ∧
      p.decode raw = .ok answer by
    obtain ⟨p, raw, place, decoded⟩ := place
    simp [UploadScope.context, UploadScope.resolve, place, decoded, Except.map, Except.mapError]
  unfold layered at known
  cases entry : scope.get? i with
  | some a =>
    rw [entry] at known
    cases known
    -- The search in the whole set ends among the prompts that have been visited.
    obtain ⟨p, found, decoded⟩ := readOwn i answer entry
    refine ⟨p, own.lookup i, ?_, decoded⟩
    simp [UploadScope.find?, RepeatableSet.prompt?, inside, List.find?_append, found]
  | none =>
    rw [entry] at known
    obtain ⟨p, mem, named, found, decoded⟩ := prompt?_of_readFrom split read known
    have foreign : i ∉ s.prompts.map Prompt.id := by
      -- Otherwise the id would be declared before the set and in it.
      intro inSet
      refine not_mem_prompts_of_split distinct split (List.mem_cons_of_mem s.id inSet) ?_
      rw [← named]
      exact List.mem_map_of_mem mem
    have absent : s.prompt? i = none := by
      rw [RepeatableSet.prompt?, List.find?_eq_none]
      intro q inSet clash
      exact foreign (List.mem_map.2 ⟨q, inSet, beq_iff_eq.1 clash⟩)
    refine ⟨p, uploaded.lookup i, ?_, decoded⟩
    simp [UploadScope.find?, absent, found]

end Scope

/-! ## Values -/

/-- A status that a condition has decided is its value in any context that knows what was known. -/
theorem evaluate_of_determined {policy : Policy} {ctx ctx' : Context} {text : String}
    (determined : (conditionStatus policy ctx (some text)).isDetermined = true)
    (agree : ∀ i answer, ctx i = .ok (.known answer) → ctx' i = .ok (.known answer)) :
    ∃ s, parseCondition text = .ok s ∧
      (s.evaluate ctx').result = .ok (conditionStatus policy ctx (some text)).isDisplayed := by
  unfold conditionStatus evaluateCondition at *
  dsimp only at *
  cases read : parseCondition text with
  | error e =>
    rw [read] at determined
    cases determined
  | ok s =>
    rw [read] at determined
    refine ⟨s, rfl, ?_⟩
    dsimp only at *
    cases value : (s.evaluate ctx).result with
    | error e =>
      rw [value] at determined
      cases determined
    -- The evaluator has looked up known answers only, so the other context gives it the same ones.
    | ok b =>
      rw [← evaluate_eq_of_known value agree, value]
      cases b <;> rfl

/-- The evaluation on a whole response. -/
theorem evaluateResponse_top {d : Definition} {r : Response} (own : r.survey = d.id) {text : String} {s : Sentence}
    {b : Bool} (parsed : parseCondition text = .ok s)
    (value : (s.evaluate (UploadScope.context ⟨d, r.answers, none⟩)).result = .ok b) :
    evaluateResponse d r none text = .ok b := by
  have whole : UploadScope.new d r = .ok ⟨d, r.answers, none⟩ := if_pos own.symm
  unfold evaluateResponse
  rw [parsed, whole]
  show ((s.evaluate _).result.mapError _).mapError _ = _
  rw [value]
  rfl

/-- The evaluation on an iteration of a set. -/
theorem evaluateResponse_inside {d : Definition} {r : Response} (own : r.survey = d.id) {set : RepeatableSet}
    (declared : d.set? set.id = some set) {iterations : List Members} (read : r.iterations set.id = .ok iterations)
    {index : Nat} {uploaded : Members} (there : iterations[index]? = some uploaded) {text : String} {s : Sentence}
    {b : Bool} (parsed : parseCondition text = .ok s)
    (value : (s.evaluate (UploadScope.context ⟨d, r.answers, some (set, uploaded)⟩)).result = .ok b) :
    evaluateResponse d r (some (set.id, index)) text = .ok b := by
  have whole : UploadScope.new d r = .ok ⟨d, r.answers, none⟩ := if_pos own.symm
  have inside : UploadScope.enter ⟨d, r.answers, none⟩ set.id index = .ok ⟨d, r.answers, some (set, uploaded)⟩ := by
    unfold Response.iterations at read
    unfold UploadScope.enter
    simp only [declared, read, bind, Except.bind, there]
    rfl
  unfold evaluateResponse
  rw [parsed, whole]
  show (do
    let scope ← (UploadScope.enter ⟨d, r.answers, none⟩ set.id index).mapError Failure.survey
    ((s.evaluate scope.context).result.mapError _).mapError _) = _
  rw [inside]
  show ((s.evaluate _).result.mapError _).mapError _ = _
  rw [value]
  rfl

/-! ## The two ways agree -/

/-- The report of a walk without a cache. -/
def replayReport (policy : Policy) (d : Definition) (r : Response) : Report :=
  ⟨d.id, (replayItems policy r .empty d.items).1⟩

/-- Every item is visited once by itself, with the status that its condition has there. -/
theorem mem_replayItem (policy : Policy) (r : Response) (answers : AnswerSet) (item : Item) :
    ∃ v ∈ (replayItem policy r answers item).1, v.item = item.id ∧ v.iteration = none ∧
      v.status = conditionStatus policy answers.resolve item.condition := by
  cases item with
  | prompt p => exact ⟨_, List.mem_singleton_self _, rfl, rfl, rfl⟩
  | set s => exact ⟨_, List.mem_cons_self, rfl, rfl, rfl⟩

section Consistent

variable {policy : Policy} {d : Definition} {r : Response} {before after : List Item} {item : Item}

/-- What a walk without faults has recorded when it comes to an item, and the visits that it makes there. -/
theorem replay_at_item (distinct : d.ids.Nodup) (faultless : Faultless (replayReport policy d r).visits)
    (split : d.items = before ++ item :: after) :
    ReadFrom r.answers (before.filterMap Item.asPrompt?) (replayItems policy r .empty before).2 ∧
      (replayItem policy r (replayItems policy r .empty before).2 item).1 ⊆
        (replayReport policy d r).visits := by
  have visits : (replayReport policy d r).visits = (replayItems policy r .empty before).1 ++
      ((replayItem policy r (replayItems policy r .empty before).2 item).1 ++ (replayItems policy r
        (replayItem policy r (replayItems policy r .empty before).2 item).2 after).1) := by
    rw [replayReport, split, replayItems_append]
    rfl
  constructor
  · rw [visits] at faultless
    have first : (before.flatMap Item.ids).Nodup := by
      rw [Definition.ids, split, List.flatMap_append] at distinct
      exact (List.nodup_append.1 distinct).1
    exact readFrom_replayItems policy r (readFrom_empty r.answers) first (List.forall_mem_append.1 faultless).1
  · rw [visits]
    exact List.Subset.trans (List.subset_append_left _ _) (List.subset_append_right _ _)

/-- The report shows an item where the visit of it does. -/
theorem shows?_of_mem (distinct : d.ids.Nodup) {v : Visit} (mem : v ∈ (replayReport policy d r).visits) :
    (replayReport policy d r).shows? v.item v.iteration = some v.status.isDisplayed := by
  have places := (places_replayItems policy r .empty distinct).1
  rw [Report.shows?, status?_of_mem places mem]
  rfl

/-- An item of the survey: its condition was decided on answers that the scope of the upload knows as well. -/
theorem evaluateResponse_item (valid : validate d = []) (own : r.survey = d.id)
    (faultless : Faultless (replayReport policy d r).visits) (mem : item ∈ d.items) {text : String}
    (condition : item.condition = some text) :
    ∃ b, (replayReport policy d r).shows? item.id none = some b ∧
      evaluateResponse d r none text = .ok b := by
  have distinct : d.ids.Nodup := nodup_ids_of_validate (by simp [valid])
  obtain ⟨before, after, split⟩ := List.append_of_mem mem
  obtain ⟨recorded, here⟩ := replay_at_item distinct faultless split
  obtain ⟨v, visited, sameItem, sameIteration, status⟩ :=
    mem_replayItem policy r (replayItems policy r .empty before).2 item
  rw [condition] at status
  -- Nothing is undetermined in a definition without issues.
  have determined := isDetermined_of_valid valid policy r v (here visited)
  rw [status] at determined
  obtain ⟨s, parsed, value⟩ := evaluate_of_determined determined fun _ _ => context_of_resolve split recorded
  refine ⟨v.status.isDisplayed, ?_, ?_⟩
  · rw [← sameItem, ← sameIteration]
    exact shows?_of_mem distinct (here visited)
  · rw [status]
    exact evaluateResponse_top own parsed value

/-- The ids of the sets are among those of all items, in the same order. -/
theorem sublist_ids_of_sets (items : List Item) :
    ((items.filterMap Item.asSet?).map RepeatableSet.id).Sublist (items.flatMap Item.ids) := by
  induction items with
  | nil => exact .slnil
  | cons item items ih =>
    cases item with
    | prompt p => exact ih.cons p.id
    | set s => exact (ih.trans (List.sublist_append_right _ _)).cons_cons s.id

theorem nodup_prompts_of_set (distinct : d.ids.Nodup) {s : RepeatableSet}
    (split : d.items = before ++ .set s :: after) : (s.prompts.map Prompt.id).Nodup := by
  rw [ids_of_split split] at distinct
  have ofSet : (Item.set s).ids.Nodup := (List.nodup_append.1 (List.nodup_append.1 distinct).2.1).1
  exact (List.nodup_cons.1 ofSet).2

/-- A set is found by its id. -/
theorem set?_of_mem (distinct : d.ids.Nodup) {s : RepeatableSet} (mem : Item.set s ∈ d.items) :
    d.set? s.id = some s := by
  have ids : (d.sets.map RepeatableSet.id).Nodup := distinct.sublist (sublist_ids_of_sets d.items)
  have inSets : s ∈ d.sets := List.mem_filterMap.2 ⟨.set s, mem, rfl⟩
  exact find?_eq_some_of_nodup ids inSets fun _ => beq_iff_eq

/-- A set that the upload has nothing against has iterations that can be read. -/
theorem iterations_of_faultless {status : Status} {set : String}
    (faultless : (settleSet status (r.iterations set)).1 = none) : r.iterations set = .ok (r.readIterations set) := by
  unfold Response.readIterations
  cases read : r.iterations set with
  | error e =>
    rw [read] at faultless
    cases faultless
  | ok iterations => rfl

/-- A set that is shown is visited in each of its iterations. -/
theorem replay_at_set (distinct : d.ids.Nodup) (faultless : Faultless (replayReport policy d r).visits)
    {s : RepeatableSet} (split : d.items = before ++ .set s :: after)
    (shown : (replayReport policy d r).shows? s.id none = some true) :
    r.iterations s.id = .ok (r.readIterations s.id) ∧
      ∀ index uploaded, (r.readIterations s.id)[index]? = some uploaded →
        (replayPrompts policy (replayItems policy r .empty before).2 index uploaded .empty s.prompts).1 ⊆
          (replayReport policy d r).visits := by
  obtain ⟨_, here⟩ := replay_at_item distinct faultless split
  rw [replayItem, replaySet] at here
  obtain ⟨gate, inside⟩ := List.cons_subset.1 here
  have displayed : (conditionStatus policy (replayItems policy r .empty before).2.resolve s.condition).isDisplayed :=
    Option.some.inj ((shows?_of_mem distinct gate).symm.trans shown)
  rw [if_pos displayed, iterations_of_settleSet] at inside
  refine ⟨iterations_of_faultless (faultless _ gate), fun index uploaded there => ?_⟩
  have iteration := subset_replayIterations policy (replayItems policy r .empty before).2 s.prompts 0 there
  rw [Nat.zero_add] at iteration
  exact List.Subset.trans iteration inside

/-- What an iteration has recorded when it comes to a prompt, and the visit that it makes there. -/
theorem replay_at_prompt {outer : AnswerSet} {index : Nat} {uploaded : Members} {prompts first others : List Prompt}
    {p : Prompt} (distinct : (prompts.map Prompt.id).Nodup)
    (faultless : Faultless (replayPrompts policy outer index uploaded .empty prompts).1)
    (split : prompts = first ++ p :: others) :
    ReadFrom uploaded first (replayPrompts policy outer index uploaded .empty first).2 ∧
      (replayPrompt policy (layered (replayPrompts policy outer index uploaded .empty first).2 outer) p (some index)
        (uploaded.lookup p.id)).1 ∈ (replayPrompts policy outer index uploaded .empty prompts).1 := by
  rw [split, replayPrompts_append] at faultless ⊢
  constructor
  · have ids : (first.map Prompt.id).Nodup := by
      rw [split, List.map_append] at distinct
      exact (List.nodup_append.1 distinct).1
    exact readFrom_replayPrompts policy (readFrom_empty uploaded) ids (List.forall_mem_append.1 faultless).1
  · rw [replayPrompts]
    exact List.mem_append_right _ List.mem_cons_self

/-- A prompt in an iteration of a set that is shown. What the walk knows there is in the scope of that iteration. -/
theorem evaluateResponse_prompt (valid : validate d = []) (own : r.survey = d.id)
    (faultless : Faultless (replayReport policy d r).visits) {s : RepeatableSet} (mem : Item.set s ∈ d.items)
    (shown : (replayReport policy d r).shows? s.id none = some true) :
    ∃ iterations, r.iterations s.id = .ok iterations ∧ ∀ index < iterations.length, ∀ p ∈ s.prompts, ∀ text,
      p.condition = some text →
        ∃ b, (replayReport policy d r).shows? p.id (some index) = some b ∧
          evaluateResponse d r (some (s.id, index)) text = .ok b := by
  have distinct : d.ids.Nodup := nodup_ids_of_validate (by simp [valid])
  obtain ⟨before, after, split⟩ := List.append_of_mem mem
  obtain ⟨recorded, _⟩ := replay_at_item distinct faultless split
  obtain ⟨read, inside⟩ := replay_at_set distinct faultless split shown
  refine ⟨r.readIterations s.id, read, fun index bound p inSet text condition => ?_⟩
  have there : (r.readIterations s.id)[index]? = some (r.readIterations s.id)[index] := List.getElem?_eq_getElem bound
  have visits := inside index _ there
  -- The prompt is decided on what the walk has recorded outside the set and before it in the iteration.
  obtain ⟨first, others, prompts⟩ := List.append_of_mem inSet
  obtain ⟨recordedInside, here⟩ := replay_at_prompt (nodup_prompts_of_set distinct split)
    (fun v visited => faultless v (visits visited)) prompts
  have determined := isDetermined_of_valid valid policy r _ (visits here)
  have shows := shows?_of_mem distinct (visits here)
  unfold replayPrompt at determined shows
  rw [condition] at determined shows
  obtain ⟨sentence, parsed, value⟩ := evaluate_of_determined determined
    fun _ _ => context_of_layered split distinct recorded prompts recordedInside
  exact ⟨_, shows, evaluateResponse_inside own (set?_of_mem distinct mem) read there parsed value⟩

end Consistent

/-- A walk that ends with a report is over a response to the survey. -/
theorem own_of_walk {policy : Policy} {cache : Cache} {d : Definition} {r : Response} {report : Report}
    (walked : (walk policy cache d r).1 = .ok report) : r.survey = d.id := by
  unfold walk at walked
  split at walked
  · next own => exact own.symm
  · cases walked

/-- **The walk and the evaluation on an upload agree.** In a definition without issues and an upload that the walk
has nothing against, the condition of each item has a value on the upload, which says whether the report shows the
item; and so has the condition of each prompt in each uploaded iteration of a set that is shown. -/
theorem evaluateResponse_of_consistent (policy : Policy) {cache : Cache} (reachable : cache.Reachable)
    {d : Definition} (valid : validate d = []) {r : Response} {report : Report}
    (walked : (walk policy cache d r).1 = .ok report) (consistent : report.isConsistent = true) :
    (∀ item ∈ d.items, ∀ text, item.condition = some text →
      ∃ b, report.shows? item.id none = some b ∧ evaluateResponse d r none text = .ok b) ∧
    ∀ s, Item.set s ∈ d.items → report.shows? s.id none = some true →
      ∃ iterations, r.iterations s.id = .ok iterations ∧
        ∀ index < iterations.length, ∀ p ∈ s.prompts, ∀ text, p.condition = some text →
          ∃ b, report.shows? p.id (some index) = some b ∧ evaluateResponse d r (some (s.id, index)) text = .ok b := by
  have own : r.survey = d.id := own_of_walk walked
  have replayed : report = replayReport policy d r :=
    Except.ok.inj (walked.symm.trans (walk_eq_replay policy r reachable.sound own))
  have faultless := faultless_of_isConsistent consistent
  -- The report is that of the replay, so its visits can be taken apart item by item.
  subst replayed
  constructor
  · intro item mem text condition
    exact evaluateResponse_item valid own faultless mem condition
  · intro s mem shown
    exact evaluateResponse_prompt valid own faultless mem shown

/-- A survey on a journey, with the hotel of longer stops abroad. -/
def journeySurvey : Definition :=
  ⟨"journey", none,
    [.prompt ⟨"traveled", .boolean, none, false, []⟩,
      .prompt ⟨"country", .text, some "traveled == true", true, []⟩,
      .set ⟨"stops", some "traveled == true",
        [⟨"nights", .number, none, false, []⟩, ⟨"hotel", .text, some "nights > 1 and country != home", false, []⟩]⟩]⟩

/-- A participant with a longer stop and a short one. -/
def journeyUpload : Response :=
  ⟨"journey", [("traveled", .bool true), ("country", .string "peru"),
    ("stops", .array [.object [("nights", .number (.integer 3)), ("hotel", .string "sol")],
      .object [("nights", .string "1")]])]⟩

/-- The country is shown in the report, and its condition is true on the upload; the hotel of the short stop is hidden,
and its condition is false. -/
theorem evaluateResponse_of_journey :
    ∃ report, (walk .show (.new 4) journeySurvey journeyUpload).1 = .ok report ∧ report.isConsistent = true ∧
      (report.shows? "country" none = some true ∧
        evaluateResponse journeySurvey journeyUpload none "traveled == true" = .ok true) ∧
      report.shows? "hotel" (some 1) = some false ∧
        evaluateResponse journeySurvey journeyUpload (some ("stops", 1)) "nights > 1 and country != home" =
          .ok false := by
  have valid : validate journeySurvey = [] := by decide +kernel
  let report : Report := replayReport .show journeySurvey journeyUpload
  have walked : (walk .show (.new 4) journeySurvey journeyUpload).1 = .ok report :=
    walk_eq_replay .show journeyUpload (Cache.sound_new 4) rfl
  have consistent : report.isConsistent = true := by decide +kernel
  have gate : report.shows? "stops" none = some true := by decide +kernel
  have country : report.shows? "country" none = some true := by decide +kernel
  have hotel : report.shows? "hotel" (some 1) = some false := by decide +kernel
  obtain ⟨items, sets⟩ := evaluateResponse_of_consistent .show (.new 4) valid walked consistent
  obtain ⟨iterations, read, prompts⟩ := sets _ (List.mem_cons_of_mem _ (List.mem_cons_of_mem _ List.mem_cons_self)) gate
  have two : iterations.length = 2 := by
    rw [← Except.ok.inj read]
    rfl
  refine ⟨report, walked, consistent, ⟨country, ?_⟩, hotel, ?_⟩
  · obtain ⟨b, shown, value⟩ := items _ (List.mem_cons_of_mem _ List.mem_cons_self) _ rfl
    rw [← Option.some.inj (shown.symm.trans country)]
    exact value
  · obtain ⟨b, shown, value⟩ := prompts 1 (by omega) _ (List.mem_cons_of_mem _ List.mem_cons_self) _ rfl
    rw [← Option.some.inj (shown.symm.trans hotel)]
    exact value

end SurveyFlow
