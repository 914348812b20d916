import SurveyFlow.Proofs.Survey.Replay
import SurveyFlow.Survey.Validation

/-!
# What a condition sees, checked and walked

The check of a definition keeps lists of the prompts that a condition may name (`Visible`), a walk keeps the
answers to them (`AnswerSet`). At every place of a survey with distinct ids the two agree:

* **`Records`** — an answer set has an entry for each prompt of a list and for nothing else, of the prompt's
  type; visiting a prompt keeps this (`records_insert`);
* **`Visible.Fits`** — hence a context knows exactly the identifiers that the check sees.
-/

namespace SurveyFlow

/-! ## Types of answers -/

/-- The answer, if one was given, has the type. -/
def Answer.HasType (type : ValueType) : Answer → Prop
  | given value => value.type = type
  | notDisplayed => True

/-- Answers are read as values of the type of their prompt. -/
theorem type_of_decodeValue? {type : PromptType} {raw : Json} {value : TypedValue}
    (h : decodeValue? type raw = some value) : value.type = type.valueType := by
  unfold decodeValue? at h
  split at h
  · obtain ⟨x, _, rfl⟩ := Option.map_eq_some_iff.1 h
    rfl
  · obtain ⟨x, _, rfl⟩ := Option.map_eq_some_iff.1 h
    rfl
  -- Of the other types, an answer is a value as it stands.
  all_goals cases h
  all_goals rfl

/-- What later conditions see of a prompt has its type. -/
theorem hasType_settle (p : Prompt) (status : Status) (upload : Upload) :
    (settle p status upload).2.HasType p.type.valueType := by
  -- Only an upload that is read leaves a value; everything else counts as not displayed.
  unfold settle
  split
  · trivial
  · trivial
  · trivial
  · trivial
  · trivial
  · next raw _ =>
    unfold Prompt.decodeAnswer
    cases found : decodeValue? p.type raw with
    | some value => exact type_of_decodeValue? found
    | none => trivial

/-! ## Answers to the prompts of a list -/

/-- The answer set has an entry for each of the prompts, of the prompt's type, and for nothing else. -/
def Records (prompts : List Prompt) (answers : AnswerSet) : Prop :=
  ∀ id, match prompts.find? (fun p => p.id == id) with
    | none => answers.get? id = none
    | some p => ∃ answer, answers.get? id = some answer ∧ answer.HasType p.type.valueType

theorem records_empty : Records [] .empty :=
  fun _ => rfl

/-- A search by id in a list with one more prompt at its end, which has a new id. -/
theorem find?_append_new {prompts : List Prompt} {p : Prompt} (new : p.id ∉ prompts.map Prompt.id) (id : String) :
    (prompts ++ [p]).find? (fun q => q.id == id) =
      if id = p.id then some p else prompts.find? fun q => q.id == id := by
  rw [List.find?_append, List.find?_singleton]
  by_cases same : id = p.id
  · -- No earlier prompt has the id, so the search goes through to the new one.
    have absent : prompts.find? (fun q => q.id == id) = none := by
      rw [List.find?_eq_none]
      intro q mem
      rw [beq_iff_eq, same]
      exact fun clash => new (List.mem_map.2 ⟨q, mem, clash⟩)
    rw [absent, Option.none_or, if_pos (beq_iff_eq.2 same.symm), if_pos same]
  · rw [if_neg (by simpa using Ne.symm same), Option.or_none, if_neg same]

/-- **Recording the answer to one more prompt.** Its id must be new, or an earlier prompt would hide it. -/
theorem records_insert {prompts : List Prompt} {answers : AnswerSet} {p : Prompt} {answer : Answer}
    (before : Records prompts answers) (new : p.id ∉ prompts.map Prompt.id)
    (typed : answer.HasType p.type.valueType) : Records (prompts ++ [p]) (answers.insert p.id answer) := by
  intro id
  rw [find?_append_new new, AnswerSet.get?_insert]
  by_cases same : id = p.id
  · rw [if_pos same, if_pos same]
    exact ⟨answer, rfl, typed⟩
  · rw [if_neg same, if_neg same]
    exact before id

/-- The visit of a prompt leaves an answer of its type, whatever becomes of it. -/
theorem records_replayPrompt {prompts : List Prompt} {answers : AnswerSet} {p : Prompt}
    (before : Records prompts answers) (new : p.id ∉ prompts.map Prompt.id) (policy : Policy) (ctx : Context)
    (iteration : Option Nat) (raw : Option Json) :
    Records (prompts ++ [p]) (answers.insert p.id (replayPrompt policy ctx p iteration raw).2) :=
  records_insert before new (hasType_settle p _ _)

/-! ## Contexts -/

/-- The context knows exactly the identifiers that are visible, and their answers have the declared types. -/
def Visible.Fits (v : Visible) (ctx : Context) : Prop :=
  ∀ id, match v.find? id with
    | none => ctx id = .ok .unknown
    | some p => ∃ answer, ctx id = .ok (.known answer) ∧ answer.HasType p.type.valueType

/-- At the top level a walk knows the prompts that the check sees there. -/
theorem fits_resolve {outer : List Prompt} {answers : AnswerSet} (h : Records outer answers) :
    Visible.Fits ⟨outer, [], none⟩ answers.resolve := by
  intro id
  have entry := h id
  rw [show Visible.find? ⟨outer, [], none⟩ id = outer.find? fun p => p.id == id from rfl]
  -- A prompt that is seen has an answer, any other name has none.
  cases found : outer.find? fun p => p.id == id with
  | none =>
    rw [found] at entry
    simp only [AnswerSet.resolve, entry]
  | some p =>
    rw [found] at entry
    obtain ⟨answer, known, typed⟩ := entry
    exact ⟨answer, by simp only [AnswerSet.resolve, known], typed⟩

/-- The context of a prompt in a set. The prompts of the set come first in both. -/
theorem fits_layered {outer inner : List Prompt} {answers scope : AnswerSet} {set : String}
    (h : Records outer answers) (h' : Records inner scope) :
    Visible.Fits ⟨outer, inner, some set⟩ (layered scope answers) := by
  intro id
  have entry := h' id
  unfold Visible.find? layered
  dsimp only
  cases found : inner.find? fun p => p.id == id with
  | none =>
    -- Neither the check nor the walk finds it in the set, and both go on at the top level.
    rw [found] at entry
    rw [entry]
    exact fits_resolve h id
  | some p =>
    rw [found] at entry
    obtain ⟨answer, known, typed⟩ := entry
    exact ⟨answer, by rw [known], typed⟩

/-! ## Distinct ids -/

/-- Nothing is repeated exactly if the list has no duplicates and nothing of what was seen. -/
theorem repeats_eq_nil_iff {seen xs : List String} :
    repeats seen xs = [] ↔ xs.Nodup ∧ ∀ x ∈ xs, x ∉ seen := by
  induction xs generalizing seen with
  | nil => simp [repeats]
  | cons x xs ih =>
    rw [repeats]
    by_cases known : x ∈ seen
    · rw [if_pos (by simpa using known)]
      exact ⟨nofun, fun h => absurd known (h.2 x List.mem_cons_self)⟩
    · rw [if_neg (by simpa using known), ih, List.nodup_cons, List.forall_mem_cons]
      -- What is new to the list and to what was seen before is new to both.
      constructor
      · rintro ⟨distinct, fresh⟩
        refine ⟨⟨fun mem => fresh x mem List.mem_cons_self, distinct⟩, known, fun y mem => ?_⟩
        exact fun old => fresh y mem (List.mem_cons_of_mem x old)
      · rintro ⟨⟨new, distinct⟩, _, fresh⟩
        refine ⟨distinct, fun y mem old => ?_⟩
        rcases List.mem_cons.1 old with rfl | old
        · exact new mem
        · exact fresh y mem old

/-- Of distinct ids, that of the next prompt is none of those before it; and it may be counted among them. -/
theorem nodup_next {prompts : List Prompt} {p : Prompt} {ids : List String}
    (h : (prompts.map Prompt.id ++ p.id :: ids).Nodup) :
    p.id ∉ prompts.map Prompt.id ∧ ((prompts ++ [p]).map Prompt.id ++ ids).Nodup := by
  refine ⟨fun old => (List.nodup_append.1 h).2.2 p.id old p.id List.mem_cons_self rfl, ?_⟩
  rwa [List.map_append, List.map_singleton, List.append_assoc, List.singleton_append]

theorem nodup_past {prompts : List Prompt} {own later : List String}
    (h : (prompts.map Prompt.id ++ (own ++ later)).Nodup) : (prompts.map Prompt.id ++ later).Nodup :=
  h.sublist ((List.Sublist.refl _).append (List.sublist_append_right _ _))

/-- The ids of the prompts at the top level are among all ids, in the same order. -/
theorem sublist_ids_of_prompts (items : List Item) :
    ((items.filterMap Item.asPrompt?).map Prompt.id).Sublist (items.flatMap Item.ids) := by
  induction items with
  | nil => exact .slnil
  | cons item items ih =>
    cases item with
    | prompt p => exact ih.cons_cons p.id
    | set s => exact ih.trans (List.sublist_append_right _ _)

theorem ids_of_split {d : Definition} {before after : List Item} {item : Item}
    (split : d.items = before ++ item :: after) :
    d.ids = before.flatMap Item.ids ++ (item.ids ++ after.flatMap Item.ids) := by
  rw [Definition.ids, split, List.flatMap_append, List.flatMap_cons]

/-- Of distinct ids, none that an item declares is that of a prompt at the top level before it. -/
theorem not_mem_prompts_of_split {d : Definition} (distinct : d.ids.Nodup) {before after : List Item} {item : Item}
    (split : d.items = before ++ item :: after) {id : String} (own : id ∈ item.ids) :
    id ∉ (before.filterMap Item.asPrompt?).map Prompt.id := by
  intro earlier
  have declared := (sublist_ids_of_prompts before).subset earlier
  rw [ids_of_split split] at distinct
  exact (List.nodup_append.1 distinct).2.2 id declared id (List.mem_append_left _ own) rfl

/-- A definition without repeated ids has distinct ones. -/
theorem nodup_ids_of_validate {d : Definition} (h : ∀ issue ∈ validate d, issue.kind ≠ .duplicateId) :
    d.ids.Nodup := by
  have none : repeats [] d.ids = [] := by
    rw [List.eq_nil_iff_forall_not_mem]
    intro id mem
    exact h ⟨id, .duplicateId⟩ (List.mem_append_left _ (List.mem_map.2 ⟨id, mem, rfl⟩)) rfl
  exact (repeats_eq_nil_iff.1 none).1

end SurveyFlow
