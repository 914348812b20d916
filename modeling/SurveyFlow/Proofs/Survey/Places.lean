import Mathlib.Data.List.Nodup
import SurveyFlow.Proofs.Survey.Replay

/-!
# The places of a walk

Each visit stands at a place: an item, and the iteration for a prompt of a set that is shown. The places of a walk
follow from the survey, the statuses of its sets and the numbers of their iterations (`places_replayIterations`,
`places_replaySet`). With distinct ids no place is visited twice (`places_replayItems`), so a report gives
each visit its own status (`status?_of_mem`).
-/

namespace SurveyFlow

def Visit.place (v : Visit) : String × Option Nat :=
  (v.item, v.iteration)

/-- The places of prompts in an iteration, or outside any. -/
def placesAt (prompts : List Prompt) (iteration : Option Nat) : List (String × Option Nat) :=
  prompts.map fun p => (p.id, iteration)

/-- The places of the prompts of a set in the iterations of the given numbers. -/
def placesIn (prompts : List Prompt) (indices : List Nat) : List (String × Option Nat) :=
  indices.flatMap fun index => placesAt prompts (some index)

/-- The places of a set with so many iterations and of its prompts. -/
def RepeatableSet.places (s : RepeatableSet) (displayed : Bool) (count : Nat) : List (String × Option Nat) :=
  (s.id, none) :: if displayed then placesIn s.prompts (List.range' 0 count) else placesAt s.prompts none

variable (policy : Policy) (r : Response)

/-! ## Where a walk goes -/

/-- One visit for each prompt of the iteration, in the order of the set, whatever the answers. -/
theorem places_replayPrompts (outer : AnswerSet) (index : Nat) (uploaded : Members) (scope : AnswerSet)
    (prompts : List Prompt) :
    (replayPrompts policy outer index uploaded scope prompts).1.map Visit.place = placesAt prompts (some index) := by
  induction prompts generalizing scope with
  | nil => rfl
  | cons p prompts ih => exact List.cons_eq_cons.2 ⟨rfl, ih _⟩

/-- The iterations are numbered from `start` on, and each has all the prompts. -/
theorem places_replayIterations (outer : AnswerSet) (prompts : List Prompt) (start : Nat)
    (iterations : List Members) :
    (replayIterations policy outer prompts start iterations).map Visit.place =
      placesIn prompts (List.range' start iterations.length) := by
  induction iterations generalizing start with
  | nil => rfl
  | cons uploaded more ih =>
    rw [replayIterations, List.map_append, places_replayPrompts, ih, List.length_cons, List.range'_succ]
    rfl

/-- Where a set goes depends on two things only: whether it is shown, and how many iterations were uploaded. -/
theorem places_replaySet (s : RepeatableSet) (answers : AnswerSet) :
    (replaySet policy s r answers).map Visit.place =
      s.places (conditionStatus policy answers.resolve s.condition).isDisplayed (r.readIterations s.id).length := by
  unfold replaySet RepeatableSet.places
  dsimp only
  rw [List.map_cons, iterations_of_settleSet]
  refine List.cons_eq_cons.2 ⟨rfl, ?_⟩
  split
  · exact places_replayIterations policy answers s.prompts 0 (r.readIterations s.id)
  · rw [List.map_map]
    rfl

/-! ## No place twice -/

/-- The prompts of one iteration stand apart by their ids. -/
theorem nodup_placesAt {prompts : List Prompt} (distinct : (prompts.map Prompt.id).Nodup) (iteration : Option Nat) :
    (placesAt prompts iteration).Nodup := by
  have pairs : placesAt prompts iteration = (prompts.map Prompt.id).map fun id => (id, iteration) := by
    rw [List.map_map]
    rfl
  rw [pairs]
  exact distinct.map fun _ _ same => congrArg Prod.fst same

/-- The iterations stand apart by their numbers, and the prompts in each of them by their ids. -/
theorem nodup_placesIn {prompts : List Prompt} (distinct : (prompts.map Prompt.id).Nodup) {indices : List Nat}
    (each : indices.Nodup) : (placesIn prompts indices).Nodup := by
  refine List.nodup_flatMap.2 ⟨fun index _ => nodup_placesAt distinct (some index), each.imp ?_⟩
  intro index index' differ
  refine List.disjoint_left.2 fun place mem mem' => differ ?_
  -- A place in both iterations would have the number of both.
  obtain ⟨p, _, rfl⟩ := List.mem_map.1 mem
  obtain ⟨q, _, same⟩ := List.mem_map.1 mem'
  exact (Option.some.inj (congrArg Prod.snd same)).symm

theorem fst_mem_of_placesIn {prompts : List Prompt} {indices : List Nat} {place : String × Option Nat}
    (h : place ∈ placesIn prompts indices) : place.1 ∈ prompts.map Prompt.id := by
  obtain ⟨index, _, mem⟩ := List.mem_flatMap.1 h
  obtain ⟨p, inSet, rfl⟩ := List.mem_map.1 mem
  exact List.mem_map_of_mem inSet

theorem fst_mem_of_placesAt {prompts : List Prompt} {iteration : Option Nat} {place : String × Option Nat}
    (h : place ∈ placesAt prompts iteration) : place.1 ∈ prompts.map Prompt.id := by
  obtain ⟨p, inSet, rfl⟩ := List.mem_map.1 h
  exact List.mem_map_of_mem inSet

/-- Every place of a set is named by an id of the set: its own, or that of a prompt in it. -/
theorem fst_mem_of_places {s : RepeatableSet} {displayed : Bool} {count : Nat} {place : String × Option Nat}
    (h : place ∈ s.places displayed count) : place.1 ∈ (Item.set s).ids := by
  rcases List.mem_cons.1 h with rfl | inside
  · exact List.mem_cons_self
  · apply List.mem_cons_of_mem
    split at inside
    · exact fst_mem_of_placesIn inside
    · exact fst_mem_of_placesAt inside

/-- **A set has no place twice,** if the ids in it are distinct: its own place has its own id, the others are in
iterations of different numbers or belong to different prompts. -/
theorem nodup_places {s : RepeatableSet} (distinct : (Item.set s).ids.Nodup) (displayed : Bool) (count : Nat) :
    (s.places displayed count).Nodup := by
  obtain ⟨own, inside⟩ := List.nodup_cons.1 distinct
  refine List.nodup_cons.2 ⟨fun mem => own ?_, ?_⟩
  · -- The id of the set itself is no id of a prompt in it.
    split at mem
    · exact fst_mem_of_placesIn mem
    · exact fst_mem_of_placesAt mem
  · split
    · exact nodup_placesIn inside List.nodup_range'
    · exact nodup_placesAt inside none

/-- The visits of an item stand at ids that it declares, each at another place. -/
theorem places_replayItem (answers : AnswerSet) {item : Item} (distinct : item.ids.Nodup) :
    ((replayItem policy r answers item).1.map Visit.place).Nodup ∧
      ∀ v ∈ (replayItem policy r answers item).1, v.item ∈ item.ids := by
  cases item with
  | prompt p =>
    refine ⟨List.nodup_singleton _, fun v mem => ?_⟩
    rw [List.mem_singleton.1 mem]
    exact List.mem_singleton_self p.id
  | set s =>
    rw [replayItem]
    refine ⟨?_, fun v mem => ?_⟩
    · rw [places_replaySet]
      exact nodup_places distinct _ _
    · have place := List.mem_map_of_mem (f := Visit.place) mem
      rw [places_replaySet] at place
      exact fst_mem_of_places place

/-- **No place is visited twice,** and only at ids that the survey declares. Induction on the items: what is visited
later has an id that no earlier item declares. -/
theorem places_replayItems (answers : AnswerSet) {items : List Item} (distinct : (items.flatMap Item.ids).Nodup) :
    ((replayItems policy r answers items).1.map Visit.place).Nodup ∧
      ∀ v ∈ (replayItems policy r answers items).1, v.item ∈ items.flatMap Item.ids := by
  induction items generalizing answers with
  | nil => exact ⟨List.nodup_nil, fun _ mem => absurd mem List.not_mem_nil⟩
  | cons item items ih =>
    rw [List.flatMap_cons] at distinct ⊢
    obtain ⟨here, later, apart⟩ := List.nodup_append.1 distinct
    obtain ⟨nodup, own⟩ := places_replayItem policy r answers here
    obtain ⟨nodup', others⟩ := ih (replayItem policy r answers item).2 later
    rw [replayItems]
    dsimp only
    constructor
    · rw [List.map_append]
      refine List.nodup_append.2 ⟨nodup, nodup', ?_⟩
      rintro _ mem _ mem' rfl
      obtain ⟨v, visited, place⟩ := List.mem_map.1 mem
      obtain ⟨v', visited', place'⟩ := List.mem_map.1 mem'
      -- The item of a common place would be declared by this item and by a later one.
      have same : v.item = v'.item := congrArg Prod.fst (place.trans place'.symm)
      exact apart v.item (own v visited) v'.item (others v' visited') same
    · intro v mem
      rcases List.mem_append.1 mem with first | rest
      · exact List.mem_append_left _ (own v first)
      · exact List.mem_append_right _ (others v rest)

/-! ## Finding a visit by its place -/

/-- With distinct keys, what is looked for by the key of an entry is that entry. -/
theorem find?_eq_some_of_nodup {α κ : Type} {key : α → κ} {xs : List α} (distinct : (xs.map key).Nodup) {x : α}
    (mem : x ∈ xs) {f : α → Bool} (names : ∀ y, f y = true ↔ key y = key x) : xs.find? f = some x := by
  cases found : xs.find? f with
  | none => exact absurd ((names x).2 rfl) (List.find?_eq_none.1 found x mem)
  | some y =>
    have same : key y = key x := (names y).1 (List.find?_some found)
    rw [List.inj_on_of_nodup_map distinct (List.mem_of_find?_eq_some found) mem same]

/-- Looking up the place of a visit finds its status, as no other visit stands there. -/
theorem status?_of_mem {report : Report} (distinct : (report.visits.map Visit.place).Nodup) {v : Visit}
    (mem : v ∈ report.visits) : report.status? v.item v.iteration = some v.status := by
  unfold Report.status?
  rw [find?_eq_some_of_nodup distinct mem]
  · rfl
  · intro w
    rw [Bool.and_eq_true, beq_iff_eq, beq_iff_eq, Visit.place, Visit.place, Prod.mk.injEq]

/-! ## The visits at a place of the survey -/

/-- The items behind a prefix start from the answers that the prefix has left. -/
theorem replayItems_append (answers : AnswerSet) (before items : List Item) :
    replayItems policy r answers (before ++ items) =
      ((replayItems policy r answers before).1 ++
          (replayItems policy r (replayItems policy r answers before).2 items).1,
        (replayItems policy r (replayItems policy r answers before).2 items).2) := by
  induction before generalizing answers with
  | nil => rfl
  | cons item before ih =>
    rw [List.cons_append, replayItems, replayItems]
    dsimp only
    rw [ih, List.append_assoc]

theorem replayPrompts_append (outer : AnswerSet) (index : Nat) (uploaded : Members) (scope : AnswerSet)
    (first prompts : List Prompt) :
    replayPrompts policy outer index uploaded scope (first ++ prompts) =
      ((replayPrompts policy outer index uploaded scope first).1 ++
          (replayPrompts policy outer index uploaded (replayPrompts policy outer index uploaded scope first).2
            prompts).1,
        (replayPrompts policy outer index uploaded (replayPrompts policy outer index uploaded scope first).2
          prompts).2) := by
  induction first generalizing scope with
  | nil => rfl
  | cons p first ih =>
    rw [List.cons_append, replayPrompts, replayPrompts]
    dsimp only
    rw [ih, List.cons_append]

/-- The visits of one iteration are among those of all. -/
theorem subset_replayIterations (outer : AnswerSet) (prompts : List Prompt) (start : Nat)
    {iterations : List Members} {index : Nat} {uploaded : Members} (h : iterations[index]? = some uploaded) :
    (replayPrompts policy outer (start + index) uploaded .empty prompts).1 ⊆
      replayIterations policy outer prompts start iterations := by
  induction iterations generalizing start index with
  | nil => cases h
  | cons first more ih =>
    rw [replayIterations]
    cases index with
    | zero =>
      cases h
      exact List.subset_append_left _ _
    | succ index =>
      have later := ih (start + 1) h
      rw [show start + 1 + index = start + (index + 1) by omega] at later
      exact List.Subset.trans later (List.subset_append_right _ _)

end SurveyFlow
