import Mathlib.Computability.StateTransition
import SurveyFlow.Survey.Walk

/-!
# A walk in single steps

Between two visits a walk is at the top level or in an iteration of a set. Where it is, with everything that it knows
there, is a `Stage`. One step visits a prompt, comes to a set or goes on to the next iteration (`Stage.step`), and the
steps from the start end where the walk does (`Stage.last_mem_eval`, `walk_eq_last`). So what each step keeps holds all
along a walk.
-/

namespace SurveyFlow

/-- A set in the middle of one of its iterations. -/
structure Iterating where
  set : RepeatableSet
  index : Nat
  uploaded : Members
  /-- The prompts that have been visited in the iteration. -/
  visited : List Prompt
  /-- The prompts to come. -/
  ahead : List Prompt
  /-- The answers of the iteration. -/
  answers : AnswerSet
  /-- The iterations to come. -/
  more : List Members

/-- A walk in the middle. -/
structure Stage where
  visits : List Visit
  cache : Cache
  /-- The answers at the top level. -/
  answers : AnswerSet
  /-- The items that the walk is done with. -/
  visited : List Item
  /-- The set that the walk is in. -/
  inside : Option Iterating
  /-- The items to come. -/
  ahead : List Item

namespace Stage

/-- Nothing has been visited. -/
def start (cache : Cache) (items : List Item) : Stage :=
  ⟨[], cache, .empty, [], none, items⟩

/-- Goes on with the iterations of a set, the first of which has the number `index`, or leaves the set. -/
def enter (st : Stage) (s : RepeatableSet) (index : Nat) : List Members → Stage
  | [] => { st with visited := st.visited ++ [.set s], inside := none }
  | uploaded :: more => { st with inside := some ⟨s, index, uploaded, [], s.prompts, .empty, more⟩ }

variable (policy : Policy) (r : Response)

/-- Visits a prompt at the top level. -/
def stepPrompt (st : Stage) (p : Prompt) (items : List Item) : Stage :=
  let (visit, next) := visitPrompt policy p (r.raw? p.id) none st.answers.resolve ⟨st.cache, st.answers⟩
  ⟨st.visits ++ [visit], next.cache, next.answers, st.visited ++ [.prompt p], none, items⟩

/-- Comes to a set. If it is hidden, its prompts are visited at once. -/
def stepSet (st : Stage) (s : RepeatableSet) (items : List Item) : Stage :=
  let (status, cache) := decideStatus policy st.cache st.answers.resolve s.condition
  let (finding, iterations) := settleSet status (r.iterations s.id)
  let gate : Visit := ⟨s.id, none, status, finding⟩
  if status.isDisplayed then
    enter ⟨st.visits ++ [gate], cache, st.answers, st.visited, none, items⟩ s 0 iterations
  else
    let hidden : List Visit := s.prompts.map fun p => ⟨p.id, none, .hidden, none⟩
    enter ⟨st.visits ++ gate :: hidden, cache, st.answers, st.visited, none, items⟩ s 0 []

/-- Visits a prompt in an iteration, or ends the iteration. -/
def stepInside (st : Stage) (it : Iterating) : Stage :=
  match it.ahead with
  | [] => st.enter it.set (it.index + 1) it.more
  | p :: prompts =>
    let (visit, next) := visitPrompt policy p (it.uploaded.lookup p.id) (some it.index)
      (layered it.answers st.answers) ⟨st.cache, it.answers⟩
    { st with
      visits := st.visits ++ [visit]
      cache := next.cache
      inside := some { it with visited := it.visited ++ [p], ahead := prompts, answers := next.answers } }

/-- One step, if the walk is not over. -/
def step (st : Stage) : Option Stage :=
  match st.inside, st.ahead with
  | some it, _ => some (st.stepInside policy it)
  | none, .prompt p :: items => some (st.stepPrompt policy r p items)
  | none, .set s :: items => some (st.stepSet policy r s items)
  | none, [] => none

/-- The stage so many steps on, or the last one. -/
def after (st : Stage) : Nat → Stage
  | 0 => st
  | n + 1 => match st.step policy r with
    | some next => next.after n
    | none => st

/-- Where a walk over items ends. -/
def last (cache : Cache) (items : List Item) : Stage :=
  let (visits, progress) := visitItems policy r ⟨cache, .empty⟩ items
  ⟨visits, progress.cache, progress.answers, items, none, []⟩

/-! ## The steps are the walk -/

open StateTransition Relation

variable {policy r}

/-- The prompts of an iteration, from any of them on. -/
theorem reaches_prompts {s : RepeatableSet} {index : Nat} {uploaded : Members} {more : List Members}
    {outer : AnswerSet} {items ahead : List Item} (visits : List Visit) (progress : Progress)
    (visited prompts : List Prompt) :
    Reaches (step policy r)
      ⟨visits, progress.cache, outer, items,
        some ⟨s, index, uploaded, visited, prompts, progress.answers, more⟩, ahead⟩
      ⟨visits ++ (visitPrompts policy outer index uploaded progress prompts).1,
        (visitPrompts policy outer index uploaded progress prompts).2.cache, outer, items,
        some ⟨s, index, uploaded, visited ++ prompts, [],
          (visitPrompts policy outer index uploaded progress prompts).2.answers, more⟩, ahead⟩ := by
  induction prompts generalizing visits progress visited with
  | nil =>
    rw [List.append_nil]
    simp only [visitPrompts, List.append_nil]
    exact ReflTransGen.refl
  | cons p prompts ih =>
    refine ReflTransGen.head (rfl : step policy r _ = some _) ?_
    let x := visitPrompt policy p (uploaded.lookup p.id) (some index) (layered progress.answers outer) progress
    have others := ih (visits ++ [x.1]) x.2 (visited ++ [p])
    simp only [List.append_assoc, List.singleton_append] at others
    exact others

/-- The iterations of a set, from any of them on. -/
theorem reaches_iterations {s : RepeatableSet} {outer : AnswerSet} {items ahead : List Item} (visits : List Visit)
    (cache : Cache) (inside : Option Iterating) (index : Nat) (iterations : List Members) :
    Reaches (step policy r)
      (enter ⟨visits, cache, outer, items, inside, ahead⟩ s index iterations)
      ⟨visits ++ (visitIterations policy outer s.prompts index cache iterations).1,
        (visitIterations policy outer s.prompts index cache iterations).2, outer, items ++ [.set s], none, ahead⟩ := by
  induction iterations generalizing visits cache inside index with
  | nil =>
    simp only [visitIterations, List.append_nil]
    exact ReflTransGen.refl
  | cons uploaded more ih =>
    let x := visitPrompts policy outer index uploaded ⟨cache, .empty⟩ s.prompts
    refine (reaches_prompts visits ⟨cache, .empty⟩ [] s.prompts).trans ?_
    refine ReflTransGen.head (rfl : step policy r _ = some _) ?_
    have others := ih (visits ++ x.1) x.2.cache
      (some ⟨s, index, uploaded, [] ++ s.prompts, [], x.2.answers, more⟩) (index + 1)
    rw [List.append_assoc] at others
    exact others

theorem reaches_item {visits : List Visit} {progress : Progress} {items ahead : List Item} (item : Item) :
    Reaches (step policy r)
      ⟨visits, progress.cache, progress.answers, items, none, item :: ahead⟩
      ⟨visits ++ (visitItem policy r progress item).1, (visitItem policy r progress item).2.cache,
        (visitItem policy r progress item).2.answers, items ++ [item], none, ahead⟩ := by
  cases item with
  | prompt p => exact ReflTransGen.single rfl
  | set s =>
    refine ReflTransGen.head (rfl : step policy r _ = some _) ?_
    simp only [visitItem, visitSet, stepSet]
    split
    · refine (reaches_iterations _ _ _ _ _).trans ?_
      rw [List.append_assoc]
      exact ReflTransGen.refl
    · exact ReflTransGen.refl

theorem reaches_items (visits : List Visit) (progress : Progress) (visited items : List Item) :
    Reaches (step policy r)
      ⟨visits, progress.cache, progress.answers, visited, none, items⟩
      ⟨visits ++ (visitItems policy r progress items).1, (visitItems policy r progress items).2.cache,
        (visitItems policy r progress items).2.answers, visited ++ items, none, []⟩ := by
  induction items generalizing visits progress visited with
  | nil =>
    simp only [visitItems, List.append_nil]
    exact ReflTransGen.refl
  | cons item items ih =>
    let x := visitItem policy r progress item
    refine (reaches_item item).trans ?_
    have others := ih (visits ++ x.1) x.2 (visited ++ [item])
    simp only [List.append_assoc, List.singleton_append] at others
    exact others

/-- **The steps from the start end** after all items. -/
theorem last_mem_eval (policy : Policy) (r : Response) (cache : Cache) (items : List Item) :
    last policy r cache items ∈ eval (step policy r) (start cache items) :=
  mem_eval.2 ⟨reaches_items [] ⟨cache, .empty⟩ [] items, rfl⟩

theorem reaches_after (policy : Policy) (r : Response) (st : Stage) (n : Nat) :
    Reaches (step policy r) st (st.after policy r n) := by
  induction n generalizing st with
  | zero => exact ReflTransGen.refl
  | succ n ih =>
    rw [after]
    split
    · next next steps => exact ReflTransGen.head steps (ih next)
    · exact ReflTransGen.refl

/-- Each stage of a walk goes on to its end. -/
theorem reaches_last {cache : Cache} {items : List Item} {st : Stage}
    (reached : Reaches (step policy r) (start cache items) st) :
    Reaches (step policy r) st (last policy r cache items) := by
  have ends := last_mem_eval policy r cache items
  rw [reaches_eval reached] at ends
  exact (mem_eval.1 ends).1

end Stage

/-- **The last stage is where the walk ends**, with the report and the cache. -/
theorem walk_eq_last (policy : Policy) (cache : Cache) {d : Definition} {r : Response} (own : r.survey = d.id) :
    walk policy cache d r =
      (.ok ⟨d.id, (Stage.last policy r cache d.items).visits⟩, (Stage.last policy r cache d.items).cache) :=
  if_pos own.symm

end SurveyFlow
