import SurveyFlow.Proofs.Survey.Agreement
import SurveyFlow.Proofs.Survey.Literals
import SurveyFlow.Proofs.Survey.Sites
import SurveyFlow.Proofs.Survey.Stages

/-!
# What a walk has recorded

At every stage of a walk (`Stage`) there are answers at the top level, and in an iteration of a set those of the
iteration. Both are kept in the same way:

* **`Keeps`** — an answer, given or not displayed, is known for each prompt that has been visited, and for nothing else;
* **`Justified`** — a value is that of a prompt which was shown when its id was last visited, has the type of the
  prompt, and is what the upload is read to.

The visit of a prompt keeps both (`Keeps.visit`, `Justified.visit`), whatever becomes of it. Between the prompts at the
top level sets are visited, which leave the answers there as they are (`Stage.Follows`); with distinct ids no prompt of
a set is taken for one of the top level. So every step keeps `Stage.Recorded`.
-/

namespace SurveyFlow

open StateTransition

/-- There is an answer to each of the prompts, given or not displayed, and to nothing else. -/
structure Keeps (prompts : List Prompt) (answers : AnswerSet) : Prop where
  known : ∀ id ∈ prompts.map Prompt.id, answers.resolve id = .ok (.known .notDisplayed) ∨
    ∃ value, answers.resolve id = .ok (.known (.given value))
  only : ∀ id, (answers.get? id).isSome → id ∈ prompts.map Prompt.id

/-- The latest visit of the item is in this iteration, and the item is shown there. -/
def ShownLast (visits : List Visit) (item : String) (iteration : Option Nat) : Prop :=
  ∃ before v after, visits = before ++ v :: after ∧ v.item = item ∧ v.iteration = iteration ∧
    v.status.isDisplayed = true ∧ ∀ w ∈ after, w.item ≠ item

/-- Each value is that of a prompt which is shown, of the prompt's type, and as it is read from the upload. -/
def Justified (visits : List Visit) (iteration : Option Nat) (uploaded : Members) (prompts : List Prompt)
    (answers : AnswerSet) : Prop :=
  ∀ id value, answers.get? id = some (.given value) →
    ∃ p ∈ prompts, p.id = id ∧ value.type = p.type.valueType ∧ ShownLast visits id iteration ∧
      p.decode (uploaded.lookup id) = .ok (.given value)

/-! ## One prompt -/

theorem keeps_empty : Keeps [] .empty :=
  ⟨nofun, nofun⟩

/-- One more answer is that of one more prompt. -/
theorem Keeps.insert {prompts : List Prompt} {answers : AnswerSet} (h : Keeps prompts answers) (p : Prompt)
    (answer : Answer) : Keeps (prompts ++ [p]) (answers.insert p.id answer) := by
  constructor
  · intro id mem
    unfold AnswerSet.resolve
    rw [AnswerSet.get?_insert]
    by_cases same : id = p.id
    · rw [if_pos same]
      cases answer with
      | notDisplayed => exact .inl rfl
      | given value => exact .inr ⟨value, rfl⟩
    · rw [if_neg same]
      refine h.known id ?_
      simpa [same] using mem
  · intro id entry
    rw [AnswerSet.get?_insert] at entry
    rw [List.map_append, List.mem_append]
    by_cases same : id = p.id
    · exact .inr (List.mem_singleton.2 same)
    · rw [if_neg same] at entry
      exact .inl (h.only id entry)

/-- A visit that shows an item is the latest of it. -/
theorem shownLast_concat (visits : List Visit) {v : Visit} (shown : v.status.isDisplayed = true) :
    ShownLast (visits ++ [v]) v.item v.iteration :=
  ⟨visits, v, [], rfl, rfl, rfl, shown, List.forall_mem_nil _⟩

/-- It stays the latest while other items are visited. -/
theorem ShownLast.append {visits : List Visit} {item : String} {iteration : Option Nat}
    (h : ShownLast visits item iteration) {more : List Visit} (others : ∀ v ∈ more, v.item ≠ item) :
    ShownLast (visits ++ more) item iteration := by
  obtain ⟨before, v, after, rfl, named, place, shown, later⟩ := h
  refine ⟨before, v, after ++ more, by simp, named, place, shown, ?_⟩
  exact List.forall_mem_append.2 ⟨later, others⟩

theorem justified_empty (visits : List Visit) (iteration : Option Nat) (uploaded : Members) :
    Justified visits iteration uploaded [] .empty :=
  nofun

section

variable {visits : List Visit} {iteration : Option Nat} {uploaded : Members} {prompts : List Prompt}
  {answers : AnswerSet}

/-- Visits of other items change nothing. -/
theorem Justified.append (h : Justified visits iteration uploaded prompts answers) {more : List Visit}
    (others : ∀ v ∈ more, v.item ∉ prompts.map Prompt.id) :
    Justified (visits ++ more) iteration uploaded prompts answers := by
  intro id value recorded
  obtain ⟨p, mem, rfl, typed, shown, read⟩ := h id value recorded
  refine ⟨p, mem, rfl, typed, shown.append fun v visited same => ?_, read⟩
  exact others v visited (same ▸ List.mem_map_of_mem mem)

/-- A value that later conditions see is what the upload is read to. -/
theorem decode_of_reading {p : Prompt} {raw : Option Json} {value : TypedValue} (h : p.reading raw = .given value) :
    p.decode raw = .ok (.given value) := by
  unfold Prompt.reading at h
  cases read : p.decode raw with
  | ok answer =>
    rw [read] at h
    exact congrArg Except.ok h
  | error e =>
    rw [read] at h
    cases h

/-- What the visit of a prompt records. -/
theorem answers_visitPrompt (policy : Policy) (p : Prompt) (raw : Option Json) (iteration : Option Nat) (ctx : Context)
    (progress : Progress) :
    (visitPrompt policy p raw iteration ctx progress).2.answers = progress.answers.insert p.id
      (if (visitPrompt policy p raw iteration ctx progress).1.status.isDisplayed then p.reading raw
        else .notDisplayed) := by
  unfold visitPrompt
  dsimp only
  rw [answer_of_settle]

/-- **The visit of one more prompt.** A value that is recorded is read from the upload, and replaces what an earlier
prompt of the same id has left. -/
theorem Justified.visit (h : Justified visits iteration uploaded prompts answers) (policy : Policy) (p : Prompt)
    (ctx : Context) (cache : Cache) :
    Justified (visits ++ [(visitPrompt policy p (uploaded.lookup p.id) iteration ctx ⟨cache, answers⟩).1])
      iteration uploaded (prompts ++ [p])
      (visitPrompt policy p (uploaded.lookup p.id) iteration ctx ⟨cache, answers⟩).2.answers := by
  intro id value recorded
  rw [answers_visitPrompt, AnswerSet.get?_insert] at recorded
  -- The new value replaces an older one of the id; all others are as they were.
  by_cases same : id = p.id
  · rw [if_pos same] at recorded
    split at recorded
    · next shown =>
      have read := decode_of_reading (Option.some.inj recorded)
      rw [same]
      refine ⟨p, List.mem_append_right _ (List.mem_singleton_self p), rfl, type_of_decode read, ?_, read⟩
      exact shownLast_concat visits shown
    · cases recorded
  · rw [if_neg same] at recorded
    obtain ⟨q, mem, named, typed, shown, read⟩ := h id value recorded
    refine ⟨q, List.mem_append_left _ mem, named, typed, shown.append fun v visited => ?_, read⟩
    rw [List.mem_singleton.1 visited]
    exact Ne.symm same

end

theorem Keeps.visit {prompts : List Prompt} {answers : AnswerSet} (h : Keeps prompts answers) (policy : Policy)
    (p : Prompt) (raw : Option Json) (iteration : Option Nat) (ctx : Context) (cache : Cache) :
    Keeps (prompts ++ [p]) (visitPrompt policy p raw iteration ctx ⟨cache, answers⟩).2.answers :=
  h.insert p _

/-! ## One step -/

/-- The prompts at the top level that the walk is done with. -/
def Stage.prompts (st : Stage) : List Prompt :=
  st.visited.filterMap Item.asPrompt?

/-- What is known of an iteration that a walk is in. -/
structure Iterating.Recorded (r : Response) (visits : List Visit) (it : Iterating) : Prop where
  prompts : it.set.prompts = it.visited ++ it.ahead
  uploaded : ∃ earlier, earlier.length = it.index ∧ r.iterations it.set.id = .ok (earlier ++ it.uploaded :: it.more)
  keeps : Keeps it.visited it.answers
  justified : Justified visits (some it.index) it.uploaded it.visited it.answers

/-- What is known of a walk over the items of a definition. -/
structure Stage.Recorded (d : Definition) (r : Response) (st : Stage) : Prop where
  items : d.items = st.visited ++ ((st.inside.map fun it => Item.set it.set).toList ++ st.ahead)
  keeps : Keeps st.prompts st.answers
  justified : d.ids.Nodup → Justified st.visits none r.answers st.prompts st.answers
  inside : ∀ it, st.inside = some it → it.Recorded r st.visits

namespace Stage

variable {d : Definition} {r : Response} {st next : Stage}

theorem recorded_start (cache : Cache) : (start cache d.items).Recorded d r where
  items := rfl
  keeps := keeps_empty
  justified _ := justified_empty [] none r.answers
  inside := nofun

/-- Visits of an item that comes after them leave the values at the top level justified. -/
theorem Recorded.justified_append (h : st.Recorded d r) {item : Item} {ahead : List Item}
    (split : d.items = st.visited ++ item :: ahead) {more : List Visit} (own : ∀ v ∈ more, v.item ∈ item.ids)
    (distinct : d.ids.Nodup) : Justified (st.visits ++ more) none r.answers st.prompts st.answers :=
  (h.justified distinct).append fun v visited => not_mem_prompts_of_split distinct split (own v visited)

/-- A set adds no prompt at the top level. -/
theorem prompts_concat_set (items : List Item) (s : RepeatableSet) :
    (items ++ [Item.set s]).filterMap Item.asPrompt? = items.filterMap Item.asPrompt? := by
  rw [List.filterMap_append]
  exact List.append_nil _

/-- Going on with the next iteration of a set, or behind it. -/
theorem recorded_enter {s : RepeatableSet} {index : Nat} {iterations : List Members}
    (split : d.items = st.visited ++ .set s :: st.ahead) (keeps : Keeps st.prompts st.answers)
    (justified : d.ids.Nodup → Justified st.visits none r.answers st.prompts st.answers)
    (uploaded : iterations ≠ [] → ∃ earlier, earlier.length = index ∧ r.iterations s.id = .ok (earlier ++ iterations)) :
    (st.enter s index iterations).Recorded d r := by
  cases iterations with
  | nil =>
    have same : (st.enter s index []).prompts = st.prompts := prompts_concat_set st.visited s
    exact ⟨by simpa [enter] using split, same ▸ keeps, same ▸ justified, nofun⟩
  | cons first more =>
    refine ⟨split, keeps, justified, ?_⟩
    rintro it ⟨⟩
    exact ⟨rfl, uploaded (List.cons_ne_nil first more), keeps_empty, justified_empty _ _ _⟩

/-- The visit of a prompt at the top level. What is known of other prompts is not touched by it. -/
theorem Recorded.stepPrompt (h : st.Recorded d r) {p : Prompt} {items : List Item} (outside : st.inside = none)
    (ahead : st.ahead = .prompt p :: items) (policy : Policy) : (st.stepPrompt policy r p items).Recorded d r := by
  -- One more prompt is done with, so the invariant is about one prompt more.
  have prompts : (st.visited ++ [Item.prompt p]).filterMap Item.asPrompt? = st.prompts ++ [p] := List.filterMap_append
  refine ⟨?_, ?_, fun distinct => ?_, nofun⟩
  · have split := h.items
    rw [outside, ahead] at split
    simpa [Stage.stepPrompt] using split
  · show Keeps ((st.visited ++ [Item.prompt p]).filterMap Item.asPrompt?) _
    rw [prompts]
    exact h.keeps.visit policy p _ none _ st.cache
  · show Justified _ none r.answers ((st.visited ++ [Item.prompt p]).filterMap Item.asPrompt?) _
    rw [prompts]
    exact (h.justified distinct).visit policy p st.answers.resolve st.cache

/-- Iterations that a walk goes through are those that were uploaded. -/
theorem uploaded_of_settleSet {status : Status} {uploaded : Except SurveyError (List Members)}
    (readable : (settleSet status uploaded).2 ≠ []) : uploaded = .ok (settleSet status uploaded).2 := by
  unfold settleSet at *
  cases uploaded with
  | error e => exact absurd rfl readable
  | ok iterations =>
    dsimp only
    split <;> rfl

/-- Coming to a set. Its own visit, and those of its prompts if it is hidden, are of ids that no prompt before it
has. -/
theorem Recorded.stepSet (h : st.Recorded d r) {s : RepeatableSet} {items : List Item} (outside : st.inside = none)
    (ahead : st.ahead = .set s :: items) (policy : Policy) : (st.stepSet policy r s items).Recorded d r := by
  have split : d.items = st.visited ++ .set s :: items := by
    have split := h.items
    rwa [outside, ahead] at split
  unfold Stage.stepSet
  dsimp only
  split
  · refine recorded_enter split h.keeps (h.justified_append split ?_) fun readable => ?_
    · intro v gate
      rw [List.mem_singleton.1 gate]
      exact List.mem_cons_self
    · exact ⟨[], rfl, uploaded_of_settleSet readable⟩
  · -- The prompts of a hidden set are visited with it.
    refine recorded_enter split h.keeps (h.justified_append split ?_) (absurd rfl)
    intro v visit
    rcases List.mem_cons.1 visit with rfl | inside
    · exact List.mem_cons_self
    · obtain ⟨p, inSet, rfl⟩ := List.mem_map.1 inside
      exact List.mem_cons_of_mem s.id (List.mem_map_of_mem inSet)

/-- A step in an iteration: the visit of its next prompt, or its end. -/
theorem Recorded.stepInside (h : st.Recorded d r) {it : Iterating} (inside : st.inside = some it) (policy : Policy) :
    (st.stepInside policy it).Recorded d r := by
  have split : d.items = st.visited ++ .set it.set :: st.ahead := by
    have split := h.items
    rwa [inside] at split
  have iteration := h.inside it inside
  unfold Stage.stepInside
  split
  · -- The iteration ends.
    refine recorded_enter split h.keeps h.justified fun _ => ?_
    obtain ⟨earlier, count, read⟩ := iteration.uploaded
    refine ⟨earlier ++ [it.uploaded], ?_, ?_⟩
    · rw [List.length_append, count]
      rfl
    · rw [read, List.append_assoc, List.singleton_append]
  · next p prompts ahead =>
    have inSet : p.id ∈ (Item.set it.set).ids := by
      refine List.mem_cons_of_mem _ (List.mem_map_of_mem ?_)
      rw [iteration.prompts, ahead]
      exact List.mem_append_right _ List.mem_cons_self
    refine ⟨split, h.keeps, h.justified_append split ?_, ?_⟩
    · intro v visit
      rw [List.mem_singleton.1 visit]
      exact inSet
    · rintro _ ⟨⟩
      refine ⟨?_, iteration.uploaded, ?_, ?_⟩
      · rw [iteration.prompts, ahead, List.append_assoc, List.singleton_append]
      · exact iteration.keeps.visit policy p _ (some it.index) _ st.cache
      · exact iteration.justified.visit policy p _ st.cache

/-- **A step** keeps what is known of a walk. -/
theorem Recorded.step (h : st.Recorded d r) {policy : Policy} (steps : st.step policy r = some next) :
    next.Recorded d r := by
  unfold Stage.step at steps
  -- In an iteration, at a prompt, at a set, or at the end.
  split at steps
  · next it _ inside =>
    cases steps
    exact h.stepInside inside policy
  · next p items outside ahead =>
    cases steps
    exact h.stepPrompt outside ahead policy
  · next s items outside ahead =>
    cases steps
    exact h.stepSet outside ahead policy
  · cases steps

/-- **All along a walk** it is known what has been recorded. -/
theorem recorded_of_reaches {policy : Policy} {cache : Cache}
    (reached : Reaches (step policy r) (start cache d.items) st) : st.Recorded d r := by
  induction reached with
  | refl => exact recorded_start cache
  | tail _ steps ih => exact ih.step steps

/-- The later stage is done with more items, and if they are sets only, the answers at the top level are the same. -/
def Follows (st later : Stage) : Prop :=
  ∃ items, later.visited = st.visited ++ items ∧
    (items.filterMap Item.asPrompt? = [] → later.answers = st.answers)

theorem follows_refl (st : Stage) : st.Follows st :=
  ⟨[], (List.append_nil _).symm, fun _ => rfl⟩

theorem Follows.trans {later : Stage} (h : st.Follows next) (h' : next.Follows later) : st.Follows later := by
  obtain ⟨items, visited, same⟩ := h
  obtain ⟨others, visited', same'⟩ := h'
  refine ⟨items ++ others, by rw [visited', visited, List.append_assoc], fun sets => ?_⟩
  rw [List.filterMap_append, List.append_eq_nil_iff] at sets
  rw [same' sets.2, same sets.1]

/-- Entering a set changes no answers at the top level. -/
theorem follows_enter (st : Stage) (s : RepeatableSet) (index : Nat) (iterations : List Members) :
    st.Follows (st.enter s index iterations) := by
  cases iterations with
  | nil => exact ⟨[.set s], rfl, fun _ => rfl⟩
  | cons first more => exact follows_refl st

/-- A step at the top level answers a prompt, all others leave the answers there as they are. -/
theorem follows_of_step {policy : Policy} (steps : st.step policy r = some next) : st.Follows next := by
  unfold Stage.step at steps
  split at steps
  · next it _ _ =>
    cases steps
    unfold Stage.stepInside
    split
    · exact follows_enter st _ _ _
    · exact follows_refl st
  · next p items _ _ =>
    cases steps
    exact ⟨[.prompt p], rfl, nofun⟩
  · next s items _ _ =>
    cases steps
    unfold Stage.stepSet
    dsimp only
    split
    · exact follows_enter _ s 0 _
    · exact follows_enter _ s 0 []
  · cases steps

/-- **Sets leave the answers at the top level as they are.** -/
theorem follows_of_reaches {policy : Policy} {later : Stage} (reached : Reaches (step policy r) st later) :
    st.Follows later := by
  induction reached with
  | refl => exact follows_refl st
  | tail _ steps ih => exact ih.trans (follows_of_step steps)

end Stage

/-- **The answers of a walk are complete and justified at every stage.** The stages are those of the walk. At each of
them the answers are known for the prompts that have been visited and for nothing else, at the top level as in an
iteration; no set changes those at the top level; and each value has the type of its prompt, which is shown, and is
read from the upload. Only at the top level this needs distinct ids, as sets are visited in between. -/
theorem recorded_at_every_stage (policy : Policy) (cache : Cache) {d : Definition} {r : Response} {st : Stage}
    (reached : Reaches (Stage.step policy r) (.start cache d.items) st) :
    (Reaches (Stage.step policy r) st (.last policy r cache d.items) ∧
      (r.survey = d.id → walk policy cache d r =
        (.ok ⟨d.id, (Stage.last policy r cache d.items).visits⟩, (Stage.last policy r cache d.items).cache))) ∧
    st.Recorded d r ∧
    ∀ later, Reaches (Stage.step policy r) st later → st.Follows later :=
  ⟨⟨Stage.reaches_last reached, walk_eq_last policy cache⟩, Stage.recorded_of_reaches reached,
    fun _ => Stage.follows_of_reaches⟩

/-- At the end of the first stop of a journey, the country is justified at the top level and the hotel in the stop. -/
theorem recorded_at_first_stop :
    ∃ st, Reaches (Stage.step .show journeyUpload) (.start (.new 4) journeySurvey.items) st ∧
      ShownLast st.visits "country" none ∧
      ∃ it, st.inside = some it ∧ it.visited.map Prompt.id = ["nights", "hotel"] ∧
        it.answers.resolve "country" = .ok .unknown ∧ ShownLast st.visits "hotel" (some 0) := by
  -- Five steps lead to the end of the first stop.
  obtain ⟨st, reached, country, stop⟩ : ∃ st, Reaches (Stage.step .show journeyUpload)
      (.start (.new 4) journeySurvey.items) st ∧ st.answers.get? "country" = some (.given (.text "peru")) ∧
      (st.inside.map fun it =>
        (it.index, it.visited.map Prompt.id, it.answers.get? "hotel", it.answers.resolve "country")) =
      some (0, ["nights", "hotel"], some (.given (.text "sol")), .ok .unknown) :=
    ⟨_, Stage.reaches_after .show journeyUpload _ 5, by decide +kernel, by decide +kernel⟩
  obtain ⟨-, recorded, -⟩ := recorded_at_every_stage .show (.new 4) reached
  have distinct : journeySurvey.ids.Nodup := by decide
  obtain ⟨_, _, _, _, countryShown, _⟩ := recorded.justified distinct _ _ country
  obtain ⟨it, inside, same⟩ := Option.map_eq_some_iff.1 stop
  simp only [Prod.mk.injEq] at same
  obtain ⟨index, visited, hotel, unknown⟩ := same
  obtain ⟨_, _, _, _, hotelShown, _⟩ := (recorded.inside it inside).justified _ _ hotel
  rw [index] at hotelShown
  exact ⟨st, reached, countryShown, it, inside, visited, unknown, hotelShown⟩

end SurveyFlow
