import SurveyFlow.Proofs.Survey.Places

/-!
# The outcomes cover the survey

A walk fails only for a response to another survey. Otherwise its outcomes are a segment for each item, in the order
of the survey, and nothing else:

* **`Segmented`** — a list that is put together from a segment for each element of another one.
* **`Response.Covers`** — the segment of a prompt is one outcome. That of a set begins with the set's own, and goes on
  with each prompt once, as hidden, or with each prompt in each iteration.
* **`covers_replayItems`** — the replay keeps to these segments; with distinct ids they have no place in common.
-/

namespace SurveyFlow

/-! ## Segments -/

/-- The second list is a segment for each element of the first, in order, that stands in the relation to it. -/
inductive Segmented {α β : Type} (R : α → List β → Prop) : List α → List β → Prop where
  | nil : Segmented R [] []
  | cons {x : α} {xs : List α} {segment others : List β} :
    R x segment → Segmented R xs others → Segmented R (x :: xs) (segment ++ others)

/-- The first segment may be taken off, if any that could stand in its place has its length. -/
theorem segmented_cons_iff {α β : Type} {R : α → List β → Prop} {x : α} {xs : List α} {segment others : List β}
    (length : ∀ segment', R x segment' → segment' <+: segment ++ others → segment'.length = segment.length) :
    Segmented R (x :: xs) (segment ++ others) ↔ R x segment ∧ Segmented R xs others := by
  constructor
  · intro h
    -- The two segments begin one list and are of one length, so they are the same.
    generalize whole : segment ++ others = list at h length
    cases h with
    | @cons _ _ segment' others' first rest =>
      have same : segment'.length = segment.length := length segment' first (List.prefix_append segment' others')
      obtain ⟨rfl, rfl⟩ := List.append_inj whole same.symm
      exact ⟨first, rest⟩
  · rintro ⟨first, rest⟩
    exact .cons first rest

/-- How many iterations were uploaded for a set. An answer that is no list of objects has none. -/
def Response.iterationCount (r : Response) (set : String) : Nat :=
  match r.raw? set with
  | some (.array items) => if items.all (·.asObject?.isSome) then items.length else 0
  | _ => 0

/-- The place of an outcome. -/
def placeOf (o : String × Option Nat × Status) : String × Option Nat :=
  (o.1, o.2.1)

/-- The outcomes of one item. -/
inductive Response.Covers (r : Response) : Item → List (String × Option Nat × Status) → Prop where
  | prompt (p : Prompt) (status : Status) : Covers r (.prompt p) [(p.id, none, status)]
  | hiddenSet (s : RepeatableSet) (status : Status) (off : status.isDisplayed = false) :
    Covers r (.set s) ((s.id, none, status) :: s.prompts.map fun p => (p.id, none, .hidden))
  | shownSet (s : RepeatableSet) (status : Status) (inside : List (String × Option Nat × Status))
    (on : status.isDisplayed = true)
    (places : inside.map placeOf = placesIn s.prompts (List.range (r.iterationCount s.id))) :
    Covers r (.set s) ((s.id, none, status) :: inside)

theorem ne_nil_of_covers {r : Response} {item : Item} {segment : List (String × Option Nat × Status)}
    (h : r.Covers item segment) : segment ≠ [] := by
  cases h <;> nofun

/-- The length of an item's segment follows from its first outcome. -/
theorem length_of_covers {r : Response} {item : Item} {segment segment' : List (String × Option Nat × Status)}
    (h : r.Covers item segment) (h' : r.Covers item segment') (head : segment.head? = segment'.head?) :
    segment.length = segment'.length := by
  cases h with
  | prompt p status =>
    cases h'
    rfl
  | hiddenSet s status off =>
    cases h' with
    | hiddenSet => rfl
    | shownSet _ _ _ on _ =>
      -- One outcome cannot show the set and hide it.
      cases head
      exact absurd (off.symm.trans on) Bool.false_ne_true
  | shownSet s status inside on places =>
    cases h' with
    | hiddenSet _ _ off =>
      cases head
      exact absurd (off.symm.trans on) Bool.false_ne_true
    | shownSet _ _ inside' _ places' =>
      have length : inside.length = inside'.length := by
        rw [← List.length_map placeOf, places, ← places', List.length_map]
      rw [List.length_cons, List.length_cons, length]

/-! ## Iterations -/

/-- A list is read as objects exactly if each of its elements is one, and then none gets lost. -/
theorem length_mapM_asObject? (items : List Json) :
    (items.mapM Json.asObject?).map List.length =
      if items.all (·.asObject?.isSome) then some items.length else none := by
  induction items with
  | nil => rfl
  | cons item items ih =>
    rw [List.mapM_cons, List.all_cons, List.length_cons]
    cases item.asObject? with
    | none => rfl
    | some members =>
      have one : (some members >>= fun first => items.mapM Json.asObject? >>= fun others => pure (first :: others)).map
          List.length = ((items.mapM Json.asObject?).map List.length).map (· + 1) := by
        cases items.mapM Json.asObject? <;> rfl
      rw [one, ih, Option.isSome_some, Bool.true_and]
      split <;> rfl

/-- Iterations that can be read are the ones a walk goes through. -/
theorem readIterations_of_ok {r : Response} {set : String} {iterations : List Members}
    (h : r.iterations set = .ok iterations) : r.readIterations set = iterations := by
  rw [Response.readIterations, h]

/-- A walk goes through as many iterations as were uploaded. -/
theorem length_readIterations (r : Response) (set : String) : (r.readIterations set).length = r.iterationCount set := by
  unfold Response.readIterations Response.iterations iterationsIn Response.iterationCount Response.raw?
  cases r.answers.lookup set with
  | none => rfl
  | some raw =>
    cases raw with
    | null | bool _ | number _ | object _ => rfl
    | string text =>
      -- A sentinel is no answer, and any other text is malformed.
      simp only [Upload.ofRaw]
      by_cases hidden : text = notDisplayedMark
      · rw [if_pos hidden]
        rfl
      · rw [if_neg hidden]
        by_cases skipped : text = skippedMark
        · rw [if_pos skipped]
          rfl
        · rw [if_neg skipped]
          rfl
    -- The reader gives up at the first element that is no object, as the count does.
    | array items =>
      have length := length_mapM_asObject? items
      simp only [Upload.ofRaw]
      cases found : items.mapM Json.asObject? with
      | none =>
        rw [found] at length
        split at length
        · cases length
        · next mixed =>
          rw [if_neg mixed]
          rfl
      | some iterations =>
        rw [found] at length
        split at length
        · next objects =>
          rw [if_pos objects]
          exact Option.some.inj length
        · cases length

/-! ## The replay -/

variable (policy : Policy) (r : Response)

/-- A set that is off leaves its prompts hidden. One that is shown goes through the iterations uploaded for it. -/
theorem covers_replaySet (s : RepeatableSet) (answers : AnswerSet) :
    r.Covers (.set s) ((replaySet policy s r answers).map Visit.outcome) := by
  have places := places_replaySet policy r s answers
  unfold replaySet RepeatableSet.places at *
  dsimp only at *
  cases on : (conditionStatus policy answers.resolve s.condition).isDisplayed with
  | false =>
    rw [if_neg Bool.false_ne_true, List.map_cons, List.map_map]
    exact .hiddenSet s _ on
  | true =>
    rw [on, if_pos rfl, if_pos rfl, List.map_cons, length_readIterations, ← List.range_eq_range'] at places
    rw [if_pos rfl, List.map_cons]
    apply Response.Covers.shownSet s _ _ on
    rw [List.map_map]
    exact (List.cons_eq_cons.1 places).2

theorem covers_replayItem (answers : AnswerSet) (item : Item) :
    r.Covers item ((replayItem policy r answers item).1.map Visit.outcome) := by
  cases item with
  | prompt p => exact .prompt p _
  | set s => exact covers_replaySet policy r s answers

/-- **The replay visits every item in its turn.** Induction on the items, whatever has been answered before. -/
theorem covers_replayItems (answers : AnswerSet) (items : List Item) :
    Segmented r.Covers items ((replayItems policy r answers items).1.map Visit.outcome) := by
  induction items generalizing answers with
  | nil => exact .nil
  | cons item items ih =>
    rw [replayItems, List.map_append]
    exact .cons (covers_replayItem policy r answers item) (ih (replayItem policy r answers item).2)

/-! ## The report -/

/-- A walk fails in one case only, and then it says which surveys were mixed up. -/
theorem error_of_walk_iff {cache : Cache} (reachable : cache.Reachable) (d : Definition) (e : SurveyError) :
    (walk policy cache d r).1 = .error e ↔ d.id ≠ r.survey ∧ e = .mismatch d.id r.survey := by
  by_cases own : d.id = r.survey
  · rw [walk_eq_replay policy r reachable.sound own.symm]
    exact ⟨nofun, fun other => absurd own other.1⟩
  · rw [walk, if_neg own]
    exact ⟨fun same => ⟨own, (Except.error.inj same).symm⟩, fun other => by rw [other.2]⟩

/-- **The outcomes cover the survey.** A walk fails exactly for a response to another survey, and says so. Its outcomes
are those of the items, in order; with distinct ids they stand at distinct places, and each is found by its own. -/
theorem outcomes_cover_survey {cache : Cache} (reachable : cache.Reachable) (d : Definition) :
    (∀ e, (walk policy cache d r).1 = .error e ↔ d.id ≠ r.survey ∧ e = .mismatch d.id r.survey) ∧
      (d.id = r.survey → ∃ report, (walk policy cache d r).1 = .ok report ∧ Segmented r.Covers d.items report.outcomes ∧
        (d.ids.Nodup → (report.outcomes.map placeOf).Nodup ∧
          ∀ item iteration status, (item, iteration, status) ∈ report.outcomes →
            report.status? item iteration = some status)) := by
  refine ⟨error_of_walk_iff policy r reachable d, fun own => ?_⟩
  refine ⟨_, walk_eq_replay policy r reachable.sound own.symm, covers_replayItems policy r .empty d.items, ?_⟩
  -- What is found at a place is the visit that stands there, as no other one does.
  intro distinct
  obtain ⟨nodup, _⟩ := places_replayItems policy r .empty distinct
  constructor
  · rw [Report.outcomes, List.map_map]
    exact nodup
  · intro item iteration status mem
    obtain ⟨v, visited, same⟩ := List.mem_map.1 mem
    cases same
    exact status?_of_mem nodup visited

/-- A survey on the way to work, with the passengers of a car or the lines of a bus. -/
def commuteSurvey : Definition :=
  ⟨"commute", none,
    [.prompt ⟨"car", .boolean, none, false, []⟩,
      .set ⟨"passengers", some "car == true", [⟨"name", .text, none, true, []⟩, ⟨"pays", .boolean, none, false, []⟩]⟩,
      .set ⟨"rides", some "car == false", [⟨"line", .text, none, false, []⟩]⟩]⟩

/-- A participant with a car and two passengers, who has answered for a bus all the same. -/
def commuteUpload : Response :=
  ⟨"commute", [("car", .bool true),
    ("passengers", .array [.object [("name", .string "Ana"), ("pays", .bool true)], .object []]),
    ("rides", .array [.object [("line", .string "5")]])]⟩

/-- The prompts of the first set are visited twice, that of the second once. -/
theorem outcomes_cover_commute :
    (Cache.new 4).Reachable ∧
      (∀ e, (walk .show (.new 4) commuteSurvey commuteUpload).1 = .error e ↔
        commuteSurvey.id ≠ commuteUpload.survey ∧ e = .mismatch commuteSurvey.id commuteUpload.survey) ∧
      ∃ report, (walk .show (.new 4) commuteSurvey commuteUpload).1 = .ok report ∧
        Segmented commuteUpload.Covers commuteSurvey.items report.outcomes ∧ (report.outcomes.map placeOf).Nodup ∧
        ∀ item iteration status, (item, iteration, status) ∈ report.outcomes →
          report.status? item iteration = some status := by
  have distinct : commuteSurvey.ids.Nodup := by decide
  obtain ⟨fails, covers⟩ := outcomes_cover_survey .show commuteUpload (.new 4) commuteSurvey
  obtain ⟨report, walked, covered, places⟩ := covers rfl
  exact ⟨.new 4, fails, report, walked, covered, places distinct⟩

end SurveyFlow
