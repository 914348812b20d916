import SurveyFlow.Proofs.Survey.Dependence
import SurveyFlow.Proofs.Survey.WellFormed

/-!
# Taking an item out of a survey

An item that the conditions of the others do not name can be taken out (`walk_without_item`). The others still see the
prompts that they name, so a survey without issues stays without issues. And the walks of the two surveys go on with
answers that differ under one name at most (`AnswerSet.SameOff`), which nothing behind the item asks for, so a report
loses the visits of the item and keeps all others as they are.
-/

namespace SurveyFlow

/-! ## Names in conditions -/

/-- The names in a condition, none if it cannot be read. -/
def namesIn (condition : Option String) : List String :=
  match condition with
  | none => []
  | some text =>
    match parseCondition text with
    | .error _ => []
    | .ok s => s.identifiers

/-- The names in the condition of the item, and in those of its prompts if it is a set. -/
def Item.names : Item → List String
  | prompt p => namesIn p.condition
  | set s => namesIn s.condition ++ s.prompts.flatMap fun p => namesIn p.condition

/-- No condition of the others names the prompt. A set has no value that they could name. -/
def Item.UnnamedIn (others : List Item) : Item → Prop
  | prompt p => ∀ other ∈ others, p.id ∉ other.names
  | set _ => True

instance (others : List Item) (item : Item) : Decidable (item.UnnamedIn others) :=
  match item with
  | .prompt p => inferInstanceAs (Decidable (∀ other ∈ others, p.id ∉ other.names))
  | .set _ => inferInstanceAs (Decidable True)

/-- The names in a condition that can be read are its identifiers. -/
theorem namesIn_of_parse {text : String} {s : Sentence} (read : parseCondition text = .ok s) :
    namesIn (some text) = s.identifiers := by
  simp only [namesIn, read]

/-! ## The sites of the others -/

/-- An element of a list stands, with one more element in the list, behind the same ones and possibly that one. -/
theorem exists_split_of_insert {α : Type} {before after b a : List α} {y : α} (x : α)
    (split : before ++ after = b ++ y :: a) : ∃ b' a', before ++ x :: after = b' ++ y :: a' ∧ b' ⊆ x :: b := by
  rcases List.append_eq_append_iff.1 split with ⟨c, rfl, rfl⟩ | ⟨c, rfl, whole⟩
  -- The new element stands before this one, right before it, or behind it.
  · refine ⟨before ++ x :: c, a, by simp, fun z mem => ?_⟩
    simpa [or_left_comm] using mem
  · cases c with
    | nil =>
      cases whole
      refine ⟨b ++ [x], a, by simp, fun z mem => ?_⟩
      simpa [or_comm] using mem
    | cons _ c =>
      cases whole
      exact ⟨b, c ++ x :: after, by simp, List.subset_cons_self x b⟩

section Around

variable {d : Definition} {before after : List Item} {item : Item}

/-- What the site sees with one more item is what it sees without it, and possibly that item. -/
theorem exists_site_of_without (split : d.items = before ++ item :: after) {x : Site}
    (there : x.In { d with items := before ++ after }) :
    ∃ x' : Site, x'.In d ∧ x'.condition = x.condition ∧ ∀ p, x'.Sees p → x.Sees p ∨ item = .prompt p := by
  have seen : ∀ {b b' : List Item} {p : Prompt}, b' ⊆ item :: b → .prompt p ∈ b' → .prompt p ∈ b ∨ item = .prompt p :=
    fun sub mem => (List.mem_cons.1 (sub mem)).symm.imp_right Eq.symm
  -- A site is an item, or a prompt in a set; in both cases the new item is before it or behind it.
  cases x with
  | item b y a =>
    obtain ⟨b', a', whole, sub⟩ := exists_split_of_insert item there
    exact ⟨.item b' y a', split.trans whole, rfl, fun p => seen sub⟩
  | inside b s a first q rest =>
    obtain ⟨there, inner⟩ := there
    obtain ⟨b', a', whole, sub⟩ := exists_split_of_insert item there
    refine ⟨.inside b' s a' first q rest, ⟨split.trans whole, inner⟩, rfl, ?_⟩
    rintro p (outer | own)
    · exact (seen sub outer).imp_left .inl
    · exact .inl (.inr own)

/-- The names in the condition at a site are names of an item. -/
theorem names_of_site {x : Site} (there : x.In d) : ∃ y ∈ d.items, namesIn x.condition ⊆ y.names := by
  cases x with
  | item b y a =>
    have whole : d.items = b ++ y :: a := there
    refine ⟨y, whole ▸ List.mem_append_cons_self, ?_⟩
    cases y with
    | prompt p => exact List.Subset.refl _
    | set s => exact List.subset_append_left _ _
  | inside b s a first p rest =>
    obtain ⟨whole, inner⟩ := there
    have own : p ∈ s.prompts := inner ▸ List.mem_append_cons_self
    refine ⟨.set s, whole ▸ List.mem_append_cons_self, fun i inside => ?_⟩
    exact List.mem_append_right _ (List.mem_flatMap.2 ⟨p, own, inside⟩)

/-! ## The check -/

/-- **The others have no issues without the item.** Each comparison still names a prompt before its site, which is not
the item that is gone. -/
theorem validate_without (valid : validate d = []) (split : d.items = before ++ item :: after)
    (unnamed : item.UnnamedIn (before ++ after)) : validate { d with items := before ++ after } = [] := by
  obtain ⟨distinct, silent⟩ := validate_eq_nil_iff_check.1 valid
  have distinct' : (Definition.ids { d with items := before ++ after }).Nodup := by
    rw [ids_of_split split] at distinct
    rw [Definition.ids, List.flatMap_append]
    exact distinct.sublist ((List.Sublist.refl _).append (List.sublist_append_right _ _))
  -- Site by site: each is a site of the whole survey, which has no issue there.
  refine validate_eq_nil_iff_check.2 ⟨distinct', fun x there => (check_eq_nil_iff distinct' there).2 ?_⟩
  intro text condition
  obtain ⟨x', there', same, sees⟩ := exists_site_of_without split there
  obtain ⟨s, read, admitted⟩ :=
    (check_eq_nil_iff distinct there').1 (silent x' there') text (same.trans condition)
  refine ⟨s, read, fun e mem => ?_⟩
  obtain ⟨p, seen, named, admits⟩ := admitted e mem
  refine ⟨p, (sees p seen).resolve_right ?_, named, admits⟩
  -- If the comparison named the item that is gone, a condition of the others would have its name.
  rintro rfl
  obtain ⟨y, other, names⟩ := names_of_site there
  have asked : e.identifier ∈ namesIn x.condition := by
    rw [condition, namesIn_of_parse read]
    exact List.mem_map_of_mem mem
  exact unnamed y other (named ▸ names asked)

end Around

/-! ## Answers that differ under one name

Two walks that go on from such answers make the same visits, as long as no condition has that name. -/

/-- The answer sets have the same answers, except for the given name. -/
def AnswerSet.SameOff (name : String) (s t : AnswerSet) : Prop :=
  ∀ other, other ≠ name → s.get? other = t.get? other

/-- The contexts have the same answers, except for the given name. -/
def Context.SameOff (name : String) (ctx ctx' : Context) : Prop :=
  ∀ other, other ≠ name → ctx other = ctx' other

section SameOff

variable {name : String} {s t : AnswerSet}

/-- An answer changes what is known of its own name only. -/
theorem sameOff_insert_self (s : AnswerSet) (name : String) (answer : Answer) :
    (s.insert name answer).SameOff name s := by
  intro other differ
  rw [AnswerSet.get?_insert, if_neg differ]

theorem AnswerSet.SameOff.insert (h : s.SameOff name t) (id : String) (answer : Answer) :
    (s.insert id answer).SameOff name (t.insert id answer) := by
  intro other differ
  rw [get?_insert, get?_insert, h other differ]

/-- Conditions at the top level see the difference under that name only. -/
theorem AnswerSet.SameOff.resolve (h : s.SameOff name t) : Context.SameOff name s.resolve t.resolve := by
  intro other differ
  unfold AnswerSet.resolve
  rw [h other differ]

theorem AnswerSet.SameOff.layered (h : s.SameOff name t) (inner : AnswerSet) :
    Context.SameOff name (layered inner s) (layered inner t) := by
  intro other differ
  unfold SurveyFlow.layered
  rw [h.resolve other differ]

variable (policy : Policy)

/-- **A condition that does not have the name has the same status.** -/
theorem conditionStatus_of_unnamed {ctx ctx' : Context} (h : ctx.SameOff name ctx') {condition : Option String}
    (unnamed : name ∉ namesIn condition) :
    conditionStatus policy ctx condition = conditionStatus policy ctx' condition := by
  apply conditionStatus_of_evaluate
  rintro text s rfl read
  apply evaluate_congr
  intro x mem
  have differ : x.identifier ≠ name := by
    rintro rfl
    rw [namesIn_of_parse read] at unnamed
    exact unnamed (List.mem_map_of_mem mem)
  rw [h x.identifier differ]

/-- So a prompt has the same visit, and leaves the same answer. -/
theorem replayPrompt_of_unnamed {ctx ctx' : Context} (h : ctx.SameOff name ctx') {p : Prompt}
    (unnamed : name ∉ namesIn p.condition) (iteration : Option Nat) (raw : Option Json) :
    replayPrompt policy ctx p iteration raw = replayPrompt policy ctx' p iteration raw := by
  unfold replayPrompt
  rw [conditionStatus_of_unnamed policy h unnamed]

/-- The prompts of an iteration. Induction on the prompts; the answers of the iteration are the same. -/
theorem replayPrompts_of_unnamed (h : s.SameOff name t) (index : Nat) (uploaded : Members) {prompts : List Prompt}
    (unnamed : ∀ p ∈ prompts, name ∉ namesIn p.condition) (scope : AnswerSet) :
    replayPrompts policy s index uploaded scope prompts = replayPrompts policy t index uploaded scope prompts := by
  induction prompts generalizing scope with
  | nil => rfl
  | cons p prompts ih =>
    obtain ⟨own, others⟩ := List.forall_mem_cons.1 unnamed
    rw [replayPrompts, replayPrompts, replayPrompt_of_unnamed policy (h.layered scope) own, ih others]

theorem replayIterations_of_unnamed (h : s.SameOff name t) {prompts : List Prompt}
    (unnamed : ∀ p ∈ prompts, name ∉ namesIn p.condition) (index : Nat) (iterations : List Members) :
    replayIterations policy s prompts index iterations = replayIterations policy t prompts index iterations := by
  induction iterations generalizing index with
  | nil => rfl
  | cons uploaded more ih =>
    rw [replayIterations, replayIterations, replayPrompts_of_unnamed policy h index uploaded unnamed, ih]

variable (r : Response)

theorem replaySet_of_unnamed (h : s.SameOff name t) {set : RepeatableSet} (unnamed : name ∉ (Item.set set).names) :
    replaySet policy set r s = replaySet policy set r t := by
  rw [Item.names, List.mem_append, not_or, List.mem_flatMap] at unnamed
  obtain ⟨gate, inside⟩ := unnamed
  have each : ∀ p ∈ set.prompts, name ∉ namesIn p.condition := fun p own named => inside ⟨p, own, named⟩
  unfold replaySet
  rw [conditionStatus_of_unnamed policy h.resolve gate]
  dsimp only
  rw [replayIterations_of_unnamed policy h each]

/-- One item makes the same visits, and the answers behind it still differ under the one name only. -/
theorem replayItem_of_unnamed (h : s.SameOff name t) {item : Item} (unnamed : name ∉ item.names) :
    (replayItem policy r s item).1 = (replayItem policy r t item).1 ∧
      (replayItem policy r s item).2.SameOff name (replayItem policy r t item).2 := by
  cases item with
  | prompt p =>
    rw [replayItem, replayItem, replayPrompt_of_unnamed policy h.resolve unnamed]
    exact ⟨rfl, h.insert p.id _⟩
  | set set => exact ⟨replaySet_of_unnamed policy r h unnamed, h⟩

/-- **The items make the same visits.** Induction on the items, the answers differing under the one name only. -/
theorem replayItems_of_unnamed (h : s.SameOff name t) {items : List Item}
    (unnamed : ∀ item ∈ items, name ∉ item.names) :
    (replayItems policy r s items).1 = (replayItems policy r t items).1 := by
  induction items generalizing s t with
  | nil => rfl
  | cons item items ih =>
    obtain ⟨own, others⟩ := List.forall_mem_cons.1 unnamed
    obtain ⟨visits, behind⟩ := replayItem_of_unnamed policy r h own
    rw [replayItems, replayItems]
    dsimp only
    rw [visits, ih behind others]

end SameOff

/-! ## The report -/

/-- The report without the visits of an item and of its prompts. -/
def Report.without (report : Report) (item : Item) : Report :=
  { report with visits := report.visits.filter fun v => v.item ∉ item.ids }

theorem outcomes_without (report : Report) (item : Item) :
    (report.without item).outcomes = report.outcomes.filter fun outcome => outcome.1 ∉ item.ids := by
  rw [Report.outcomes, Report.outcomes, List.filter_map]
  rfl

theorem faults_without (report : Report) (item : Item) :
    (report.without item).faults = report.faults.filter fun fault => fault.1.item ∉ item.ids := by
  unfold Report.faults Report.without
  rw [List.filterMap_filter, List.filter_filterMap]
  congr 1
  funext v
  cases v.finding <;> simp [Option.filter]

section Around

variable {d : Definition} {before after : List Item} {item : Item} (policy : Policy) (r : Response)

/-- An item that the others do not name leaves answers that they cannot tell from those before it. -/
theorem visits_behind_item (answers : AnswerSet) (unnamed : item.UnnamedIn (before ++ after)) :
    (replayItems policy r (replayItem policy r answers item).2 after).1 = (replayItems policy r answers after).1 := by
  cases item with
  | prompt p =>
    exact replayItems_of_unnamed policy r (sameOff_insert_self answers p.id _) fun other mem =>
      unnamed other (List.mem_append_right _ mem)
  | set s => rfl

/-- All visits of an item are of its own ids. -/
theorem visits_of_item (answers : AnswerSet) (distinct : item.ids.Nodup) :
    (replayItem policy r answers item).1.filter (fun v => v.item ∉ item.ids) = [] := by
  refine List.filter_eq_nil_iff.2 fun v visited => ?_
  simpa using (places_replayItem policy r answers distinct).2 v visited

theorem visits_of_others {items : List Item} (answers : AnswerSet) (distinct : (items.flatMap Item.ids).Nodup)
    (apart : ∀ i ∈ items.flatMap Item.ids, i ∉ item.ids) :
    (replayItems policy r answers items).1.filter (fun v => v.item ∉ item.ids) =
      (replayItems policy r answers items).1 := by
  refine List.filter_eq_self.2 fun v visited => decide_eq_true (apart v.item ?_)
  exact (places_replayItems policy r answers distinct).2 v visited

/-- **The visits of the others are those that are left.** -/
theorem replayItems_without (distinct : d.ids.Nodup) (split : d.items = before ++ item :: after)
    (unnamed : item.UnnamedIn (before ++ after)) :
    (replayItems policy r .empty (before ++ after)).1 =
      (replayItems policy r .empty d.items).1.filter fun v => v.item ∉ item.ids := by
  rw [ids_of_split split] at distinct
  obtain ⟨first, distinct, apart⟩ := List.nodup_append.1 distinct
  obtain ⟨own, others, apart'⟩ := List.nodup_append.1 distinct
  have earlier : ∀ i ∈ before.flatMap Item.ids, i ∉ item.ids :=
    fun i mem same => apart i mem i (List.mem_append_left _ same) rfl
  have later : ∀ i ∈ after.flatMap Item.ids, i ∉ item.ids := fun i mem same => apart' i same i mem rfl
  -- The walks are cut where the item stands in one of them, and each piece is filtered on its own.
  rw [split, replayItems_append, replayItems_append, replayItems]
  dsimp only
  rw [List.filter_append, List.filter_append, visits_of_others policy r _ first earlier, visits_of_item policy r _ own,
    visits_of_others policy r _ others later, visits_behind_item policy r _ unnamed, List.nil_append]

end Around

/-- **An item that no other names can be taken out.** Without a set, or without a prompt that no condition of the others
names, a survey without issues still has none. And from the report of every response the outcomes and the faults of the
item and of its prompts are gone, all others being as they were, whatever the caches hold. -/
theorem walk_without_item (policy : Policy) {cache cache' : Cache} (reachable : cache.Reachable)
    (reachable' : cache'.Reachable) {d : Definition} {before after : List Item} {item : Item} (valid : validate d = [])
    (split : d.items = before ++ item :: after) (unnamed : item.UnnamedIn (before ++ after)) :
    validate { d with items := before ++ after } = [] ∧
      ∀ r : Response, r.survey = d.id → ∃ report report', (walk policy cache d r).1 = .ok report ∧
        (walk policy cache' { d with items := before ++ after } r).1 = .ok report' ∧ report' = report.without item ∧
        report'.outcomes = report.outcomes.filter (fun outcome => outcome.1 ∉ item.ids) ∧
        report'.faults = report.faults.filter (fun fault => fault.1.item ∉ item.ids) := by
  refine ⟨validate_without valid split unnamed, fun r own => ?_⟩
  have distinct := (validate_eq_nil_iff_check.1 valid).1
  -- The walk over the shorter survey is the replay with the visits of the item taken out.
  have walked' : (walk policy cache' { d with items := before ++ after } r).1 =
      .ok (Report.without ⟨d.id, (replayItems policy r .empty d.items).1⟩ item) := by
    unfold Report.without
    rw [← replayItems_without policy r distinct split unnamed]
    exact walk_eq_replay policy r reachable'.sound own
  exact ⟨_, _, walk_eq_replay policy r reachable.sound own, walked', rfl, outcomes_without _ _, faults_without _ _⟩

def moodPrompt : Prompt :=
  ⟨"mood", .text, some "age > 12", false, []⟩

/-- A survey on concerts, with a question on the mood that nothing depends on. -/
def concertSurvey : Definition :=
  ⟨"concerts", none,
    [.prompt ⟨"age", .number, none, false, []⟩,
      .prompt moodPrompt,
      .set ⟨"attended", some "age >= 18",
        [⟨"band", .text, none, false, []⟩, ⟨"loud", .boolean, some "band != none and age < 60", true, []⟩]⟩]⟩

/-- A participant in no mood to tell, who has been to one concert and did not say which. -/
def concertUpload : Response :=
  ⟨"concerts", [("age", .number (.integer 30)), ("mood", .string "SKIPPED"),
    ("attended", .array [.object [("loud", .bool true)]])]⟩

/-- Without the question on the mood, the faults of the concert are left. -/
theorem walk_without_mood :
    validate { concertSurvey with items := concertSurvey.items.eraseIdx 1 } = [] ∧
      ∃ report report', (walk .show (.new 4) concertSurvey concertUpload).1 = .ok report ∧
        (walk .show (.new 4) { concertSurvey with items := concertSurvey.items.eraseIdx 1 } concertUpload).1 =
          .ok report' ∧
        report'.faults = report.faults.filter (fun fault => fault.1.item ∉ (Item.prompt moodPrompt).ids) ∧
        report.faults.map (·.1.item) = ["mood", "band", "loud"] := by
  have valid : validate concertSurvey = [] := by decide +kernel
  have unnamed : (Item.prompt moodPrompt).UnnamedIn (concertSurvey.items.take 1 ++ concertSurvey.items.drop 2) := by
    decide +kernel
  have found : (walk .show (.new 4) concertSurvey concertUpload).1.map (·.faults.map (·.1.item)) =
      .ok ["mood", "band", "loud"] := by
    decide +kernel
  obtain ⟨valid', walks⟩ := walk_without_item .show (.new 4) (.new 4) valid rfl unnamed
  obtain ⟨report, report', walked, walked', _, _, faults⟩ := walks concertUpload rfl
  rw [walked] at found
  exact ⟨valid', report, report', walked, walked', faults, Except.ok.inj found⟩

end SurveyFlow
