import SurveyFlow.Proofs.Survey.Agreement
import SurveyFlow.Proofs.Survey.Coverage
import SurveyFlow.Proofs.Survey.Sites

/-!
# Well-formed surveys

The check of a survey finds nothing exactly if the survey is well-formed (`Definition.WellFormed`): its ids are
distinct, every condition can be read, and each comparison names a prompt that stands before its site and admits it.
Where the ids are distinct, each comparison has at most one issue, and which one it is follows from where the name is
declared (`Site.Finds`). Both are stated by places in the survey and not by what the check keeps in sight; `finds_iff`
relates the two, and `validate_decides_wellFormed` is the result.
-/

namespace SurveyFlow

/-! ## Comparisons with the answer to a prompt -/

/-- The literal can be read as a value of the type. -/
def PromptType.Reads : PromptType → String → Prop
  | number, literal => ∃ x, finiteDouble? literal = some x
  | boolean, literal => literal = "true" ∨ literal = "false"
  | text, _ | singleChoice, _ => True

/-- Answers of the type may be compared by the comparator. -/
def PromptType.Allows (type : PromptType) (comparator : Comparator) : Prop :=
  comparator.isOrdering = true → type = .number

/-- The comparison makes sense for answers to the prompt. -/
structure Prompt.Admits (p : Prompt) (e : Expression) : Prop where
  comparator : p.type.Allows e.comparator
  literal : p.type.Reads e.literal
  choice : p.type = .singleChoice → p.choices ≠ [] → ∃ c ∈ p.choices, c.key = e.literal

/-- The first thing about a comparison that makes no sense for answers to the prompt. -/
inductive Prompt.Rejects (p : Prompt) (e : Expression) : IssueKind → Prop where
  | comparator (refused : ¬p.type.Allows e.comparator) : Rejects p e (.invalidComparison e.identifier e.comparator)
  | literal (allowed : p.type.Allows e.comparator) (unread : ¬p.type.Reads e.literal) :
    Rejects p e (.literalTypeMismatch e.identifier e.literal)
  | choice (allowed : p.type.Allows e.comparator) (single : p.type = .singleChoice) (listed : p.choices ≠ [])
    (none : ∀ c ∈ p.choices, c.key ≠ e.literal) : Rejects p e (.unknownChoice e.identifier e.literal)

/-- A comparator that is not allowed is refused before the literal is looked at. -/
theorem coerceLiteral_of_not_allows {type : PromptType} {e : Expression} (refused : ¬type.Allows e.comparator) :
    coerceLiteral type.valueType e = .error (.invalidComparison e.identifier e.comparator) := by
  obtain ⟨ordering, unordered⟩ := not_forall.1 refused
  have other : type.valueType ≠ .number := by
    cases type with
    | number => exact absurd rfl unordered
    | text | singleChoice | boolean => nofun
  unfold coerceLiteral
  exact if_pos ⟨other, ordering⟩

/-- Reading a literal for an allowed comparator is a matter of the type alone. -/
theorem coerceLiteral_of_allows {type : PromptType} {e : Expression} (allowed : type.Allows e.comparator) :
    (type.Reads e.literal ∧ ∃ value, coerceLiteral type.valueType e = .ok value) ∨
      (¬type.Reads e.literal ∧
        coerceLiteral type.valueType e = .error (.literalTypeMismatch e.identifier e.literal)) := by
  -- The reader refuses orders on other types only, and this comparator is allowed.
  have passes : ¬(type.valueType ≠ .number ∧ e.comparator.isOrdering = true) := by
    rintro ⟨other, ordering⟩
    rw [allowed ordering] at other
    exact other rfl
  unfold coerceLiteral
  rw [if_neg passes]
  cases type with
  | number =>
    dsimp only [PromptType.valueType, PromptType.Reads]
    cases finiteDouble? e.literal with
    | some x => exact .inl ⟨⟨x, rfl⟩, _, rfl⟩
    | none => exact .inr ⟨nofun, rfl⟩
  | text => exact .inl ⟨trivial, _, rfl⟩
  | singleChoice => exact .inl ⟨trivial, _, rfl⟩
  | boolean =>
    dsimp only [PromptType.valueType, PromptType.Reads]
    by_cases yes : e.literal = "true"
    · rw [if_pos yes]
      exact .inl ⟨.inl yes, _, rfl⟩
    · by_cases no : e.literal = "false"
      · rw [if_neg yes, if_pos no]
        exact .inl ⟨.inr no, _, rfl⟩
      · rw [if_neg yes, if_neg no]
        exact .inr ⟨fun either => either.elim yes no, rfl⟩

theorem hasChoice_iff {p : Prompt} {key : String} : p.hasChoice key = true ↔ ∃ c ∈ p.choices, c.key = key := by
  simp [Prompt.hasChoice]

/-- A comparison that makes sense has no issue. -/
theorem checkLiteral_of_admits {p : Prompt} {e : Expression} (h : p.Admits e) : p.checkLiteral e = none := by
  unfold Prompt.checkLiteral
  rcases coerceLiteral_of_allows h.comparator with ⟨_, value, read⟩ | ⟨unread, _⟩
  · rw [read]
    have known : ¬(p.type = .singleChoice ∧ p.choices ≠ [] ∧ (!p.hasChoice e.literal) = true) := by
      rintro ⟨single, listed, absent⟩
      rw [hasChoice_iff.2 (h.choice single listed)] at absent
      cases absent
    exact if_neg known
  · exact absurd h.literal unread

/-- Any other has the issue that comes first. -/
theorem checkLiteral_of_rejects {p : Prompt} {e : Expression} {kind : IssueKind} (h : p.Rejects e kind) :
    p.checkLiteral e = some kind := by
  unfold Prompt.checkLiteral
  cases h with
  | comparator refused => rw [coerceLiteral_of_not_allows refused]
  | literal allowed unread =>
    rcases coerceLiteral_of_allows allowed with ⟨readable, _⟩ | ⟨_, failed⟩
    · exact absurd readable unread
    · rw [failed]
  | choice allowed single listed absent =>
    rcases coerceLiteral_of_allows allowed with ⟨_, value, read⟩ | ⟨unread, _⟩
    · rw [read]
      have unknown : (!p.hasChoice e.literal) = true := by
        rw [Bool.not_eq_true', ← Bool.not_eq_true, hasChoice_iff]
        rintro ⟨c, mem, same⟩
        exact absent c mem same
      exact if_pos ⟨single, listed, unknown⟩
    · rw [single] at unread
      exact absurd trivial unread

/-- A comparison makes sense, or something about it does not. -/
theorem admits_or_rejects (p : Prompt) (e : Expression) : p.Admits e ∨ ∃ kind, p.Rejects e kind := by
  by_cases allowed : p.type.Allows e.comparator
  · by_cases readable : p.type.Reads e.literal
    · by_cases known : p.type = .singleChoice → p.choices ≠ [] → ∃ c ∈ p.choices, c.key = e.literal
      · exact .inl ⟨allowed, readable, known⟩
      · push Not at known
        obtain ⟨single, listed, absent⟩ := known
        exact .inr ⟨_, .choice allowed single listed absent⟩
    · exact .inr ⟨_, .literal allowed readable⟩
  · exact .inr ⟨_, .comparator allowed⟩

/-! ## Comparisons at a site -/

namespace Site

/-- What is to be said about a comparison in the condition of the site. -/
inductive Finds (d : Definition) (x : Site) (e : Expression) : Option IssueKind → Prop where
  | admitted (p : Prompt) (sees : x.Sees p) (named : p.id = e.identifier) (admits : p.Admits e) : Finds d x e none
  | rejected (p : Prompt) (sees : x.Sees p) (named : p.id = e.identifier) {kind : IssueKind}
    (rejects : p.Rejects e kind) : Finds d x e (some kind)
  | undeclared (absent : e.identifier ∉ d.ids) : Finds d x e (some (.unknownReference e.identifier))
  | set (s : RepeatableSet) (mem : .set s ∈ d.items) (named : s.id = e.identifier) :
    Finds d x e (some (.notAPrompt e.identifier))
  | forward (p : Prompt) (later : x.Precedes p) (named : p.id = e.identifier) :
    Finds d x e (some (.forwardReference e.identifier))
  | outside (s : RepeatableSet) (mem : .set s ∈ d.items) (apart : ¬x.Within s) (p : Prompt) (own : p ∈ s.prompts)
    (named : p.id = e.identifier) : Finds d x e (some (.outsideRepeatableSet e.identifier))

/-- The issues are what there is to say about a comparison in the condition of the site, which is one thing or none. -/
def Judges (d : Definition) (x : Site) (e : Expression) (issues : List Issue) : Prop :=
  ∃ verdict, (∀ v, x.Finds d e v ↔ v = verdict) ∧ issues = verdict.toList.map fun kind => ⟨x.id, kind⟩

end Site

/-- The ids are distinct, and every condition can be read and compares, each time in a way that makes sense, the answer
to a prompt before its site. -/
structure Definition.WellFormed (d : Definition) : Prop where
  distinct : d.ids.Nodup
  conditions : ∀ x : Site, x.In d → ∀ text, x.condition = some text →
    ∃ s, parseCondition text = .ok s ∧ ∀ e ∈ s.expressions, ∃ p, x.Sees p ∧ p.id = e.identifier ∧ p.Admits e

section Around

variable {d : Definition} {x : Site}

/-! ## Where a name is declared -/

/-- The check knows a place for each id of the survey. -/
theorem locations_ids (d : Definition) : (d.items.flatMap Item.locations).map Prod.fst = d.ids := by
  rw [List.map_flatMap, Definition.ids]
  congr 1
  funext item
  cases item with
  | prompt p => rfl
  | set s =>
    rw [Item.locations, List.map_cons, List.map_map]
    rfl

/-- A name without a place is declared nowhere. -/
theorem locate?_eq_none_iff {i : String} : d.locate? i = none ↔ i ∉ d.ids := by
  rw [Definition.locate?, List.lookup_eq_none_iff, ← locations_ids]
  constructor
  · intro others declared
    obtain ⟨entry, mem, same⟩ := List.mem_map.1 declared
    simpa [same] using others entry mem
  · intro absent entry mem
    have differ : i ≠ entry.1 := fun same => absent (same ▸ List.mem_map_of_mem mem)
    exact bne_iff_ne.2 differ

/-- With distinct ids, a name is declared in one place. -/
theorem locate?_eq_some_iff (distinct : d.ids.Nodup) {i : String} {place : Location} :
    d.locate? i = some place ↔ (i, place) ∈ d.items.flatMap Item.locations := by
  rw [Definition.locate?, List.lookup_eq_some_iff]
  constructor
  · rintro ⟨before, after, split, _⟩
    rw [split]
    exact List.mem_append_right _ List.mem_cons_self
  · intro mem
    obtain ⟨before, after, split⟩ := List.append_of_mem mem
    refine ⟨before, after, split, fun entry earlier => ?_⟩
    rw [← locations_ids, split, List.map_append, List.map_cons] at distinct
    have apart := (List.nodup_append.1 distinct).2.2 entry.1 (List.mem_map_of_mem earlier) i List.mem_cons_self
    simpa using Ne.symm apart

theorem locate?_prompt (distinct : d.ids.Nodup) {p : Prompt} (mem : .prompt p ∈ d.items) :
    d.locate? p.id = some .top :=
  (locate?_eq_some_iff distinct).2 (List.mem_flatMap.2 ⟨_, mem, List.mem_singleton_self _⟩)

theorem locate?_set (distinct : d.ids.Nodup) {s : RepeatableSet} (mem : .set s ∈ d.items) :
    d.locate? s.id = some .set :=
  (locate?_eq_some_iff distinct).2 (List.mem_flatMap.2 ⟨_, mem, List.mem_cons_self⟩)

theorem locate?_inside (distinct : d.ids.Nodup) {s : RepeatableSet} (mem : .set s ∈ d.items) {p : Prompt}
    (own : p ∈ s.prompts) : d.locate? p.id = some (.inside s.id) :=
  (locate?_eq_some_iff distinct).2
    (List.mem_flatMap.2 ⟨_, mem, List.mem_cons_of_mem _ (List.mem_map.2 ⟨p, own, rfl⟩)⟩)

/-- What declares a name, by the place of the declaration. -/
theorem declared_of_locate? (distinct : d.ids.Nodup) {i : String} {place : Location} (h : d.locate? i = some place) :
    (∃ p, .prompt p ∈ d.items ∧ p.id = i ∧ place = .top) ∨ (∃ s, .set s ∈ d.items ∧ s.id = i ∧ place = .set) ∨
      ∃ s, .set s ∈ d.items ∧ ∃ p ∈ s.prompts, p.id = i ∧ place = .inside s.id := by
  obtain ⟨item, mem, declared⟩ := List.mem_flatMap.1 ((locate?_eq_some_iff distinct).1 h)
  cases item with
  | prompt p =>
    cases List.mem_singleton.1 declared
    exact .inl ⟨p, mem, rfl, rfl⟩
  | set s =>
    rcases List.mem_cons.1 declared with here | inside
    · cases here
      exact .inr (.inl ⟨s, mem, rfl, rfl⟩)
    · obtain ⟨p, own, same⟩ := List.mem_map.1 inside
      cases same
      exact .inr (.inr ⟨s, mem, p, own, rfl, rfl⟩)

/-- The check knows the set of a site by its id. -/
theorem within_iff (distinct : d.ids.Nodup) (there : x.In d) {s : RepeatableSet} (mem : .set s ∈ d.items) :
    x.visible.set = some s.id ↔ x.Within s := by
  cases x with
  | item before y after => exact iff_of_false nofun id
  | inside before t after first p rest =>
    have own : .set t ∈ d.items := by
      rw [there.1]
      exact List.mem_append_right _ List.mem_cons_self
    constructor
    · intro same
      have ids : t.id = s.id := Option.some.inj same
      have found := set?_of_mem distinct own
      rw [ids, set?_of_mem distinct mem] at found
      exact (Option.some.inj found).symm
    · rintro rfl
      rfl

/-- Where the prompts at the top level and in the set of a site are declared. -/
theorem locate?_of_near (distinct : d.ids.Nodup) (there : x.In d) {p : Prompt} (near : x.Near d p) :
    d.locate? p.id = some .top ∨ ∃ set, d.locate? p.id = some (.inside set) ∧ x.visible.set = some set := by
  rcases near with top | ⟨s, mem, within, own⟩
  · exact .inl (locate?_prompt distinct top)
  · exact .inr ⟨s.id, locate?_inside distinct mem own, (within_iff distinct there mem).2 within⟩

/-! ## The check of one comparison -/

variable {e : Expression}

/-- A comparison with a prompt that is seen is judged by its literal. -/
theorem checkExpression_of_sees (distinct : d.ids.Nodup) (there : x.In d) {p : Prompt} (sees : x.Sees p)
    (named : p.id = e.identifier) : x.visible.checkExpression d e = p.checkLiteral e := by
  rw [Visible.checkExpression, (find?_eq_some_iff_sees distinct there).2 ⟨sees, named⟩]

/-- What is said about a name that no prompt before the site has depends on where it is declared. -/
theorem checkExpression_of_unseen (distinct : d.ids.Nodup) (there : x.In d)
    (unseen : ∀ p, x.Sees p → p.id ≠ e.identifier) :
    x.visible.checkExpression d e = some (x.visible.unresolved d e.identifier) := by
  rw [Visible.checkExpression, (find?_eq_none_iff_sees distinct there).2 unseen]

/-- Of a prompt at the top level or in the set of the site, all there is to say is that it comes later. -/
theorem unresolved_of_near (distinct : d.ids.Nodup) (there : x.In d) {p : Prompt} (near : x.Near d p) :
    x.visible.unresolved d p.id = .forwardReference p.id := by
  unfold Visible.unresolved
  rcases locate?_of_near distinct there near with top | ⟨set, inside, own⟩
  · rw [top]
  · rw [inside]
    exact if_pos own

/-- Each thing that is to be said about a comparison is what the check says. -/
theorem eq_checkExpression_of_finds (distinct : d.ids.Nodup) (there : x.In d) {verdict : Option IssueKind}
    (h : x.Finds d e verdict) : verdict = x.visible.checkExpression d e := by
  have located : ∀ p, x.Sees p → p.id = e.identifier → d.locate? e.identifier = some .top ∨
      ∃ set, d.locate? e.identifier = some (.inside set) ∧ x.visible.set = some set := by
    intro p sees named
    rw [← named]
    exact locate?_of_near distinct there ((near_iff there).2 (.inl sees))
  -- One case for each thing to be said. Those on names need that no prompt before the site has the name.
  cases h with
  | admitted p sees named admits =>
    rw [checkExpression_of_sees distinct there sees named, checkLiteral_of_admits admits]
  | rejected p sees named rejects =>
    rw [checkExpression_of_sees distinct there sees named, checkLiteral_of_rejects rejects]
  | undeclared absent =>
    have nowhere : d.locate? e.identifier = none := locate?_eq_none_iff.2 absent
    rw [checkExpression_of_unseen distinct there, Visible.unresolved, nowhere]
    intro p sees named
    rcases located p sees named with top | ⟨_, inside, _⟩
    · exact nomatch nowhere.symm.trans top
    · exact nomatch nowhere.symm.trans inside
  | set s mem named =>
    have here : d.locate? e.identifier = some .set := named ▸ locate?_set distinct mem
    rw [checkExpression_of_unseen distinct there, Visible.unresolved, here]
    intro p sees named'
    rcases located p sees named' with top | ⟨_, inside, _⟩
    · exact nomatch here.symm.trans top
    · exact nomatch here.symm.trans inside
  | forward p later named =>
    rw [checkExpression_of_unseen distinct there, ← named,
      unresolved_of_near distinct there ((near_iff there).2 (.inr later))]
    intro q sees
    rw [← named]
    exact id_ne_of_precedes distinct there sees later
  | outside s mem apart p own named =>
    have here : d.locate? e.identifier = some (.inside s.id) := named ▸ locate?_inside distinct mem own
    have foreign : x.visible.set ≠ some s.id := fun same => apart ((within_iff distinct there mem).1 same)
    rw [checkExpression_of_unseen distinct there, Visible.unresolved, here]
    · exact congrArg some (if_neg foreign).symm
    · intro q sees named'
      rcases located q sees named' with top | ⟨set, inside, same⟩
      · exact nomatch here.symm.trans top
      · cases here.symm.trans inside
        exact foreign same

/-- What the check says is to be said. -/
theorem finds_checkExpression (distinct : d.ids.Nodup) (there : x.In d) :
    x.Finds d e (x.visible.checkExpression d e) := by
  -- Either a prompt before the site has the name, and the literal decides, or the place of its declaration does.
  by_cases seen : ∃ p, x.Sees p ∧ p.id = e.identifier
  · obtain ⟨p, sees, named⟩ := seen
    rw [checkExpression_of_sees distinct there sees named]
    rcases admits_or_rejects p e with admits | ⟨kind, rejects⟩
    · rw [checkLiteral_of_admits admits]
      exact .admitted p sees named admits
    · rw [checkLiteral_of_rejects rejects]
      exact .rejected p sees named rejects
  have unseen : ∀ p, x.Sees p → p.id ≠ e.identifier := fun p sees named => seen ⟨p, sees, named⟩
  have later : ∀ p, x.Near d p → p.id = e.identifier → x.Precedes p := fun p near named =>
    ((near_iff there).1 near).resolve_left fun sees => unseen p sees named
  rw [checkExpression_of_unseen distinct there unseen]
  cases place : d.locate? e.identifier with
  | none =>
    rw [Visible.unresolved, place]
    exact .undeclared (locate?_eq_none_iff.1 place)
  | some _ =>
    -- The name is declared: by a prompt at the top level, by a set, or by a prompt in a set.
    rcases declared_of_locate? distinct place with
      ⟨p, mem, named, rfl⟩ | ⟨s, mem, named, rfl⟩ | ⟨s, mem, p, own, named, rfl⟩
    · rw [← named, unresolved_of_near distinct there (.inl mem), named]
      exact .forward p (later p (.inl mem) named) named
    · rw [Visible.unresolved, place]
      exact .set s mem named
    · by_cases within : x.Within s
      · have near : x.Near d p := .inr ⟨s, mem, within, own⟩
        rw [← named, unresolved_of_near distinct there near, named]
        exact .forward p (later p near named) named
      · have foreign : x.visible.set ≠ some s.id := fun same => within ((within_iff distinct there mem).1 same)
        rw [Visible.unresolved, place]
        dsimp only
        rw [if_neg foreign]
        exact .outside s mem within p own named

/-- **What is to be said about a comparison is what the check says,** and nothing else. -/
theorem finds_iff (distinct : d.ids.Nodup) (there : x.In d) (verdict : Option IssueKind) :
    x.Finds d e verdict ↔ verdict = x.visible.checkExpression d e := by
  constructor
  · exact eq_checkExpression_of_finds distinct there
  · rintro rfl
    exact finds_checkExpression distinct there

/-! ## The check of a condition -/

/-- A condition has no issues if it can be read and each comparison makes sense for a prompt before the site. -/
theorem check_eq_nil_iff (distinct : d.ids.Nodup) (there : x.In d) :
    x.check d = [] ↔ ∀ text, x.condition = some text →
      ∃ s, parseCondition text = .ok s ∧ ∀ e ∈ s.expressions, ∃ p, x.Sees p ∧ p.id = e.identifier ∧ p.Admits e := by
  -- That nothing is to be said means that the comparison makes sense.
  have silent : ∀ e, x.visible.checkExpression d e = none ↔ ∃ p, x.Sees p ∧ p.id = e.identifier ∧ p.Admits e := by
    intro e
    rw [eq_comm, ← finds_iff distinct there]
    constructor
    · rintro ⟨p, sees, named, admits⟩
      exact ⟨p, sees, named, admits⟩
    · rintro ⟨p, sees, named, admits⟩
      exact .admitted p sees named admits
  unfold Site.check Visible.check
  cases x.condition with
  | none => exact iff_of_true rfl nofun
  | some text =>
    cases read : parseCondition text with
    | error error =>
      refine iff_of_false (by simp [read]) fun reads => ?_
      obtain ⟨s, parsed, _⟩ := reads text rfl
      rw [read] at parsed
      cases parsed
    | ok s =>
      simp only [read, List.map_eq_nil_iff, List.filterMap_eq_nil_iff, silent]
      constructor
      · rintro admitted _ ⟨⟩
        exact ⟨s, read, admitted⟩
      · intro reads
        obtain ⟨_, parsed, admitted⟩ := reads text rfl
        rw [read] at parsed
        cases parsed
        exact admitted

/-- Each comparison of a condition that can be read has its own issues, in order. -/
theorem segmented_check (distinct : d.ids.Nodup) (there : x.In d) {text : String} {s : Sentence}
    (condition : x.condition = some text) (read : parseCondition text = .ok s) :
    Segmented (x.Judges d) s.expressions (x.check d) := by
  unfold Site.check Visible.check
  simp only [condition, read]
  induction s.expressions with
  | nil => exact .nil
  | cons e es ih =>
    have judged : x.Judges d e ((x.visible.checkExpression d e).toList.map fun kind => ⟨x.id, kind⟩) :=
      ⟨_, finds_iff distinct there, rfl⟩
    have split : (e :: es).filterMap (x.visible.checkExpression d) =
        (x.visible.checkExpression d e).toList ++ es.filterMap (x.visible.checkExpression d) := by
      rw [List.filterMap_cons]
      cases x.visible.checkExpression d e <;> rfl
    rw [split, List.map_append]
    exact .cons judged ih

end Around

/-- **The check decides well-formedness, and says what is wrong.** A survey has no issues exactly if it is well-formed.
If its ids are distinct, the issues of an item whose condition can be read are those of the comparisons in it, each of
which has one issue or none, as the place of the prompt that it names says. -/
theorem validate_decides_wellFormed (d : Definition) :
    (validate d = [] ↔ d.WellFormed) ∧
      (d.ids.Nodup → ∀ x : Site, x.In d → ∀ text s, x.condition = some text → parseCondition text = .ok s →
        Segmented (x.Judges d) s.expressions ((validate d).filter fun issue => issue.item == x.id)) := by
  constructor
  · constructor
    · intro valid
      have distinct : d.ids.Nodup := nodup_ids_of_validate (by simp [valid])
      refine ⟨distinct, fun x there => (check_eq_nil_iff distinct there).1 ?_⟩
      rw [← issues_of_site distinct there, valid]
      rfl
    · rintro ⟨distinct, conditions⟩
      rw [validate_of_nodup distinct, checkItems_eq_flatMap_sites, List.flatMap_eq_nil_iff]
      intro x mem
      have there := mem_sites_iff.1 mem
      exact (check_eq_nil_iff distinct there).2 (conditions x there)
  · intro distinct x there text s condition read
    rw [issues_of_site distinct there]
    exact segmented_check distinct there condition read

/-- The condition of a cake, which counts guests and asks for their diet, for the guests themselves, for the cake and
for wine. -/
def cakeCondition : String :=
  "count > 1 and (diet == vegan or guests == 2) or cake == true or wine == red"

def picnicSurvey : Definition :=
  ⟨"picnic", none,
    [.prompt ⟨"count", .number, none, false, []⟩,
      .set ⟨"guests", some "count > 0", [⟨"diet", .text, none, true, []⟩]⟩,
      .prompt ⟨"cake", .boolean, some cakeCondition, false, []⟩]⟩

/-- The first comparison makes sense. Of the other four, each has an issue of its own kind. -/
theorem validate_decides_picnic :
    ∃ (x : Site) (s : Sentence), picnicSurvey.ids.Nodup ∧ x.In picnicSurvey ∧ x.condition = some cakeCondition ∧
      parseCondition cakeCondition = .ok s ∧
      Segmented (x.Judges picnicSurvey) s.expressions ((validate picnicSurvey).filter fun issue => issue.item == x.id) ∧
      s.expressions.length = 5 ∧ (validate picnicSurvey).filter (fun issue => issue.item == x.id) =
        [⟨"cake", .outsideRepeatableSet "diet"⟩, ⟨"cake", .notAPrompt "guests"⟩, ⟨"cake", .forwardReference "cake"⟩,
          ⟨"cake", .unknownReference "wine"⟩] := by
  let x : Site := .item (picnicSurvey.items.take 2) (.prompt ⟨"cake", .boolean, some cakeCondition, false, []⟩) []
  have distinct : picnicSurvey.ids.Nodup := by decide
  have issues : (validate picnicSurvey).filter (fun issue => issue.item == x.id) =
      [⟨"cake", .outsideRepeatableSet "diet"⟩, ⟨"cake", .notAPrompt "guests"⟩, ⟨"cake", .forwardReference "cake"⟩,
        ⟨"cake", .unknownReference "wine"⟩] := by
    decide +kernel
  have size : (parseCondition cakeCondition).map (·.expressions.length) = .ok 5 := by decide +kernel
  cases read : parseCondition cakeCondition with
  | error e =>
    rw [read] at size
    cases size
  | ok s =>
    rw [read] at size
    have segments := (validate_decides_wellFormed picnicSurvey).2 distinct x rfl cakeCondition s rfl read
    exact ⟨x, s, distinct, rfl, rfl, rfl, segments, Except.ok.inj size, issues⟩

end SurveyFlow
