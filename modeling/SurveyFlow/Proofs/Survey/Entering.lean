import SurveyFlow.Proofs.Survey.Consistency
import SurveyFlow.Survey.Scope

/-!
# Entering iterations

Entering an iteration leaves the one before, so of several iterations entered one after the other the last one alone
counts (`selections_replace_each_other`). Whether an iteration can be entered depends on the survey and the upload only
(`UploadScope.enter_of_enter`), and this is carried through a sequence from its front. What an identifier stands for
in the end is said without the search (`StandsFor`): the prompts of the set come first, those at the top level second,
and those of other sets not at all.
-/

namespace SurveyFlow

/-! ## The first of a name -/

/-- The first entry of that name. -/
def FirstNamed {α : Type} (name : α → String) (id : String) (xs : List α) (x : α) : Prop :=
  ∃ before after, xs = before ++ x :: after ∧ name x = id ∧ ∀ y ∈ before, name y ≠ id

/-- No entry has that name. -/
def Unnamed {α : Type} (name : α → String) (id : String) (xs : List α) : Prop :=
  ∀ x ∈ xs, name x ≠ id

instance {α : Type} (name : α → String) (id : String) (xs : List α) : Decidable (Unnamed name id xs) :=
  inferInstanceAs (Decidable (∀ x ∈ xs, name x ≠ id))

section

variable {α : Type} {name : α → String} {id : String} {xs : List α}

/-- A search by name finds the first entry of the name. -/
theorem find?_eq_some_iff_firstNamed {x : α} :
    xs.find? (fun x => name x == id) = some x ↔ FirstNamed name id xs x := by
  rw [List.find?_eq_some_iff_append]
  constructor
  · rintro ⟨same, before, after, split, others⟩
    refine ⟨before, after, split, eq_of_beq same, fun y mem equal => ?_⟩
    have differs := others y mem
    rw [equal, beq_self_eq_true] at differs
    cases differs
  · rintro ⟨before, after, split, same, others⟩
    refine ⟨beq_iff_eq.2 same, before, after, split, fun y mem => ?_⟩
    rw [beq_eq_false_iff_ne.2 (others y mem)]
    rfl

theorem find?_eq_none_iff_unnamed : xs.find? (fun x => name x == id) = none ↔ Unnamed name id xs := by
  rw [List.find?_eq_none]
  exact forall₂_congr fun _ _ => not_congr beq_iff_eq

end

/-! ## What was uploaded for a set -/

/-- What was uploaded for a repeatable set stands for these iterations: they are listed, or there is no answer and none
of them. -/
inductive Uploads : Option Json → List Members → Prop where
  | noAnswer {raw : Option Json} : NoAnswer raw → Uploads raw []
  | listed (iterations : List Members) : Uploads (some (.array (iterations.map .object))) iterations

theorem asObject?_eq_some_iff {item : Json} {members : Members} :
    item.asObject? = some members ↔ item = .object members := by
  constructor
  · intro h
    cases item with
    | object members' =>
      cases h
      rfl
    | null | bool _ | number _ | string _ | array _ => cases h
  · rintro rfl
    rfl

/-- A list is read as objects exactly if it is a list of these objects. -/
theorem mapM_asObject?_eq_some_iff {items : List Json} {iterations : List Members} :
    items.mapM Json.asObject? = some iterations ↔ items = iterations.map .object := by
  constructor
  · intro h
    induction items generalizing iterations with
    | nil =>
      cases h
      rfl
    | cons item items ih =>
      rw [List.mapM_cons] at h
      obtain ⟨members, object, rest⟩ := Option.bind_eq_some_iff.1 h
      obtain ⟨others, objects, joined⟩ := Option.bind_eq_some_iff.1 rest
      cases joined
      rw [List.map_cons, asObject?_eq_some_iff.1 object, ih objects]
  · rintro rfl
    induction iterations with
    | nil => rfl
    | cons members iterations ih =>
      rw [List.map_cons, List.mapM_cons, ih]
      rfl

/-- The lack of an answer stands for no iteration. -/
theorem uploads_iff_of_noAnswer {raw : Option Json} (none : NoAnswer raw) {iterations : List Members} :
    Uploads raw iterations ↔ iterations = [] := by
  constructor
  · intro h
    cases h with
    | noAnswer _ => rfl
    | listed => rcases none with same | same | same | same <;> cases same
  · rintro rfl
    exact .noAnswer none

theorem uploads_iff_of_answer {json : Json} (answer : ¬NoAnswer (some json)) {iterations : List Members} :
    Uploads (some json) iterations ↔ json = .array (iterations.map .object) := by
  constructor
  · intro h
    cases h with
    | noAnswer none => exact absurd none answer
    | listed => rfl
  · rintro rfl
    exact .listed iterations

theorem iterationsIn_of_noAnswer {answers : Members} {set : String} (none : NoAnswer (answers.lookup set)) :
    iterationsIn answers set = .ok [] := by
  unfold iterationsIn
  rcases none with raw | raw | raw | raw <;> rw [raw] <;> rfl

/-- The iterations that are read are those that were uploaded. -/
theorem iterationsIn_eq_ok_iff {answers : Members} {set : String} {iterations : List Members} :
    iterationsIn answers set = .ok iterations ↔ Uploads (answers.lookup set) iterations := by
  by_cases none : NoAnswer (answers.lookup set)
  · rw [uploads_iff_of_noAnswer none, iterationsIn_of_noAnswer none, Except.ok.injEq, eq_comm]
  · obtain ⟨json, raw, upload⟩ := upload_of_answer none
    rw [raw] at none
    rw [raw, uploads_iff_of_answer none, iterationsIn, upload]
    cases json with
    | array items =>
      rw [Json.array.injEq, ← mapM_asObject?_eq_some_iff]
      dsimp only
      cases items.mapM Json.asObject? with
      | none => exact iff_of_false nofun nofun
      | some listed => rw [Except.ok.injEq, Option.some.injEq]
    | null | bool _ | number _ | string _ | object _ => exact iff_of_false nofun nofun

/-- Whatever is neither a list of objects nor the lack of an answer is malformed. -/
theorem iterationsIn_eq_error_iff {answers : Members} {set : String} {e : SurveyError} :
    iterationsIn answers set = .error e ↔
      e = .malformedIterations set ∧ ∀ iterations, ¬Uploads (answers.lookup set) iterations := by
  have malformed : ∀ e', iterationsIn answers set = .error e' → e' = .malformedIterations set := by
    unfold iterationsIn
    intro e' h
    split at h
    · cases h
    · cases h
    · cases h
    · split at h
      · cases h
      · cases h
        rfl
    · cases h
      rfl
  simp only [← iterationsIn_eq_ok_iff]
  cases found : iterationsIn answers set with
  | ok iterations => exact iff_of_false nofun fun h => h.2 iterations rfl
  | error e' =>
    rw [Except.error.injEq, malformed e' found]
    exact ⟨fun h => ⟨h.symm, nofun⟩, fun h => h.1.symm⟩

/-! ## One iteration -/

/-- Why an iteration cannot be entered: of the reasons that there are, the first. -/
inductive Definition.Bars (d : Definition) (answers : Members) (set : String) (index : Nat) : SurveyError → Prop where
  | notARepeatableSet : Unnamed RepeatableSet.id set d.sets → Bars d answers set index (.notARepeatableSet set)
  | malformed : ¬Unnamed RepeatableSet.id set d.sets → (∀ iterations, ¬Uploads (answers.lookup set) iterations) →
    Bars d answers set index (.malformedIterations set)
  | outOfRange {iterations : List Members} : ¬Unnamed RepeatableSet.id set d.sets →
    Uploads (answers.lookup set) iterations → iterations.length ≤ index →
    Bars d answers set index (.iterationOutOfRange set index)

/-- The iteration of that number is one of `found`, with the answers `own`. -/
structure Definition.Opens (d : Definition) (answers : Members) (set : String) (index : Nat) (found : RepeatableSet)
    (own : Members) : Prop where
  declared : FirstNamed RepeatableSet.id set d.sets found
  uploaded : ∃ iterations, Uploads (answers.lookup set) iterations ∧ iterations[index]? = some own

namespace UploadScope

/-- Nothing is entered if there is no set of that name. -/
theorem enter_of_unnamed {scope : UploadScope} {set : String} (h : scope.survey.set? set = none) (index : Nat) :
    scope.enter set index = .error (.notARepeatableSet set) := by
  unfold enter
  rw [h]
  rfl

/-- Nor is it if what was uploaded for the set cannot be read. -/
theorem enter_of_malformed {scope : UploadScope} {set : String} {found : RepeatableSet} {e : SurveyError}
    (h : scope.survey.set? set = some found) (read : iterationsIn scope.answers set = .error e) (index : Nat) :
    scope.enter set index = .error e := by
  unfold enter
  simp only [h, read]
  rfl

/-- Otherwise the number decides. -/
theorem enter_of_read {scope : UploadScope} {set : String} {found : RepeatableSet} {iterations : List Members}
    (h : scope.survey.set? set = some found) (read : iterationsIn scope.answers set = .ok iterations) (index : Nat) :
    scope.enter set index = match iterations[index]? with
      | none => .error (.iterationOutOfRange set index)
      | some own => .ok { scope with iteration := some (found, own) } := by
  unfold enter
  simp only [h, read, bind, Except.bind]
  cases iterations[index]? <;> rfl

/-- An iteration is entered if there is one of that number, and leads into the first set of that name. -/
theorem enter_eq_ok_iff {scope inner : UploadScope} {set : String} {index : Nat} :
    scope.enter set index = .ok inner ↔ ∃ found own,
      scope.survey.Opens scope.answers set index found own ∧ inner = { scope with iteration := some (found, own) } := by
  constructor
  · intro h
    cases declared : scope.survey.set? set with
    | none =>
      rw [enter_of_unnamed declared] at h
      cases h
    | some found =>
      cases read : iterationsIn scope.answers set with
      | error e =>
        rw [enter_of_malformed declared read] at h
        cases h
      | ok iterations =>
        rw [enter_of_read declared read] at h
        cases there : iterations[index]? with
        | none =>
          rw [there] at h
          cases h
        | some own =>
          rw [there] at h
          cases h
          have first : FirstNamed RepeatableSet.id set scope.survey.sets found :=
            find?_eq_some_iff_firstNamed.1 declared
          exact ⟨found, own, ⟨first, iterations, iterationsIn_eq_ok_iff.1 read, there⟩, rfl⟩
  · rintro ⟨found, own, ⟨declared, iterations, uploaded, there⟩, rfl⟩
    rw [enter_of_read (find?_eq_some_iff_firstNamed.2 declared) (iterationsIn_eq_ok_iff.2 uploaded), there]

/-- An iteration cannot be entered for the reason that bars it. -/
theorem enter_eq_error_iff {scope : UploadScope} {set : String} {index : Nat} {e : SurveyError} :
    scope.enter set index = .error e ↔ scope.survey.Bars scope.answers set index e := by
  -- The reader goes through the reasons in their order, and the first that applies is the only one that does.
  cases declared : scope.survey.set? set with
  | none =>
    have unnamed : Unnamed RepeatableSet.id set scope.survey.sets := find?_eq_none_iff_unnamed.1 declared
    rw [enter_of_unnamed declared, Except.error.injEq]
    constructor
    · rintro rfl
      exact .notARepeatableSet unnamed
    · intro h
      cases h with
      | notARepeatableSet _ => rfl
      | malformed named _ => exact absurd unnamed named
      | outOfRange named _ _ => exact absurd unnamed named
  | some found =>
    have named : ¬Unnamed RepeatableSet.id set scope.survey.sets := by
      intro unnamed
      have none : scope.survey.set? set = none := find?_eq_none_iff_unnamed.2 unnamed
      rw [declared] at none
      cases none
    cases read : iterationsIn scope.answers set with
    | error e' =>
      obtain ⟨rfl, malformed⟩ := iterationsIn_eq_error_iff.1 read
      rw [enter_of_malformed declared read, Except.error.injEq]
      constructor
      · rintro rfl
        exact .malformed named malformed
      · intro h
        cases h with
        | notARepeatableSet unnamed => exact absurd unnamed named
        | malformed _ _ => rfl
        | outOfRange _ uploaded _ => exact absurd uploaded (malformed _)
    | ok iterations =>
      have uploaded := iterationsIn_eq_ok_iff.1 read
      rw [enter_of_read declared read]
      constructor
      · intro h
        cases there : iterations[index]? with
        | none =>
          rw [there] at h
          cases h
          exact .outOfRange named uploaded (List.getElem?_eq_none_iff.1 there)
        | some own =>
          rw [there] at h
          cases h
      · intro h
        cases h with
        | notARepeatableSet unnamed => exact absurd unnamed named
        | malformed _ none => exact absurd uploaded (none _)
        | outOfRange _ uploaded' beyond =>
          -- What was uploaded is read in one way only.
          rw [← iterationsIn_eq_ok_iff, read, Except.ok.injEq] at uploaded'
          rw [uploaded', List.getElem?_eq_none_iff.2 beyond]

/-! ## One iteration after the other -/

/-- Enters iterations one after the other. -/
def enterAll (scope : UploadScope) (selections : List (String × Nat)) : Except SurveyError UploadScope :=
  selections.foldlM (fun scope selection => scope.enter selection.1 selection.2) scope

theorem enterAll_cons (scope : UploadScope) (selection : String × Nat) (selections : List (String × Nat)) :
    scope.enterAll (selection :: selections) =
      scope.enter selection.1 selection.2 >>= fun inner => inner.enterAll selections :=
  List.foldlM_cons

/-- What can be entered does not depend on the iteration that has been entered. -/
theorem enter_of_enter {scope inner : UploadScope} {set : String} {index : Nat}
    (h : scope.enter set index = .ok inner) (set' : String) (index' : Nat) :
    inner.enter set' index' = scope.enter set' index' := by
  obtain ⟨found, own, _, rfl⟩ := enter_eq_ok_iff.1 h
  rfl

/-- A sequence fails at the first iteration that cannot be entered by itself. -/
theorem enterAll_eq_error_iff {scope : UploadScope} {selections : List (String × Nat)} {e : SurveyError} :
    scope.enterAll selections = .error e ↔ ∃ before set index after, selections = before ++ (set, index) :: after ∧
      (∀ earlier ∈ before, ∃ inner, scope.enter earlier.1 earlier.2 = .ok inner) ∧
      scope.enter set index = .error e := by
  induction selections generalizing scope with
  | nil =>
    refine iff_of_false nofun ?_
    rintro ⟨before, set, index, after, split, -⟩
    exact List.append_ne_nil_of_right_ne_nil before (List.cons_ne_nil _ after) split.symm
  | cons selection selections ih =>
    obtain ⟨set, index⟩ := selection
    rw [enterAll_cons]
    -- Either the first iteration is barred, or it changes nothing for those behind it.
    cases entered : scope.enter set index with
    | error e' =>
      constructor
      · intro h
        cases h
        exact ⟨[], set, index, selections, rfl, nofun, entered⟩
      · rintro ⟨before, set', index', after, split, fine, fails⟩
        cases before with
        | nil =>
          cases split
          rw [entered] at fails
          exact fails
        | cons earlier before =>
          cases split
          obtain ⟨inner, first⟩ := fine _ List.mem_cons_self
          rw [entered] at first
          cases first
    | ok inner =>
      have same := enter_of_enter entered
      show inner.enterAll selections = .error e ↔ _
      rw [ih]
      simp only [same]
      constructor
      · rintro ⟨before, set', index', after, rfl, fine, fails⟩
        exact ⟨(set, index) :: before, set', index', after, rfl, List.forall_mem_cons.2 ⟨⟨inner, entered⟩, fine⟩, fails⟩
      · rintro ⟨before, set', index', after, split, fine, fails⟩
        cases before with
        | nil =>
          cases split
          rw [entered] at fails
          cases fails
        | cons earlier before =>
          cases split
          exact ⟨before, set', index', after, rfl, (List.forall_mem_cons.1 fine).2, fails⟩

/-- Of the iterations of a sequence the last one alone counts. -/
theorem enter_of_enterAll {scope inner : UploadScope} {before : List (String × Nat)} {set : String} {index : Nat}
    (h : scope.enterAll (before ++ [(set, index)]) = .ok inner) : scope.enter set index = .ok inner := by
  induction before generalizing scope with
  | nil =>
    rw [List.nil_append, enterAll_cons] at h
    cases entered : scope.enter set index with
    | error e =>
      rw [entered] at h
      cases h
    | ok middle =>
      rw [entered] at h
      cases h
      rfl
  -- The first iteration of several is left again before the last one is entered.
  | cons earlier before ih =>
    rw [List.cons_append, enterAll_cons] at h
    cases entered : scope.enter earlier.1 earlier.2 with
    | error e =>
      rw [entered] at h
      cases h
    | ok middle =>
      rw [entered] at h
      rw [← enter_of_enter entered]
      exact ih h

end UploadScope

/-! ## What an identifier stands for -/

/-- What an identifier stands for in an iteration of the set with the answers `own`. -/
inductive StandsFor (d : Definition) (answers : Members) (set : RepeatableSet) (own : Members) (identifier : String) :
    Except SurveyError Resolution → Prop where
  | inside {p : Prompt} : FirstNamed Prompt.id identifier set.prompts p →
    StandsFor d answers set own identifier ((p.decode (own.lookup identifier)).map .known)
  | outside {p : Prompt} : Unnamed Prompt.id identifier set.prompts → FirstNamed Prompt.id identifier d.topPrompts p →
    StandsFor d answers set own identifier ((p.decode (answers.lookup identifier)).map .known)
  | unknown : Unnamed Prompt.id identifier set.prompts → Unnamed Prompt.id identifier d.topPrompts →
    StandsFor d answers set own identifier (.ok .unknown)

namespace UploadScope

section

variable {d : Definition} {answers own : Members} {set : RepeatableSet} {identifier : String}

/-- A prompt of the set is read from the iteration. -/
theorem resolve_of_inside {p : Prompt} (inside : FirstNamed Prompt.id identifier set.prompts p) :
    resolve ⟨d, answers, some (set, own)⟩ identifier = (p.decode (own.lookup identifier)).map .known := by
  have found : set.prompt? identifier = some p := find?_eq_some_iff_firstNamed.2 inside
  simp [resolve, find?, found]

/-- Any other identifier is looked up at the top level. -/
theorem resolve_of_not_inside (outside : Unnamed Prompt.id identifier set.prompts) :
    resolve ⟨d, answers, some (set, own)⟩ identifier = match d.prompt? identifier with
      | none => .ok .unknown
      | some p => (p.decode (answers.lookup identifier)).map .known := by
  have absent : set.prompt? identifier = none := find?_eq_none_iff_unnamed.2 outside
  cases found : d.prompt? identifier <;> simp [resolve, find?, absent, found]

/-- In an iteration the prompts of its set come first, those at the top level second, and others not at all. -/
theorem resolve_eq_iff_standsFor {outcome : Except SurveyError Resolution} :
    resolve ⟨d, answers, some (set, own)⟩ identifier = outcome ↔ StandsFor d answers set own identifier outcome := by
  constructor
  · -- The search goes through the set, then through the top level.
    rintro rfl
    cases inner : set.prompt? identifier with
    | some p =>
      have inside := find?_eq_some_iff_firstNamed.1 inner
      rw [resolve_of_inside inside]
      exact .inside inside
    | none =>
      have outside := find?_eq_none_iff_unnamed.1 inner
      rw [resolve_of_not_inside outside]
      cases outer : d.prompt? identifier with
      | some p => exact .outside outside (find?_eq_some_iff_firstNamed.1 outer)
      | none => exact .unknown outside (find?_eq_none_iff_unnamed.1 outer)
  · intro h
    cases h with
    | inside inside => exact resolve_of_inside inside
    | outside outside top =>
      have outer : d.prompt? identifier = some _ := find?_eq_some_iff_firstNamed.2 top
      rw [resolve_of_not_inside outside, outer]
    | unknown outside unnamed =>
      have outer : d.prompt? identifier = none := find?_eq_none_iff_unnamed.2 unnamed
      rw [resolve_of_not_inside outside, outer]

end

end UploadScope

/-- What has been read, or could not be, is not unknown. -/
theorem map_known_ne_unknown (decoded : Except SurveyError Answer) :
    decoded.map Resolution.known ≠ .ok .unknown := by
  cases decoded <;> nofun

/-- Only what neither the set nor the top level declares is unknown. -/
theorem standsFor_unknown_iff {d : Definition} {answers own : Members} {set : RepeatableSet} {identifier : String} :
    StandsFor d answers set own identifier (.ok .unknown) ↔
      Unnamed Prompt.id identifier set.prompts ∧ Unnamed Prompt.id identifier d.topPrompts := by
  constructor
  · intro h
    -- An answer or a failure to read one is not `unknown`, so only the last case is left.
    generalize outcome : Except.ok Resolution.unknown = unknown at h
    cases h with
    | inside _ => exact absurd outcome.symm (map_known_ne_unknown _)
    | outside _ _ => exact absurd outcome.symm (map_known_ne_unknown _)
    | unknown inside top => exact ⟨inside, top⟩
  · rintro ⟨inside, top⟩
    exact .unknown inside top

/-- **Iterations replace each other, and inner prompts come before outer ones.** Entered one after the other, iterations
fail at the first one that is barred by itself, for the reason that bars it; and if none is, the last one alone says
what identifiers stand for. -/
theorem selections_replace_each_other {d : Definition} {r : Response} (own : d.id = r.survey) :
    ∃ whole, UploadScope.new d r = .ok whole ∧
      (∀ set index e, whole.enter set index = .error e ↔ d.Bars r.answers set index e) ∧
      (∀ selections e, whole.enterAll selections = .error e ↔ ∃ before set index after,
        selections = before ++ (set, index) :: after ∧
          (∀ earlier ∈ before, ∃ inner, whole.enter earlier.1 earlier.2 = .ok inner) ∧ d.Bars r.answers set index e) ∧
      ∀ before set index last, whole.enterAll (before ++ [(set, index)]) = .ok last →
        whole.enter set index = .ok last ∧ ∃ found answers, d.Opens r.answers set index found answers ∧
          ∀ identifier, StandsFor d r.answers found answers identifier (last.resolve identifier) ∧
            (last.resolve identifier = .ok .unknown ↔
              Unnamed Prompt.id identifier found.prompts ∧ Unnamed Prompt.id identifier d.topPrompts) := by
  refine ⟨⟨d, r.answers, none⟩, if_pos own, fun _ _ _ => UploadScope.enter_eq_error_iff, fun selections e => ?_, ?_⟩
  · rw [UploadScope.enterAll_eq_error_iff]
    simp only [UploadScope.enter_eq_error_iff]
  · -- Once all have been entered, the last one by itself would have led to the same scope.
    intro before set index last entered
    have alone := UploadScope.enter_of_enterAll entered
    obtain ⟨found, answers, opens, rfl⟩ := UploadScope.enter_eq_ok_iff.1 alone
    refine ⟨alone, found, answers, opens, fun identifier => ⟨UploadScope.resolve_eq_iff_standsFor.1 rfl, ?_⟩⟩
    rw [UploadScope.resolve_eq_iff_standsFor, standsFor_unknown_iff]

/-- A survey on a day, whose meals have a place of their own. -/
def daySurvey : Definition :=
  ⟨"day", none,
    [.prompt ⟨"place", .text, none, false, []⟩,
      .set ⟨"meals", none, [⟨"dish", .text, none, false, []⟩, ⟨"place", .text, none, true, []⟩]⟩,
      .set ⟨"naps", none, [⟨"dream", .boolean, none, false, []⟩]⟩]⟩

/-- A day at home with two meals and a nap. -/
def dayUpload : Response :=
  ⟨"day", [("place", .string "home"),
    ("meals", .array [.object [("dish", .string "soup")],
      .object [("dish", .string "rice"), ("place", .string "bar")]]),
    ("naps", .array [.object [("dream", .bool true)]])]⟩

/-- After the meal in the bar comes the nap: the place is home again, and the dish is that of no prompt. A third meal
stops the sequence, whatever follows. -/
theorem nap_replaces_meal :
    daySurvey.id = dayUpload.survey ∧ ∃ whole last, UploadScope.new daySurvey dayUpload = .ok whole ∧
      whole.enterAll [("meals", 1), ("naps", 0)] = .ok last ∧ whole.enter "naps" 0 = .ok last ∧
      last.resolve "place" = .ok (.known (.given (.text "home"))) ∧ last.resolve "dish" = .ok .unknown ∧
      whole.enterAll [("naps", 0), ("meals", 2), ("place", 0)] = .error (.iterationOutOfRange "meals" 2) := by
  obtain ⟨whole, made, _, fails, replaces⟩ := selections_replace_each_other (d := daySurvey) (r := dayUpload) rfl
  have start : whole = ⟨daySurvey, dayUpload.answers, none⟩ := (Except.ok.inj made).symm
  have entered : whole.enterAll ([("meals", 1)] ++ [("naps", 0)]) =
      .ok ⟨daySurvey, dayUpload.answers, some (⟨"naps", none, [⟨"dream", .boolean, none, false, []⟩]⟩,
        [("dream", .bool true)])⟩ := by
    rw [start]
    rfl
  obtain ⟨alone, found, answers, _, stands⟩ := replaces _ _ _ _ entered
  refine ⟨rfl, whole, _, made, entered, alone, rfl, rfl, ?_⟩
  refine (fails _ _).2 ⟨[("naps", 0)], "meals", 2, [("place", 0)], rfl, ?_, ?_⟩
  · intro earlier mem
    rw [List.mem_singleton.1 mem]
    exact ⟨_, alone⟩
  · exact .outOfRange (by decide) (.listed [[("dish", .string "soup")],
      [("dish", .string "rice"), ("place", .string "bar")]]) (Nat.le_refl 2)

end SurveyFlow
