import Mathlib.Data.List.Forall2
import SurveyFlow.Proofs.Survey.Agreement
import SurveyFlow.Proofs.Survey.Coverage
import SurveyFlow.Proofs.Survey.Journal
import SurveyFlow.Proofs.Survey.Withdrawal

/-!
# Consistent reports

A report has no faults exactly if the upload fits the statuses that it tells (`faults_eq_nil_iff_fits`): every answer
is one that its prompt accepts with its status (`Prompt.Accepts`), and every set has iterations that can be read, or
none if it is hidden (`Response.Fits`). This is decided visit by visit. That each visit finds one fault at most is said
of the journal of the walk, which keeps outcomes and faults in two lists.
-/

namespace SurveyFlow

/-! ## What fits a status -/

/-- The answer is there and can be read as a value of the prompt's type. -/
def Prompt.Answered (p : Prompt) (raw : Option Json) : Prop :=
  ¬NoAnswer raw ∧ ∃ answer, p.decode raw = .ok answer

/-- The prompt is marked as skipped, and may be. -/
def Prompt.Skipped (p : Prompt) (raw : Option Json) : Prop :=
  raw = some (.string skippedMark) ∧ p.skippable = true

/-- What may be uploaded for a prompt that has the status. -/
structure Prompt.Accepts (p : Prompt) (status : Status) (raw : Option Json) : Prop where
  hidden : status.isDisplayed = false → NoAnswer raw
  shown : status.isDisplayed = true → status.isDetermined = true → p.Skipped raw ∨ p.Answered raw
  /-- A prompt that is shown by the policy alone may be left out. -/
  doubtful : status.isDisplayed = true → status.isDetermined = false →
    raw = none ∨ raw = some .null ∨ raw = some (.string notDisplayedMark) ∨ p.Skipped raw ∨ p.Answered raw

/-- The upload of one iteration fits the outcomes of the prompts in it. -/
def FitsIteration (prompts : List Prompt) (iteration : Members × Nat)
    (segment : List (String × Option Nat × Status)) : Prop :=
  List.Forall₂ (fun p o => placeOf o = (p.id, some iteration.2) ∧ p.Accepts o.2.2 (iteration.1.lookup p.id))
    prompts segment

/-- The upload fits the outcomes of one item. -/
inductive Response.Fits (r : Response) : Item → List (String × Option Nat × Status) → Prop where
  | prompt (p : Prompt) (status : Status) (accepts : p.Accepts status (r.raw? p.id)) :
    Fits r (.prompt p) [(p.id, none, status)]
  | hiddenSet (s : RepeatableSet) (status : Status) (off : status.isDisplayed = false)
    (empty : r.iterations s.id = .ok []) :
    Fits r (.set s) ((s.id, none, status) :: s.prompts.map fun p => (p.id, none, .hidden))
  | shownSet (s : RepeatableSet) (status : Status) (inside : List (String × Option Nat × Status))
    (on : status.isDisplayed = true) (iterations : List Members) (read : r.iterations s.id = .ok iterations)
    (each : Segmented (FitsIteration s.prompts) iterations.zipIdx inside) :
    Fits r (.set s) ((s.id, none, status) :: inside)

/-! ## Where the outcomes stand -/

/-- An iteration that fits has an outcome for each prompt, at its place. -/
theorem places_of_fitsIteration {prompts : List Prompt} {iteration : Members × Nat}
    {segment : List (String × Option Nat × Status)} (h : FitsIteration prompts iteration segment) :
    segment.map placeOf = placesAt prompts (some iteration.2) := by
  unfold FitsIteration at h
  induction h with
  | nil => rfl
  | cons first _ ih => exact List.cons_eq_cons.2 ⟨first.1, ih⟩

/-- Outcomes of iterations that an upload fits stand at the places of the iterations. -/
theorem places_of_segmented {prompts : List Prompt} {iterations : List Members} {start : Nat}
    {inside : List (String × Option Nat × Status)}
    (h : Segmented (FitsIteration prompts) (iterations.zipIdx start) inside) :
    inside.map placeOf = placesIn prompts (List.range' start iterations.length) := by
  induction iterations generalizing start inside with
  | nil =>
    cases h
    rfl
  | cons uploaded more ih =>
    rw [List.zipIdx_cons] at h
    cases h with
    | cons first rest =>
      rw [List.map_append, places_of_fitsIteration first, ih rest, List.length_cons, List.range'_succ]
      rfl

/-- Outcomes that an upload fits are a segment of the item. -/
theorem covers_of_fits {r : Response} {item : Item} {segment : List (String × Option Nat × Status)}
    (h : r.Fits item segment) : r.Covers item segment := by
  cases h with
  | prompt p status _ => exact .prompt p status
  | hiddenSet s status off _ => exact .hiddenSet s status off
  | shownSet s status inside on iterations read each =>
    have count : iterations.length = r.iterationCount s.id := by
      rw [← length_readIterations, readIterations_of_ok read]
    have places := places_of_segmented each
    rw [count, ← List.range_eq_range'] at places
    exact .shownSet s status inside on places

/-! ## One prompt

An answer is left out, marked as skipped or given. What is accepted is said for each of the three by itself. -/

theorem notDisplayedMark_ne_skippedMark : notDisplayedMark ≠ skippedMark := by
  decide

theorem ofRaw_notDisplayedMark : Upload.ofRaw (some (.string notDisplayedMark)) = .notDisplayed := by
  rw [Upload.ofRaw, if_pos rfl]

theorem ofRaw_skippedMark : Upload.ofRaw (some (.string skippedMark)) = .skipped := by
  rw [Upload.ofRaw, if_neg notDisplayedMark_ne_skippedMark.symm, if_pos rfl]

/-- What is neither missing nor a sentinel is an answer. -/
theorem upload_of_answer {raw : Option Json} (answer : ¬NoAnswer raw) :
    ∃ json, raw = some json ∧ Upload.ofRaw raw = .value json := by
  cases raw with
  | none => exact absurd (.inl rfl) answer
  | some json =>
    refine ⟨json, rfl, ?_⟩
    cases json with
    | null => exact absurd (.inr (.inl rfl)) answer
    | bool _ | number _ | array _ | object _ => rfl
    -- Any text but the two sentinels is an answer.
    | string text =>
      have hidden : text ≠ notDisplayedMark := fun same => answer (.inr (.inr (.inl (by rw [same]))))
      have skipped : text ≠ skippedMark := fun same => answer (.inr (.inr (.inr (by rw [same]))))
      simp only [Upload.ofRaw]
      rw [if_neg hidden, if_neg skipped]

section

variable (p : Prompt) (status : Status)

/-- An answer may be left out, except where the prompt is certainly shown. -/
theorem accepts_leftOut_iff {raw : Option Json}
    (out : raw = none ∨ raw = some .null ∨ raw = some (.string notDisplayedMark)) :
    p.Accepts status raw ↔ ¬(status.isDisplayed = true ∧ status.isDetermined = true) := by
  have none : NoAnswer raw := by
    rcases out with out | out | out
    · exact .inl out
    · exact .inr (.inl out)
    · exact .inr (.inr (.inl out))
  have marked : raw ≠ some (.string skippedMark) := by
    rcases out with rfl | rfl | rfl
    · nofun
    · nofun
    · exact fun same => notDisplayedMark_ne_skippedMark (Json.string.inj (Option.some.inj same))
  constructor
  · rintro accepts ⟨on, determined⟩
    rcases accepts.shown on determined with skipped | answered
    · exact marked skipped.1
    · exact answered.1 none
  · intro open_
    refine ⟨fun _ => none, fun on determined => absurd ⟨on, determined⟩ open_, fun _ _ => ?_⟩
    rcases out with out | out | out
    · exact .inl out
    · exact .inr (.inl out)
    · exact .inr (.inr (.inl out))

/-- A prompt may be marked as skipped if it is skippable or not shown. -/
theorem accepts_skipped_iff :
    p.Accepts status (some (.string skippedMark)) ↔ (status.isDisplayed = true → p.skippable = true) := by
  have none : NoAnswer (some (.string skippedMark)) := .inr (.inr (.inr rfl))
  constructor
  · intro accepts on
    cases determined : status.isDetermined with
    | true =>
      rcases accepts.shown on determined with skipped | answered
      · exact skipped.2
      · exact absurd none answered.1
    | false =>
      rcases accepts.doubtful on determined with absent | null | hidden | skipped | answered
      · cases absent
      · cases null
      · exact absurd (Json.string.inj (Option.some.inj hidden)).symm notDisplayedMark_ne_skippedMark
      · exact skipped.2
      · exact absurd none answered.1
  · intro skippable
    exact ⟨fun _ => none, fun on _ => .inl ⟨rfl, skippable on⟩,
      fun on _ => .inr (.inr (.inr (.inl ⟨rfl, skippable on⟩)))⟩

/-- An answer is accepted only where the prompt is shown, and if it can be read. -/
theorem accepts_answer_iff {raw : Option Json} (answer : ¬NoAnswer raw) :
    p.Accepts status raw ↔ status.isDisplayed = true ∧ p.Answered raw := by
  constructor
  · intro accepts
    have on : status.isDisplayed = true := by
      by_contra off
      exact answer (accepts.hidden (Bool.not_eq_true _ ▸ off))
    refine ⟨on, ?_⟩
    cases determined : status.isDetermined with
    | true =>
      rcases accepts.shown on determined with skipped | answered
      · exact absurd (.inr (.inr (.inr skipped.1))) answer
      · exact answered
    | false =>
      rcases accepts.doubtful on determined with absent | null | hidden | skipped | answered
      · exact absurd (.inl absent) answer
      · exact absurd (.inr (.inl null)) answer
      · exact absurd (.inr (.inr (.inl hidden))) answer
      · exact absurd (.inr (.inr (.inr skipped.1))) answer
      · exact answered
  · rintro ⟨on, answered⟩
    refine ⟨fun off => ?_, fun _ _ => .inr answered, fun _ _ => .inr (.inr (.inr (.inr answered)))⟩
    rw [on] at off
    cases off

/-- **A visit of a prompt finds no fault** exactly if the prompt accepts what was uploaded. -/
theorem finding_of_settle_eq_none_iff (raw : Option Json) :
    (settle p status (Upload.ofRaw raw)).1 = none ↔ p.Accepts status raw := by
  -- Nothing uploaded, one of the sentinels, or an answer.
  by_cases none : NoAnswer raw
  · have absent : (settle p status .nothing).1 = Option.none ↔
        ¬(status.isDisplayed = true ∧ status.isDetermined = true) := by
      unfold settle
      cases status.isDisplayed <;> cases status.isDetermined <;> simp
    have hidden : (settle p status .notDisplayed).1 = Option.none ↔
        ¬(status.isDisplayed = true ∧ status.isDetermined = true) := by
      unfold settle
      cases status.isDisplayed <;> cases status.isDetermined <;> simp
    have skipped : (settle p status .skipped).1 = Option.none ↔ (status.isDisplayed = true → p.skippable = true) := by
      unfold settle
      cases status.isDisplayed <;> cases p.skippable <;> simp
    rcases none with rfl | rfl | rfl | rfl
    · exact absent.trans (accepts_leftOut_iff p status (.inl rfl)).symm
    · exact absent.trans (accepts_leftOut_iff p status (.inr (.inl rfl))).symm
    · rw [ofRaw_notDisplayedMark, hidden, accepts_leftOut_iff p status (.inr (.inr rfl))]
    · rw [ofRaw_skippedMark, skipped, accepts_skipped_iff]
  · obtain ⟨json, rfl, upload⟩ := upload_of_answer none
    rw [accepts_answer_iff p status none, upload]
    unfold settle Prompt.Answered Prompt.decode
    rw [upload]
    cases status.isDisplayed with
    | false => exact iff_of_false nofun fun accepts => Bool.false_ne_true accepts.1
    | true =>
      dsimp only
      -- For an answer to a prompt that is shown, the reader decides on both sides.
      cases read : p.decodeAnswer json with
      | ok answer => exact iff_of_true rfl ⟨rfl, none, answer, rfl⟩
      | error e => exact iff_of_false nofun (by rintro ⟨_, _, _, ⟨⟩⟩)

end

/-! ## Iterations -/

/-- A set is visited without a fault if its iterations can be read, and are none where it is hidden. -/
theorem finding_of_settleSet_eq_none_iff (status : Status) (uploaded : Except SurveyError (List Members)) :
    (settleSet status uploaded).1 = none ↔
      ∃ iterations, uploaded = .ok iterations ∧ (status.isDisplayed = false → iterations = []) := by
  cases uploaded with
  | error e => exact iff_of_false nofun nofun
  | ok iterations =>
    have read : (∃ found, (.ok iterations : Except SurveyError (List Members)) = .ok found ∧
        (status.isDisplayed = false → found = [])) ↔ (status.isDisplayed = false → iterations = []) := by
      refine ⟨?_, fun none => ⟨iterations, rfl, none⟩⟩
      rintro ⟨found, same, none⟩
      cases same
      exact none
    rw [read]
    unfold settleSet
    cases status.isDisplayed <;> cases iterations <;> simp

theorem faultless_nil : Faultless [] :=
  fun _ mem => absurd mem List.not_mem_nil

variable (policy : Policy)

/-- An iteration is visited without faults exactly if its upload fits. Induction on the prompts, whatever has been
answered before them. -/
theorem fitsIteration_iff_replayPrompts (outer : AnswerSet) (index : Nat) (uploaded : Members) (scope : AnswerSet)
    (prompts : List Prompt) :
    Faultless (replayPrompts policy outer index uploaded scope prompts).1 ↔
      FitsIteration prompts (uploaded, index)
        ((replayPrompts policy outer index uploaded scope prompts).1.map Visit.outcome) := by
  induction prompts generalizing scope with
  | nil => exact iff_of_true faultless_nil .nil
  | cons p prompts ih =>
    -- The first visit alone; the others go by the induction hypothesis, from the scope it leaves.
    let visit := (replayPrompt policy (layered scope outer) p (some index) (uploaded.lookup p.id)).1
    have first : visit.finding = none ↔
        placeOf visit.outcome = (p.id, some index) ∧ p.Accepts visit.status (uploaded.lookup p.id) := by
      rw [← finding_of_settle_eq_none_iff]
      exact (and_iff_right rfl).symm
    rw [replayPrompts]
    unfold FitsIteration
    rw [List.map_cons, List.forall₂_cons]
    exact List.forall_mem_cons.trans (and_congr first (ih _))

theorem length_of_fitsIteration {prompts : List Prompt} {iteration : Members × Nat}
    {segment : List (String × Option Nat × Status)} (h : FitsIteration prompts iteration segment) :
    segment.length = prompts.length :=
  h.length_eq.symm

/-- All iterations are visited without faults exactly if each of them fits its own outcomes. -/
theorem segmented_iff_replayIterations (outer : AnswerSet) (prompts : List Prompt) (start : Nat)
    (iterations : List Members) :
    Faultless (replayIterations policy outer prompts start iterations) ↔
      Segmented (FitsIteration prompts) (iterations.zipIdx start)
        ((replayIterations policy outer prompts start iterations).map Visit.outcome) := by
  induction iterations generalizing start with
  | nil => exact iff_of_true faultless_nil .nil
  | cons uploaded more ih =>
    -- Each iteration has one outcome for each prompt, so its outcomes can be split off.
    have length : ((replayPrompts policy outer start uploaded .empty prompts).1.map Visit.outcome).length =
        prompts.length := by
      have places := congrArg List.length (places_replayPrompts policy outer start uploaded .empty prompts)
      rwa [placesAt, List.length_map, List.length_map, ← List.length_map Visit.outcome] at places
    rw [replayIterations, List.zipIdx_cons, List.map_append, segmented_cons_iff]
    · rw [← ih (start + 1), ← fitsIteration_iff_replayPrompts]
      exact List.forall_mem_append
    · exact fun segment fits _ => (length_of_fitsIteration fits).trans length.symm

/-! ## Items -/

variable (r : Response)

/-- For a hidden set nothing fits but an empty list of iterations, or none at all. -/
theorem fits_hidden_iff (s : RepeatableSet) {status : Status} (off : status.isDisplayed = false) :
    r.Fits (.set s) ((s.id, none, status) :: s.prompts.map fun p => (p.id, none, .hidden)) ↔
      r.iterations s.id = .ok [] := by
  constructor
  · intro h
    -- The outcomes are those of either constructor, but a set that is off is not of the second.
    generalize outcomes : (s.prompts.map fun p => (p.id, none, .hidden) : List (String × Option Nat × Status)) = inside
      at h
    cases h with
    | hiddenSet _ _ _ empty => exact empty
    | shownSet _ _ _ on => exact absurd (off.symm.trans on) Bool.false_ne_true
  · exact .hiddenSet s status off

/-- A set that is shown fits if its iterations can be read and each fits its outcomes. -/
theorem fits_shown_iff (s : RepeatableSet) {status : Status} (on : status.isDisplayed = true)
    (inside : List (String × Option Nat × Status)) :
    r.Fits (.set s) ((s.id, none, status) :: inside) ↔
      ∃ iterations, r.iterations s.id = .ok iterations ∧
        Segmented (FitsIteration s.prompts) iterations.zipIdx inside := by
  constructor
  · intro h
    cases h with
    | hiddenSet _ _ off _ => exact absurd (off.symm.trans on) Bool.false_ne_true
    | shownSet _ _ _ _ iterations read each => exact ⟨iterations, read, each⟩
  · rintro ⟨iterations, read, each⟩
    exact .shownSet s status inside on iterations read each

/-- A set is visited without faults exactly if what was uploaded for it fits its outcomes. -/
theorem fits_iff_replaySet (s : RepeatableSet) (answers : AnswerSet) :
    Faultless (replaySet policy s r answers) ↔ r.Fits (.set s) ((replaySet policy s r answers).map Visit.outcome) := by
  unfold replaySet
  dsimp only
  rw [List.map_cons]
  refine List.forall_mem_cons.trans ?_
  rw [finding_of_settleSet_eq_none_iff]
  cases on : (conditionStatus policy answers.resolve s.condition).isDisplayed with
  | false =>
    -- Hidden prompts are passed over without a look at their answers.
    have passed : ∀ v ∈ s.prompts.map fun p => (⟨p.id, none, .hidden, none⟩ : Visit), v.finding = none := by
      intro v mem
      obtain ⟨p, _, rfl⟩ := List.mem_map.1 mem
      rfl
    rw [if_neg Bool.false_ne_true, and_iff_left passed, List.map_map]
    refine Iff.trans ?_ (fits_hidden_iff r s on).symm
    constructor
    · rintro ⟨iterations, read, none⟩
      rw [read, none rfl]
    · exact fun empty => ⟨[], empty, fun _ => rfl⟩
  | true =>
    rw [if_pos rfl, iterations_of_settleSet]
    refine Iff.trans ?_ (fits_shown_iff r s on _).symm
    have inside := segmented_iff_replayIterations policy answers s.prompts 0 (r.readIterations s.id)
    constructor
    · rintro ⟨⟨iterations, read, _⟩, faultless⟩
      rw [readIterations_of_ok read] at faultless inside ⊢
      exact ⟨iterations, read, inside.1 faultless⟩
    · rintro ⟨iterations, read, each⟩
      rw [readIterations_of_ok read] at each inside ⊢
      exact ⟨⟨iterations, read, nofun⟩, inside.2 each⟩

theorem fits_iff_replayItem (answers : AnswerSet) (item : Item) :
    Faultless (replayItem policy r answers item).1 ↔
      r.Fits item ((replayItem policy r answers item).1.map Visit.outcome) := by
  cases item with
  | prompt p =>
    refine List.forall_mem_singleton.trans ?_
    refine (finding_of_settle_eq_none_iff p _ (r.raw? p.id)).trans ⟨.prompt p _, fun h => ?_⟩
    cases h with
    | prompt _ _ accepts => exact accepts
  | set s => exact fits_iff_replaySet policy r s answers

/-- **The visits are faultless exactly if the upload fits the outcomes.** Induction on the items. No other segments
could stand in the place of those of the replay, so each item can be looked at by itself. -/
theorem fits_iff_replayItems (answers : AnswerSet) (items : List Item) :
    Faultless (replayItems policy r answers items).1 ↔
      Segmented r.Fits items ((replayItems policy r answers items).1.map Visit.outcome) := by
  induction items generalizing answers with
  | nil => exact iff_of_true faultless_nil .nil
  | cons item items ih =>
    let segment := (replayItem policy r answers item).1.map Visit.outcome
    have covers : r.Covers item segment := covers_replayItem policy r answers item
    have length : ∀ others segment', r.Fits item segment' → segment' <+: segment ++ others →
        segment'.length = segment.length := by
      rintro others segment' fits ⟨rest, same⟩
      have covers' := covers_of_fits fits
      apply length_of_covers covers' covers
      rw [← List.head?_append_of_ne_nil segment' (ne_nil_of_covers covers'), same,
        List.head?_append_of_ne_nil segment (ne_nil_of_covers covers)]
    rw [replayItems, List.map_append, segmented_cons_iff (length _), ← ih, ← fits_iff_replayItem]
    exact List.forall_mem_append

/-! ## The report -/

theorem faults_eq_nil_iff (report : Report) : report.faults = [] ↔ Faultless report.visits := by
  constructor
  · intro none
    exact faultless_of_isConsistent (List.isEmpty_iff.2 none)
  · intro faultless
    refine List.filterMap_eq_nil_iff.2 fun v mem => ?_
    rw [faultless v mem]
    rfl

/-- The journal of a report has the same faults, so it has none when the report has none. -/
theorem journal_faults_eq_nil_iff (report : Report) : report.journal.faults = [] ↔ report.faults = [] :=
  List.map_eq_nil_iff

/-- **A report is consistent exactly if the upload fits the statuses.** The walk that writes outcomes and faults into
two lists ends with those of the report, and has written the faults in the order of the outcomes, one at most for
each. -/
theorem faults_eq_nil_iff_fits {cache : Cache} (reachable : cache.Reachable) {d : Definition}
    (own : r.survey = d.id) :
    ∃ report journal, (walk policy cache d r).1 = .ok report ∧ (journalWalk policy cache d r).1 = .ok journal ∧
      journal = report.journal ∧
      (report.faults = [] ↔ Segmented r.Fits d.items report.outcomes) ∧
      (journal.faults = [] ↔ Segmented r.Fits d.items journal.outcomes) ∧
      (journal.faults.map Entry.place).Sublist (journal.outcomes.map Entry.place) := by
  let report : Report := ⟨d.id, (replayItems policy r .empty d.items).1⟩
  have walked : (walk policy cache d r).1 = .ok report := walk_eq_replay policy r reachable.sound own
  -- The journal is told by the walk that keeps two lists. It is the report's own.
  have journaled : (journalWalk policy cache d r).1 = .ok report.journal := by
    rw [journalWalk_eq_walk, walked]
    rfl
  have consistent : report.faults = [] ↔ Segmented r.Fits d.items report.outcomes := by
    rw [faults_eq_nil_iff]
    exact fits_iff_replayItems policy r .empty d.items
  exact ⟨report, report.journal, walked, journaled, rfl, consistent,
    (journal_faults_eq_nil_iff report).trans consistent, inOrder_journalWalk policy journaled⟩

/-- On the way to work neither side holds: a hidden set has an iteration, and the second passenger has left out every
answer. -/
theorem faults_eq_nil_iff_fits_commute :
    (Cache.new 4).Reachable ∧ commuteUpload.survey = commuteSurvey.id ∧
      ∃ report journal, (walk .show (.new 4) commuteSurvey commuteUpload).1 = .ok report ∧
        (journalWalk .show (.new 4) commuteSurvey commuteUpload).1 = .ok journal ∧ journal = report.journal ∧
        (report.faults = [] ↔ Segmented commuteUpload.Fits commuteSurvey.items report.outcomes) ∧
        (journal.faults = [] ↔ Segmented commuteUpload.Fits commuteSurvey.items journal.outcomes) ∧
        (journal.faults.map Entry.place).Sublist (journal.outcomes.map Entry.place) :=
  ⟨.new 4, rfl, faults_eq_nil_iff_fits .show commuteUpload (.new 4) rfl⟩

end SurveyFlow
