import SurveyFlow.Proofs.Survey.Replay
import SurveyFlow.Survey.Journal

/-!
# The two lists of a walk

* **`inOrder_journalWalk`** — the faults of a journal come in the order of its outcomes, one at most for each. This is
  an invariant of the steps: an outcome may be written at any time, a fault only at the place of the last outcome and
  only if that has none yet (`Journal.Fresh`).
* **`journalWalk_eq_walk`** — the journal holds the outcomes of the report and its faults, and the cache is left the
  same. Each step writes what the visits of the walk hold (`Journal.write`).
-/

namespace SurveyFlow

namespace Journal

variable {j : Journal}

/-! ## The order of the faults -/

/-- The faults come in the order of the outcomes, one at most for each. -/
def InOrder (j : Journal) : Prop :=
  (j.faults.map Entry.place).Sublist (j.outcomes.map Entry.place)

/-- The last outcome stands at the place and has no fault yet. -/
def Fresh (j : Journal) (item : String) (iteration : Option Nat) : Prop :=
  ∃ before status, j.outcomes = before ++ [(item, iteration, status)] ∧
    (j.faults.map Entry.place).Sublist (before.map Entry.place)

theorem inOrder_blank (survey : String) : (blank survey).InOrder :=
  .refl _

/-- After an outcome is written the journal is fresh at its place. -/
theorem InOrder.outcome (h : j.InOrder) (item : String) (iteration : Option Nat) (status : Status) :
    (j.outcome item iteration status).Fresh item iteration :=
  ⟨j.outcomes, status, rfl, h⟩

/-- An outcome may be left without a fault. -/
theorem Fresh.inOrder {item : String} {iteration : Option Nat} (h : j.Fresh item iteration) : j.InOrder := by
  obtain ⟨before, status, written, sub⟩ := h
  unfold InOrder
  rw [written, List.map_append]
  exact sub.trans (List.sublist_append_left _ _)

/-- A first fault may be written at the place of the last outcome. -/
theorem Fresh.fault {item : String} {iteration : Option Nat} (h : j.Fresh item iteration) (finding : Finding) :
    (j.fault item iteration finding).InOrder := by
  obtain ⟨before, status, written, sub⟩ := h
  unfold InOrder Journal.fault
  rw [written, List.map_append, List.map_append]
  exact sub.append (.refl _)

/-- A prompt writes one outcome, and one fault at most behind it. -/
theorem InOrder.settle (h : j.InOrder) (p : Prompt) (status : Status) (upload : Upload) (iteration : Option Nat) :
    (j.settle p status upload iteration).2.InOrder := by
  have fresh : (j.outcome p.id iteration status).Fresh p.id iteration := h.outcome p.id iteration status
  unfold Journal.settle
  dsimp only
  -- A prompt that is shown may lack its answer, a hidden one may have one too many.
  split
  · cases upload with
    | nothing =>
      dsimp only
      split
      · exact fresh.fault _
      · exact fresh.inOrder
    | notDisplayed =>
      dsimp only
      split
      · exact fresh.fault _
      · exact fresh.inOrder
    | skipped =>
      dsimp only
      split
      · exact fresh.inOrder
      · exact fresh.fault _
    | value raw =>
      dsimp only
      -- An answer is at fault only if it cannot be read.
      cases p.decodeAnswer raw with
      | ok answer => exact fresh.inOrder
      | error e => exact fresh.fault _
  · cases upload with
    | value raw => exact fresh.fault _
    | nothing | notDisplayed | skipped => exact fresh.inOrder

/-- Hidden prompts have outcomes only. -/
theorem InOrder.passOver (h : j.InOrder) (prompts : List Prompt) : (j.passOver prompts).InOrder := by
  unfold Journal.passOver
  induction prompts generalizing j with
  | nil => exact h
  | cons p prompts ih => exact ih (h.outcome p.id none .hidden).inOrder

end Journal

section

variable {j : Journal} (policy : Policy)

/-- A prompt keeps the order, whatever was uploaded for it. -/
theorem inOrder_journalPrompt (h : j.InOrder) (p : Prompt) (raw : Option Json) (iteration : Option Nat) (ctx : Context)
    (at_ : Progress) : (journalPrompt policy p raw iteration ctx at_ j).2.InOrder :=
  h.settle p _ (Upload.ofRaw raw) iteration

/-- So do the prompts of an iteration, one after another. -/
theorem inOrder_journalPrompts (h : j.InOrder) (outer : AnswerSet) (index : Nat) (uploaded : Members) (at_ : Progress)
    (prompts : List Prompt) : (journalPrompts policy outer index uploaded at_ j prompts).2.InOrder := by
  induction prompts generalizing at_ j with
  | nil => exact h
  | cons p prompts ih =>
    exact ih (inOrder_journalPrompt policy h p (uploaded.lookup p.id) (some index) _ at_) _

theorem inOrder_journalIterations (h : j.InOrder) (outer : AnswerSet) (prompts : List Prompt) (index : Nat)
    (cache : Cache) (iterations : List Members) :
    (journalIterations policy outer prompts index cache j iterations).2.InOrder := by
  induction iterations generalizing index cache j with
  | nil => exact h
  | cons uploaded more ih =>
    exact ih (inOrder_journalPrompts policy h outer index uploaded ⟨cache, .empty⟩ prompts) _ _

/-- **A set has one fault at most,** although it may find one at two places: iterations that cannot be read count as
none, so the hidden set has nothing more against them. -/
theorem inOrder_journalSet (h : j.InOrder) (s : RepeatableSet) (r : Response) (at_ : Progress) :
    (journalSet policy s r at_ j).2.InOrder := by
  unfold journalSet Journal.readIterations
  dsimp only
  let status := (decideStatus policy at_.cache at_.answers.resolve s.condition).1
  have fresh : (j.outcome s.id none status).Fresh s.id none := h.outcome s.id none status
  cases r.iterations s.id with
  | error e =>
    -- The first place has written a fault; there is no iteration for the second one.
    have written := fresh.fault (.invalidValue e)
    dsimp only
    split
    · exact written
    · exact written.passOver s.prompts
  -- Only a hidden set that has iterations is at fault here, and only once.
  | ok iterations =>
    dsimp only
    split
    · exact inOrder_journalIterations policy fresh.inOrder at_.answers s.prompts 0 _ iterations
    · split
      · exact fresh.inOrder.passOver s.prompts
      · exact (fresh.fault _).passOver s.prompts

theorem inOrder_journalItem (h : j.InOrder) (r : Response) (at_ : Progress) (item : Item) :
    (journalItem policy r at_ j item).2.InOrder := by
  cases item with
  | prompt p => exact inOrder_journalPrompt policy h p (r.raw? p.id) none _ at_
  | set s => exact inOrder_journalSet policy h s r at_

/-- All items keep the order. Induction on the items, whatever has been written before them. -/
theorem inOrder_journalItems (h : j.InOrder) (r : Response) (at_ : Progress) (items : List Item) :
    (journalItems policy r at_ j items).2.InOrder := by
  induction items generalizing at_ j with
  | nil => exact h
  | cons item items ih => exact ih (inOrder_journalItem policy h r at_ item) _

/-- **The faults of a journal come in the order of its outcomes, one at most for each.** -/
theorem inOrder_journalWalk {cache : Cache} {d : Definition} {r : Response} {journal : Journal}
    (walked : (journalWalk policy cache d r).1 = .ok journal) : journal.InOrder := by
  unfold journalWalk at walked
  split at walked
  · cases walked
    exact inOrder_journalItems policy (Journal.inOrder_blank d.id) r ⟨cache, .empty⟩ d.items
  · cases walked

end

/-! ## The journal of the visits -/

/-- The fault of a visit, where it was found. -/
def Visit.fault? (v : Visit) : Option (Entry Finding) :=
  v.finding.map fun f => (v.item, v.iteration, f)

namespace Journal

/-- Writes what visits hold. -/
def write (j : Journal) (visits : List Visit) : Journal :=
  { j with outcomes := j.outcomes ++ visits.map Visit.outcome, faults := j.faults ++ visits.filterMap Visit.fault? }

theorem write_append (j : Journal) (visits others : List Visit) :
    j.write (visits ++ others) = (j.write visits).write others := by
  unfold write
  rw [List.map_append, List.filterMap_append, List.append_assoc, List.append_assoc]

theorem write_cons (j : Journal) (v : Visit) (visits : List Visit) :
    j.write (v :: visits) = (j.write [v]).write visits :=
  j.write_append [v] visits

theorem write_nil (j : Journal) : j.write [] = j := by
  unfold write
  rw [List.map_nil, List.filterMap_nil, List.append_nil, List.append_nil]

/-- A visit without a fault is an outcome. -/
theorem write_sound (j : Journal) (item : String) (iteration : Option Nat) (status : Status) :
    j.write [⟨item, iteration, status, none⟩] = j.outcome item iteration status := by
  unfold write outcome
  exact congrArg _ (List.append_nil _)

/-- A visit with a fault is an outcome and a fault. -/
theorem write_faulty (j : Journal) (item : String) (iteration : Option Nat) (status : Status) (finding : Finding) :
    j.write [⟨item, iteration, status, some finding⟩] =
      (j.outcome item iteration status).fault item iteration finding :=
  rfl

/-- Prompts that are passed over are visits without a fault. -/
theorem write_passed (j : Journal) (prompts : List Prompt) :
    j.write (prompts.map fun p => ⟨p.id, none, .hidden, none⟩) = j.passOver prompts := by
  induction prompts generalizing j with
  | nil => exact j.write_nil
  | cons p prompts ih =>
    rw [List.map_cons, ← List.singleton_append, write_append, write_sound, ih]
    rfl

end Journal

variable (policy : Policy) (j : Journal)

/-- A prompt is settled in the journal as in its visit. -/
theorem settle_eq_write (p : Prompt) (status : Status) (upload : Upload) (iteration : Option Nat) :
    j.settle p status upload iteration =
      ((settle p status upload).2, j.write [⟨p.id, iteration, status, (settle p status upload).1⟩]) := by
  have sound := j.write_sound p.id iteration status
  have faulty := j.write_faulty p.id iteration status
  unfold Journal.settle settle
  -- Each way to settle a prompt writes an outcome, or an outcome and a fault; so does its visit.
  cases status.isDisplayed with
  | false => cases upload <;> simp [sound, faulty]
  | true =>
    cases upload with
    | nothing => cases status.isDetermined <;> simp [sound, faulty]
    | notDisplayed => cases status.isDetermined <;> simp [sound, faulty]
    | skipped => cases p.skippable <;> simp [sound, faulty]
    | value raw => cases read : p.decodeAnswer raw <;> simp [sound, faulty, read]

/-- A prompt writes its one visit. -/
theorem journalPrompt_eq (p : Prompt) (raw : Option Json) (iteration : Option Nat) (ctx : Context) (at_ : Progress) :
    journalPrompt policy p raw iteration ctx at_ j =
      ((visitPrompt policy p raw iteration ctx at_).2, j.write [(visitPrompt policy p raw iteration ctx at_).1]) := by
  unfold journalPrompt visitPrompt
  dsimp only
  rw [settle_eq_write]

/-- An iteration writes the visits of its prompts, and goes on from the same scope and cache. -/
theorem journalPrompts_eq (outer : AnswerSet) (index : Nat) (uploaded : Members) (at_ : Progress)
    (prompts : List Prompt) :
    journalPrompts policy outer index uploaded at_ j prompts =
      ((visitPrompts policy outer index uploaded at_ prompts).2,
        j.write (visitPrompts policy outer index uploaded at_ prompts).1) := by
  induction prompts generalizing at_ j with
  | nil => exact Prod.ext rfl j.write_nil.symm
  | cons p prompts ih =>
    rw [journalPrompts, visitPrompts]
    dsimp only
    rw [journalPrompt_eq, ih, ← Journal.write_append]
    rfl

theorem journalIterations_eq (outer : AnswerSet) (prompts : List Prompt) (index : Nat) (cache : Cache)
    (iterations : List Members) :
    journalIterations policy outer prompts index cache j iterations =
      ((visitIterations policy outer prompts index cache iterations).2,
        j.write (visitIterations policy outer prompts index cache iterations).1) := by
  induction iterations generalizing index cache j with
  | nil => exact Prod.ext rfl j.write_nil.symm
  | cons uploaded more ih =>
    rw [journalIterations, visitIterations]
    dsimp only
    rw [journalPrompts_eq, ih, ← Journal.write_append]

/-- The two places at which a set may find a fault come to the one finding of its visit. -/
theorem journalSet_eq (s : RepeatableSet) (r : Response) (at_ : Progress) :
    journalSet policy s r at_ j =
      ((visitSet policy s r at_).2, j.write (visitSet policy s r at_).1) := by
  unfold journalSet visitSet Journal.readIterations settleSet
  dsimp only
  generalize decideStatus policy at_.cache at_.answers.resolve s.condition = decided
  obtain ⟨status, cache⟩ := decided
  have sound := j.write_sound s.id none status
  have faulty := j.write_faulty s.id none status
  cases r.iterations s.id with
  | error e =>
    dsimp only
    cases status.isDisplayed with
    | true =>
      rw [if_pos rfl, if_pos rfl, Journal.write_cons, faulty]
      exact Prod.ext rfl (Journal.write_nil _).symm
    | false =>
      rw [if_neg Bool.false_ne_true, if_neg Bool.false_ne_true, Journal.write_cons, faulty, Journal.write_passed]
      rfl
  | ok iterations =>
    cases status.isDisplayed with
    | true =>
      simp only [Bool.not_true, Bool.false_and, Bool.false_eq_true, if_true, if_false]
      rw [Journal.write_cons, sound, journalIterations_eq]
    | false =>
      simp only [Bool.not_false, Bool.true_and, Bool.false_eq_true, if_false]
      rw [Journal.write_cons, Journal.write_passed]
      -- No iteration is no fault; any other number is one.
      cases iterations with
      | nil => exact Prod.ext rfl (congrArg (Journal.passOver · s.prompts) sound.symm)
      | cons _ _ => rfl

theorem journalItem_eq (r : Response) (at_ : Progress) (item : Item) :
    journalItem policy r at_ j item = ((visitItem policy r at_ item).2, j.write (visitItem policy r at_ item).1) := by
  cases item with
  | prompt p => exact journalPrompt_eq policy j p (r.raw? p.id) none at_.answers.resolve at_
  | set s =>
    rw [journalItem, visitItem, journalSet_eq]

/-- The items write the visits of the walk. Induction on the items, whatever has been written before them. -/
theorem journalItems_eq (r : Response) (at_ : Progress) (items : List Item) :
    journalItems policy r at_ j items =
      ((visitItems policy r at_ items).2, j.write (visitItems policy r at_ items).1) := by
  induction items generalizing at_ j with
  | nil => exact Prod.ext rfl j.write_nil.symm
  | cons item items ih =>
    rw [journalItems, visitItems]
    dsimp only
    rw [journalItem_eq, ih, ← Journal.write_append]

/-- The outcomes and the faults of a report in two lists. -/
def Report.journal (r : Report) : Journal :=
  ⟨r.survey, r.outcomes, r.faults.map fun fault => (fault.1.item, fault.1.iteration, fault.2)⟩

/-- The visits of a report, written into a blank journal, are its two lists. -/
theorem write_blank (survey : String) (visits : List Visit) :
    (Journal.blank survey).write visits = Report.journal ⟨survey, visits⟩ := by
  -- The report tells each fault with its visit, the journal with its place.
  have faults : visits.filterMap Visit.fault? =
      (Report.faults ⟨survey, visits⟩).map fun fault => (fault.1.item, fault.1.iteration, fault.2) := by
    unfold Report.faults
    rw [List.map_filterMap]
    refine congrArg (List.filterMap · visits) (funext fun v => ?_)
    unfold Visit.fault?
    rw [Option.map_map]
    rfl
  unfold Journal.write Report.journal Journal.blank
  rw [faults]
  rfl

/-- **The journal is that of the report,** and the cache is left as by the walk. -/
theorem journalWalk_eq_walk (cache : Cache) (d : Definition) (r : Response) :
    journalWalk policy cache d r = ((walk policy cache d r).1.map Report.journal, (walk policy cache d r).2) := by
  unfold journalWalk walk
  split
  · dsimp only
    rw [journalItems_eq, write_blank]
    rfl
  · rfl

end SurveyFlow
