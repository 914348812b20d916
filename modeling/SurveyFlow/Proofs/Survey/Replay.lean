import SurveyFlow.Survey.Walk

/-!
# The walk without its cache

Every kept sentence is the reading of its text (`Cache.Sound`), so a walk that reads conditions through the
cache finds what one would find that reads them afresh. The second one is `replayItems`: its visits depend on
the survey, the response and the policy alone. **`walk_eq_replay`** — a walk with any cache that earlier use
may have left (`Cache.Reachable`) is the replay.
-/

namespace SurveyFlow

/-! ## Caches -/

/-- Every kept sentence is the reading of its text. -/
def Cache.Sound (c : Cache) : Prop :=
  ∀ entry ∈ c.entries, parseCondition entry.1 = .ok entry.2.sentence

namespace Cache

/-- A new cache keeps nothing, and so nothing wrong. -/
theorem sound_new (capacity : Nat) : (new capacity).Sound := nofun

theorem sound_clear (c : Cache) : c.clear.Sound := nofun

/-- What is found for a text is an entry for it. -/
theorem mem_entries_of_lookup {c : Cache} {text : String} {kept : ParsedCondition}
    (h : c.entries.lookup text = some kept) : (text, kept) ∈ c.entries := by
  obtain ⟨before, after, split, _⟩ := List.lookup_eq_some_iff.1 h
  simp [split]

/-- What a sound cache finds for a text is its reading. -/
theorem Sound.parse_of_lookup {c : Cache} (sound : c.Sound) {text : String} {kept : ParsedCondition}
    (h : c.entries.lookup text = some kept) : parseCondition text = .ok kept.sentence :=
  sound (text, kept) (mem_entries_of_lookup h)

/-- **A sound cache answers like the reader.** It gives the sentence of the text, or the same error. -/
theorem Sound.get_eq {c : Cache} (sound : c.Sound) (text : String) :
    (c.get text).1.map ParsedCondition.sentence = parseCondition text := by
  unfold get
  split
  · -- The text is kept: its entry is its reading. Otherwise the reader is asked.
    next kept found => exact (sound.parse_of_lookup found).symm
  · split
    · next e failed => exact failed.symm
    · next s parsed => exact parsed.symm

/-- A question leaves the cache sound. -/
theorem Sound.get {c : Cache} (sound : c.Sound) (text : String) : (c.get text).2.Sound := by
  unfold Cache.get
  split
  · exact sound
  · split
    · exact sound
    · next s parsed =>
      -- A full cache keeps nothing new; otherwise the new entry is the reading just made.
      intro entry mem
      dsimp only at mem
      split at mem
      · rcases List.mem_cons.1 mem with rfl | old
        · exact parsed
        · exact sound entry old
      · exact sound entry mem

end Cache

/-! ## Replaying

The definitions follow those of the walk, with the cache left out. -/

/-- The status of an item whose condition is read afresh. -/
def conditionStatus (policy : Policy) (ctx : Context) (condition : Option String) : Status :=
  match condition with
  | none => .displayed
  | some text => Status.ofValue policy (evaluateCondition ctx text).1

/-- The visit of a prompt, and the answer that later conditions see. -/
def replayPrompt (policy : Policy) (ctx : Context) (p : Prompt) (iteration : Option Nat) (raw : Option Json) :
    Visit × Answer :=
  let status := conditionStatus policy ctx p.condition
  let settled := settle p status (Upload.ofRaw raw)
  (⟨p.id, iteration, status, settled.1⟩, settled.2)

/-- The visits of prompts of a set in one iteration, and the answers of the iteration after them. -/
def replayPrompts (policy : Policy) (outer : AnswerSet) (index : Nat) (uploaded : Members) :
    AnswerSet → List Prompt → List Visit × AnswerSet
  | inner, [] => ([], inner)
  | inner, p :: prompts =>
    let first := replayPrompt policy (layered inner outer) p (some index) (uploaded.lookup p.id)
    let others := replayPrompts policy outer index uploaded (inner.insert p.id first.2) prompts
    (first.1 :: others.1, others.2)

/-- The visits of the prompts of a set in its iterations, the first of which has the number `index`. -/
def replayIterations (policy : Policy) (outer : AnswerSet) (prompts : List Prompt) :
    Nat → List Members → List Visit
  | _, [] => []
  | index, uploaded :: more =>
    (replayPrompts policy outer index uploaded .empty prompts).1 ++
      replayIterations policy outer prompts (index + 1) more

/-- The visits of a set and of its prompts. -/
def replaySet (policy : Policy) (s : RepeatableSet) (response : Response) (answers : AnswerSet) : List Visit :=
  let status := conditionStatus policy answers.resolve s.condition
  let settled := settleSet status (response.iterations s.id)
  ⟨s.id, none, status, settled.1⟩ ::
    if status.isDisplayed then replayIterations policy answers s.prompts 0 settled.2
    else s.prompts.map fun p => ⟨p.id, none, .hidden, none⟩

/-- The visits of an item, and the answers at the top level after it. -/
def replayItem (policy : Policy) (response : Response) (answers : AnswerSet) : Item → List Visit × AnswerSet
  | .prompt p =>
    let visit := replayPrompt policy answers.resolve p none (response.raw? p.id)
    ([visit.1], answers.insert p.id visit.2)
  | .set s => (replaySet policy s response answers, answers)

/-- The visits of items, and the answers at the top level after them. -/
def replayItems (policy : Policy) (response : Response) : AnswerSet → List Item → List Visit × AnswerSet
  | answers, [] => ([], answers)
  | answers, item :: items =>
    let first := replayItem policy response answers item
    let others := replayItems policy response first.2 items
    (first.1 ++ others.1, others.2)

/-! ## What is read of an upload

An answer that cannot be read counts for nothing, and neither does a list of iterations that cannot. -/

/-- The raw answer as later conditions see it where the prompt is shown. -/
def Prompt.reading (p : Prompt) (raw : Option Json) : Answer :=
  match p.decode raw with
  | .ok answer => answer
  | .error _ => .notDisplayed

/-- The iterations of a repeatable set, none where they cannot be read. -/
def Response.readIterations (r : Response) (set : String) : List Members :=
  match r.iterations set with
  | .ok iterations => iterations
  | .error _ => []

/-- **What later conditions see of a prompt:** its answer as it is read, if it is shown. -/
theorem answer_of_settle (p : Prompt) (status : Status) (raw : Option Json) :
    (settle p status (Upload.ofRaw raw)).2 = if status.isDisplayed then p.reading raw else .notDisplayed := by
  unfold settle Prompt.reading Prompt.decode
  cases status.isDisplayed with
  -- What is hidden counts for nothing, whatever was uploaded.
  | false => cases Upload.ofRaw raw <;> rfl
  | true =>
    cases Upload.ofRaw raw with
    | nothing => rfl
    | notDisplayed => rfl
    | skipped => rfl
    | value raw =>
      dsimp only [if_true]
      -- Only here is the answer read, and it is read the same way on both sides.
      cases p.decodeAnswer raw <;> rfl

/-- The iterations that a walk goes through. -/
theorem iterations_of_settleSet (status : Status) (r : Response) (set : String) :
    (settleSet status (r.iterations set)).2 = r.readIterations set := by
  unfold settleSet Response.readIterations
  cases r.iterations set with
  | error e => rfl
  | ok iterations =>
    dsimp only
    split <;> rfl

/-! ## Outcomes

A visit holds what was decided and what the upload has against it; the outcome is the first part. -/

/-- The item, its iteration and its status. -/
def Visit.outcome (v : Visit) : String × Option Nat × Status :=
  (v.item, v.iteration, v.status)

@[simp] theorem Visit.outcome_mk (item : String) (iteration : Option Nat) (status : Status)
    (finding : Option Finding) : (⟨item, iteration, status, finding⟩ : Visit).outcome = (item, iteration, status) :=
  rfl

/-- What a walk decided, in order. -/
def Report.outcomes (r : Report) : List (String × Option Nat × Status) :=
  r.visits.map Visit.outcome

/-- No visit was left to the policy. -/
def AllDetermined (visits : List Visit) : Prop :=
  ∀ v ∈ visits, v.status.isDetermined = true

/-! ## The walk is the replay

At each level: with a sound cache the visits and the answers are those of the replay, and the cache stays
sound. -/

variable (policy : Policy) (response : Response) {cache : Cache}

/-- The status that is decided through a sound cache is the one that is decided by reading afresh. -/
theorem decideStatus_eq (sound : cache.Sound) (ctx : Context) (condition : Option String) :
    (decideStatus policy cache ctx condition).1 = conditionStatus policy ctx condition ∧
      (decideStatus policy cache ctx condition).2.Sound := by
  cases condition with
  | none => exact ⟨rfl, sound⟩
  | some text =>
    refine ⟨?_, sound.get text⟩
    -- The sentence of the text is the same on both sides, and so is an error in it.
    have read := sound.get_eq text
    unfold decideStatus conditionStatus evaluateCondition
    dsimp only
    rw [← read]
    cases (cache.get text).1 with
    | error e => rfl
    | ok p => rfl

/-- A prompt is visited as it is replayed. -/
theorem visitPrompt_eq (sound : cache.Sound) (p : Prompt) (raw : Option Json) (iteration : Option Nat)
    (ctx : Context) (answers : AnswerSet) :
    ∃ cache', cache'.Sound ∧ visitPrompt policy p raw iteration ctx ⟨cache, answers⟩ =
      ((replayPrompt policy ctx p iteration raw).1,
        ⟨cache', answers.insert p.id (replayPrompt policy ctx p iteration raw).2⟩) := by
  obtain ⟨same, sound'⟩ := decideStatus_eq policy sound ctx p.condition
  refine ⟨_, sound', ?_⟩
  unfold visitPrompt replayPrompt
  dsimp only
  rw [same]

/-- The prompts of one iteration are visited as they are replayed: each one finds the answers before it, and a cache
that is sound. -/
theorem visitPrompts_eq (sound : cache.Sound) (outer : AnswerSet) (index : Nat) (uploaded : Members)
    (inner : AnswerSet) (prompts : List Prompt) :
    ∃ cache', cache'.Sound ∧ visitPrompts policy outer index uploaded ⟨cache, inner⟩ prompts =
      ((replayPrompts policy outer index uploaded inner prompts).1,
        ⟨cache', (replayPrompts policy outer index uploaded inner prompts).2⟩) := by
  induction prompts generalizing cache inner with
  | nil => exact ⟨cache, sound, rfl⟩
  -- The second cache is the one that the first prompt leaves, which is why it varies in the induction.
  | cons p prompts ih =>
    obtain ⟨cache₁, sound₁, first⟩ := visitPrompt_eq policy sound p (uploaded.lookup p.id) (some index)
      (layered inner outer) inner
    obtain ⟨cache₂, sound₂, others⟩ := ih sound₁ (inner.insert p.id
      (replayPrompt policy (layered inner outer) p (some index) (uploaded.lookup p.id)).2)
    refine ⟨cache₂, sound₂, ?_⟩
    rw [visitPrompts]
    dsimp only
    rw [first]
    dsimp only
    rw [others]
    rfl

/-- The iterations of a set are visited as they are replayed. -/
theorem visitIterations_eq (sound : cache.Sound) (outer : AnswerSet) (prompts : List Prompt) (index : Nat)
    (iterations : List Members) :
    ∃ cache', cache'.Sound ∧ visitIterations policy outer prompts index cache iterations =
      (replayIterations policy outer prompts index iterations, cache') := by
  induction iterations generalizing cache index with
  | nil => exact ⟨cache, sound, rfl⟩
  -- Each iteration begins without answers of its own, but with the cache that the one before it leaves.
  | cons uploaded more ih =>
    obtain ⟨cache₁, sound₁, first⟩ := visitPrompts_eq policy sound outer index uploaded .empty prompts
    obtain ⟨cache₂, sound₂, others⟩ := ih sound₁ (index + 1)
    refine ⟨cache₂, sound₂, ?_⟩
    rw [visitIterations, first]
    dsimp only
    rw [others]
    rfl

/-- A set is visited as it is replayed, whether it is shown or not. -/
theorem visitSet_eq (sound : cache.Sound) (s : RepeatableSet) (answers : AnswerSet) :
    ∃ cache', cache'.Sound ∧ visitSet policy s response ⟨cache, answers⟩ =
      (replaySet policy s response answers, cache') := by
  obtain ⟨same, sound₁⟩ := decideStatus_eq policy sound answers.resolve s.condition
  unfold visitSet replaySet
  dsimp only
  rw [same]
  split
  · -- A set that is shown goes through its iterations; the prompts of a hidden one are hidden, and no text is read.
    obtain ⟨cache₂, sound₂, visits⟩ := visitIterations_eq policy sound₁ answers s.prompts 0
      (settleSet (conditionStatus policy answers.resolve s.condition) (response.iterations s.id)).2
    refine ⟨cache₂, sound₂, ?_⟩
    rw [visits]
  · exact ⟨_, sound₁, rfl⟩

/-- An item is visited as it is replayed. -/
theorem visitItem_eq (sound : cache.Sound) (answers : AnswerSet) (item : Item) :
    ∃ cache', cache'.Sound ∧ visitItem policy response ⟨cache, answers⟩ item =
      ((replayItem policy response answers item).1, ⟨cache', (replayItem policy response answers item).2⟩) := by
  cases item with
  | prompt p =>
    obtain ⟨cache', sound', visit⟩ := visitPrompt_eq policy sound p (response.raw? p.id) none
      answers.resolve answers
    refine ⟨cache', sound', ?_⟩
    rw [visitItem]
    dsimp only
    rw [visit]
    rfl
  | set s =>
    obtain ⟨cache', sound', visits⟩ := visitSet_eq policy response sound s answers
    refine ⟨cache', sound', ?_⟩
    rw [visitItem, visits]
    rfl

/-- **The items of a survey are visited as they are replayed.** -/
theorem visitItems_eq (sound : cache.Sound) (answers : AnswerSet) (items : List Item) :
    ∃ cache', cache'.Sound ∧ visitItems policy response ⟨cache, answers⟩ items =
      ((replayItems policy response answers items).1, ⟨cache', (replayItems policy response answers items).2⟩) := by
  induction items generalizing cache answers with
  | nil => exact ⟨cache, sound, rfl⟩
  | cons item items ih =>
    obtain ⟨cache₁, sound₁, first⟩ := visitItem_eq policy response sound answers item
    obtain ⟨cache₂, sound₂, others⟩ := ih sound₁ (replayItem policy response answers item).2
    refine ⟨cache₂, sound₂, ?_⟩
    rw [visitItems, first]
    dsimp only
    rw [others]
    rfl

/-- A walk leaves a sound cache sound, also if it finds another survey than the response is for. -/
theorem Cache.Sound.walk (sound : cache.Sound) (policy : Policy) (survey : Definition) (response : Response) :
    (walk policy cache survey response).2.Sound := by
  unfold SurveyFlow.walk
  split
  · -- The survey that the response is for.
    obtain ⟨cache', sound', visits⟩ := visitItems_eq policy response sound .empty
      survey.items
    rw [visits]
    exact sound'
  · exact sound

/-- The caches that come about by questions, clearing and walks. -/
inductive Cache.Reachable : Cache → Prop where
  | new (capacity : Nat) : Reachable (.new capacity)
  | get {c : Cache} (text : String) : Reachable c → Reachable (c.get text).2
  | clear {c : Cache} : Reachable c → Reachable c.clear
  | walk {c : Cache} (policy : Policy) (survey : Definition) (response : Response) :
    Reachable c → Reachable (SurveyFlow.walk policy c survey response).2

/-- A cache that came about by use is sound. -/
theorem Cache.Reachable.sound {c : Cache} (h : c.Reachable) : c.Sound := by
  induction h with
  | new capacity => exact Cache.sound_new capacity
  | get text _ ih => exact ih.get text
  | clear _ _ => exact Cache.sound_clear _
  | walk policy survey response _ ih => exact ih.walk policy survey response

/-- **The cache is invisible to a walk.** Whatever is kept, the report of a response to the survey holds the
visits of the replay. -/
theorem walk_eq_replay (sound : cache.Sound) {d : Definition} (own : response.survey = d.id) :
    (walk policy cache d response).1 = .ok ⟨d.id, (replayItems policy response .empty d.items).1⟩ := by
  obtain ⟨cache', _, visits⟩ := visitItems_eq policy response sound .empty d.items
  rw [walk, if_pos own.symm, visits]

end SurveyFlow
