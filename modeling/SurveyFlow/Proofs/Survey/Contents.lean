import SurveyFlow.Proofs.Survey.Sharing

/-!
# What a cache keeps

What a cache keeps depends on what was done through its handles, and not on which of them it was done through
(`Cache.Follows`): of the texts that were asked for since it was last cleared and that can be read, each counted once,
it keeps the first ones, as many as it has room for. A tree is given out again only while its text is kept, for another
reading has another number (`Cache.Lost`). **`contents_of_history`** — both together, after any run from a new cache.
-/

namespace SurveyFlow

/-! ## Histories -/

/-- What is done through a handle. -/
inductive HandleStep where
  | get (handle : Nat) (text : String)
  | clear (handle : Nat)
  | clone (handle : Nat)

namespace HandleStep

def handle : HandleStep → Nat
  | get handle _ | clear handle | clone handle => handle

def use : HandleStep → HandleUse
  | get handle text => .through handle (.get text)
  | clear handle => .through handle .clear
  | clone handle => .clone handle

def text? : HandleStep → Option String
  | get _ text => some text
  | clear _ | clone _ => none

def isClear : HandleStep → Bool
  | clear _ => true
  | get _ _ | clone _ => false

end HandleStep

/-- The texts that were asked for since the last clear, in order, as far as they can be read. -/
def readableSinceClear (steps : List HandleStep) : List String :=
  let recent := (steps.reverse.takeWhile fun s => !s.isClear).reverse
  (recent.filterMap HandleStep.text?).filter fun text => (parseCondition text).isOk

/-- A clear forgets all texts. -/
theorem readableSinceClear_clear (steps : List HandleStep) (handle : Nat) :
    readableSinceClear (steps ++ [.clear handle]) = [] := by
  simp [readableSinceClear, HandleStep.isClear]

/-- A new handle asks for no text. -/
theorem readableSinceClear_clone (steps : List HandleStep) (handle : Nat) :
    readableSinceClear (steps ++ [.clone handle]) = readableSinceClear steps := by
  simp [readableSinceClear, HandleStep.isClear, HandleStep.text?]

/-- A text that can be read is one more. -/
theorem readableSinceClear_get_ok (steps : List HandleStep) (handle : Nat) {text : String} {sentence : Sentence}
    (h : parseCondition text = .ok sentence) :
    readableSinceClear (steps ++ [.get handle text]) = readableSinceClear steps ++ [text] := by
  have readable : (parseCondition text).isOk = true := by rw [h]; rfl
  simp [readableSinceClear, HandleStep.isClear, HandleStep.text?, readable]

/-- A text that cannot be read does not count. -/
theorem readableSinceClear_get_error (steps : List HandleStep) (handle : Nat) {text : String} {e : ConditionError}
    (h : parseCondition text = .error e) :
    readableSinceClear (steps ++ [.get handle text]) = readableSinceClear steps := by
  have unreadable : (parseCondition text).isOk = false := by rw [h]; rfl
  simp [readableSinceClear, HandleStep.isClear, HandleStep.text?, unreadable]

/-! ## The first ones of a list

One more element at the end of a list, of which the first `capacity` different elements are wanted. -/

section

variable {capacity : Nat} {texts : List String} {text : String}

/-- An element that is there already makes no difference. -/
theorem eraseDups_concat_of_mem (old : text ∈ texts) : (texts ++ [text]).eraseDups = texts.eraseDups := by
  simp [List.eraseDups_append, List.removeAll, old]

/-- A new element comes last. -/
theorem eraseDups_concat_of_not_mem (new : text ∉ texts) : (texts ++ [text]).eraseDups = texts.eraseDups ++ [text] := by
  have alone : [text].eraseDups = [text] := by rw [List.eraseDups_cons, List.filter_nil, List.eraseDups_nil]
  simp [List.eraseDups_append, List.removeAll, new, alone]

/-- Where as many as are wanted are there, one more is not wanted. -/
theorem take_eraseDups_concat_of_full (full : capacity ≤ (texts.eraseDups.take capacity).length) :
    (texts ++ [text]).eraseDups.take capacity = texts.eraseDups.take capacity := by
  have enough : capacity ≤ texts.eraseDups.length := Nat.le_trans full (List.length_take_le' _ _)
  rw [List.eraseDups_append, List.take_append_of_le_length enough]

/-- Where there are fewer, a new one is taken. -/
theorem take_eraseDups_concat_of_room (room : (texts.eraseDups.take capacity).length < capacity)
    (new : text ∉ texts.eraseDups.take capacity) :
    (texts ++ [text]).eraseDups.take capacity = texts.eraseDups.take capacity ++ [text] := by
  -- Fewer than are wanted were taken, so all of them were.
  have few : texts.eraseDups.length < capacity := by
    rw [List.length_take] at room
    omega
  rw [List.take_of_length_le (Nat.le_of_lt few)] at new ⊢
  rw [eraseDups_concat_of_not_mem fun old => new (List.mem_eraseDups.2 old)]
  exact List.take_of_length_le (by rw [List.length_append]; exact few)

end

/-! ## One question -/

namespace Cache

/-- The kept texts, in the order in which they came. -/
def texts (c : Cache) : List String :=
  (c.entries.map Prod.fst).reverse

/-- The cache after a step through one of its handles. -/
def after (c : Cache) : HandleStep → Cache
  | .get _ text => (c.get text).2
  | .clear _ => c.clear
  | .clone _ => c

/-- A cache is as large as the number of its texts. -/
theorem size_eq_length_texts (c : Cache) : c.size = c.texts.length := by
  simp [size, texts]

/-- Nothing is found exactly for a text that is not kept. -/
theorem lookup_eq_none_iff {c : Cache} {text : String} : c.entries.lookup text = none ↔ text ∉ c.texts := by
  simp only [List.lookup_eq_none_iff, texts, List.mem_reverse, List.mem_map, not_exists, not_and, bne_iff_ne]
  exact ⟨fun h entry mem same => h entry mem same.symm, fun h entry mem same => h entry mem same.symm⟩

/-- A text for which something is found is kept. -/
theorem mem_texts_of_lookup {c : Cache} {text : String} {kept : ParsedCondition}
    (h : c.entries.lookup text = some kept) : text ∈ c.texts :=
  List.mem_reverse.2 (List.mem_map_of_mem (mem_entries_of_lookup h))

/-- A kept text is answered from the cache, which stays as it is. -/
theorem get_of_lookup {c : Cache} {text : String} {kept : ParsedCondition} (h : c.entries.lookup text = some kept) :
    c.get text = (.ok kept, c) := by
  unfold get
  rw [h]

/-- **The four answers.** A text is kept already, or it cannot be read, or it is read anew: then it is kept if there is
room for it. -/
theorem get_cases (c : Cache) (text : String) :
    (∃ kept, c.entries.lookup text = some kept ∧ c.get text = (.ok kept, c)) ∨
    text ∉ c.texts ∧
      ((∃ e, parseCondition text = .error e ∧ c.get text = (.error e, c)) ∨
      ∃ s, parseCondition text = .ok s ∧
        ((c.size < c.capacity ∧ c.get text = (.ok ⟨s, c.readings⟩,
          { c with entries := (text, ⟨s, c.readings⟩) :: c.entries, readings := c.readings + 1 })) ∨
        (c.capacity ≤ c.size ∧ c.get text = (.ok ⟨s, c.readings⟩, { c with readings := c.readings + 1 })))) := by
  cases found : c.entries.lookup text with
  | some kept => exact .inl ⟨kept, rfl, get_of_lookup found⟩
  | none =>
    refine .inr ⟨lookup_eq_none_iff.1 found, ?_⟩
    unfold get
    rw [found]
    cases read : parseCondition text with
    | error e => exact .inl ⟨e, rfl, rfl⟩
    | ok s =>
      -- The tree is answered in any case, but kept only if there is room.
      refine .inr ⟨s, rfl, ?_⟩
      by_cases room : c.size < c.capacity
      · exact .inl ⟨room, by simp only [if_pos room]⟩
      · exact .inr ⟨Nat.le_of_not_lt room, by simp only [if_neg room]⟩

/-- A sound cache answers a text that cannot be read with the error of the reader, and stays as it is. -/
theorem Sound.get_of_error {c : Cache} (sound : c.Sound) {text : String} {e : ConditionError}
    (h : parseCondition text = .error e) : c.get text = (.error e, c) := by
  rcases c.get_cases text with ⟨kept, found, same⟩ | ⟨_, ⟨e', failed, same⟩ | ⟨s, read, _⟩⟩
  · -- A kept text can be read, because what is kept is its reading.
    rw [sound.parse_of_lookup found] at h
    cases h
  · rw [failed] at h
    cases h
    exact same
  · rw [read] at h
    cases h

/-- A sound cache answers a text that can be read with a tree of its sentence. -/
theorem Sound.get_of_ok {c : Cache} (sound : c.Sound) {text : String} {sentence : Sentence}
    (h : parseCondition text = .ok sentence) : ∃ tree, (c.get text).1 = .ok tree ∧ tree.sentence = sentence := by
  have same := sound.get_eq text
  rw [h] at same
  cases given : (c.get text).1 with
  | error e =>
    rw [given] at same
    cases same
  | ok tree =>
    rw [given] at same
    cases same
    exact ⟨tree, rfl, rfl⟩

/-! ## The contents follow the history -/

/-- The cache has come through this history. -/
structure Follows (c : Cache) (capacity : Nat) (steps : List HandleStep) : Prop where
  capacity_eq : c.capacity = capacity
  texts_eq : c.texts = (readableSinceClear steps).eraseDups.take capacity
  sound : c.Sound
  /-- Every kept tree comes from an earlier reading. -/
  numbered : ∀ entry ∈ c.entries, entry.2.serial < c.readings

/-- A new cache has no history. -/
theorem follows_new (capacity : Nat) : (new capacity).Follows capacity [] :=
  ⟨rfl, by simp [new, texts, readableSinceClear], sound_new capacity, nofun⟩

namespace Follows

variable {c : Cache} {capacity : Nat} {steps : List HandleStep}

/-- A kept text is one that was asked for since the last clear and can be read. -/
theorem mem_of_mem_texts (follows : c.Follows capacity steps) {text : String} (h : text ∈ c.texts) :
    text ∈ readableSinceClear steps := by
  rw [follows.texts_eq] at h
  exact List.mem_eraseDups.1 (List.mem_of_mem_take h)

/-- A cache grows with the different texts that were asked for, up to its capacity. -/
theorem size_eq (follows : c.Follows capacity steps) :
    c.size = min capacity (readableSinceClear steps).eraseDups.length := by
  rw [size_eq_length_texts, follows.texts_eq, List.length_take]

/-- **A question goes on the history.** The four answers are four reasons for which the texts are the first ones
again. -/
theorem get (follows : c.Follows capacity steps) (handle : Nat) (text : String) :
    (c.get text).2.Follows capacity (steps ++ [.get handle text]) := by
  have ⟨capacity_eq, texts_eq, sound, numbered⟩ := follows
  have sound' := sound.get text
  rcases c.get_cases text with
    ⟨kept, found, same⟩ | ⟨missed, ⟨e, failed, same⟩ | ⟨s, parsed, ⟨room, same⟩ | ⟨full, same⟩⟩⟩
  all_goals rw [same] at sound' ⊢
  · -- The text is kept, and so it was asked for before.
    have known := follows.mem_of_mem_texts (mem_texts_of_lookup found)
    refine ⟨capacity_eq, ?_, sound', numbered⟩
    rw [readableSinceClear_get_ok steps handle (sound.parse_of_lookup found)]
    exact texts_eq.trans (congrArg (List.take capacity) (eraseDups_concat_of_mem known)).symm
  · -- The text cannot be read, and neither the cache nor the history takes it up.
    refine ⟨capacity_eq, ?_, sound', numbered⟩
    rw [readableSinceClear_get_error steps handle failed]
    exact texts_eq
  · -- There is room for a new text, which comes last on both sides.
    refine ⟨capacity_eq, ?_, sound', ?_⟩
    · rw [size_eq_length_texts, capacity_eq, texts_eq] at room
      rw [texts_eq] at missed
      rw [readableSinceClear_get_ok steps handle parsed, take_eraseDups_concat_of_room room missed, ← texts_eq]
      exact List.reverse_cons
    · refine List.forall_mem_cons.2 ⟨Nat.lt_succ_self _, fun entry mem => ?_⟩
      exact Nat.lt_succ_of_lt (numbered entry mem)
  · -- The cache is full: the first texts are there already.
    refine ⟨capacity_eq, ?_, sound', fun entry mem => Nat.lt_succ_of_lt (numbered entry mem)⟩
    rw [size_eq_length_texts, capacity_eq, texts_eq] at full
    rw [readableSinceClear_get_ok steps handle parsed]
    exact texts_eq.trans (take_eraseDups_concat_of_full full).symm

/-- Each step goes on the history. -/
theorem after (follows : c.Follows capacity steps) (s : HandleStep) :
    (c.after s).Follows capacity (steps ++ [s]) := by
  cases s with
  | get handle text => exact follows.get handle text
  | clear handle =>
    have nothing := readableSinceClear_clear steps handle
    refine ⟨follows.capacity_eq, ?_, sound_clear c, nofun⟩
    rw [nothing]
    exact List.take_nil.symm
  | clone handle =>
    have same := readableSinceClear_clone steps handle
    obtain ⟨capacity_eq, texts_eq, sound, numbered⟩ := follows
    exact ⟨capacity_eq, same ▸ texts_eq, sound, numbered⟩

/-- And so do any number of steps. -/
theorem foldl_after (follows : c.Follows capacity steps) (more : List HandleStep) :
    (more.foldl Cache.after c).Follows capacity (steps ++ more) := by
  induction more generalizing c steps with
  | nil => rwa [List.append_nil]
  | cons s more ih =>
    -- The history grows at its end, and the steps are taken from the front.
    have next := ih (follows.after s)
    rwa [List.append_assoc, List.singleton_append] at next

end Follows

/-! ## Which trees are given out again -/

/-- The reading of this number has been made and its tree is not kept, so that it will not be given out any more. -/
def Lost (c : Cache) (serial : Nat) : Prop :=
  serial < c.readings ∧ ∀ entry ∈ c.entries, entry.2.serial ≠ serial

section

variable {c : Cache} {text : String} {serial : Nat} {tree : ParsedCondition}

/-- Numbers go up, and what is kept newly has the next one. -/
theorem readings_after (c : Cache) (s : HandleStep) :
    c.readings ≤ (c.after s).readings ∧
      ∀ entry ∈ (c.after s).entries, entry ∈ c.entries ∨ entry.2.serial = c.readings := by
  cases s with
  | get handle text =>
    rw [after]
    rcases c.get_cases text with ⟨_, _, same⟩ | ⟨_, ⟨_, _, same⟩ | ⟨_, _, ⟨_, same⟩ | ⟨_, same⟩⟩⟩
    all_goals rw [same]
    · exact ⟨Nat.le_refl _, fun entry => .inl⟩
    · exact ⟨Nat.le_refl _, fun entry => .inl⟩
    · -- The only answer that keeps something new.
      exact ⟨Nat.le_succ _, List.forall_mem_cons.2 ⟨.inr rfl, fun entry => .inl⟩⟩
    · exact ⟨Nat.le_succ _, fun entry => .inl⟩
  | clear handle => exact ⟨Nat.le_refl _, nofun⟩
  | clone handle => exact ⟨Nat.le_refl _, fun entry => .inl⟩

/-- What is lost stays lost, as the numbers of later readings are higher. -/
theorem Lost.after (lost : c.Lost serial) (s : HandleStep) : (c.after s).Lost serial := by
  obtain ⟨issued, gone⟩ := lost
  obtain ⟨grows, fresh⟩ := readings_after c s
  refine ⟨Nat.lt_of_lt_of_le issued grows, fun entry mem => ?_⟩
  -- An old entry has another number by assumption, a new one the next number.
  rcases fresh entry mem with old | next
  · exact gone entry old
  · rw [next]
    exact Nat.ne_of_gt issued

/-- A lost tree is not given out: a kept one has another number, and one that is read anew has a higher one. -/
theorem Lost.serial_ne (lost : c.Lost serial) (h : (c.get text).1 = .ok tree) : tree.serial ≠ serial := by
  obtain ⟨issued, gone⟩ := lost
  rcases c.get_cases text with ⟨kept, found, same⟩ | ⟨_, ⟨_, _, same⟩ | ⟨_, _, ⟨_, same⟩ | ⟨_, same⟩⟩⟩
  all_goals rw [same] at h; cases h
  · exact gone (text, tree) (mem_entries_of_lookup found)
  · exact Nat.ne_of_gt issued
  · exact Nat.ne_of_gt issued

/-- A tree stays lost, and a clear loses every one. -/
theorem lost_foldl_after {more : List HandleStep} (issued : serial < c.readings)
    (h : c.Lost serial ∨ ∃ s ∈ more, s.isClear = true) : (more.foldl Cache.after c).Lost serial := by
  induction more generalizing c with
  | nil =>
    rcases h with lost | ⟨s, mem, _⟩
    · exact lost
    · cases mem
  | cons s more ih =>
    refine ih (Nat.lt_of_lt_of_le issued (readings_after c s).1) ?_
    rcases h with lost | ⟨s', mem, clears⟩
    · exact .inl (lost.after s)
    -- The clear is this step, or it comes later.
    rcases List.mem_cons.1 mem with rfl | later
    · cases s' with
      | clear handle => exact .inl ⟨issued, nofun⟩
      | get | clone => cases clears
    · exact .inr ⟨s', later, clears⟩

/-- Without a clear a kept text stays kept, with its tree. -/
theorem lookup_after (h : c.entries.lookup text = some tree) {s : HandleStep} (keeps : s.isClear = false) :
    (c.after s).entries.lookup text = some tree := by
  cases s with
  | get handle asked =>
    show (c.get asked).2.entries.lookup text = some tree
    rcases c.get_cases asked with ⟨_, _, same⟩ | ⟨missed, ⟨_, _, same⟩ | ⟨s, _, ⟨_, same⟩ | ⟨_, same⟩⟩⟩
    all_goals rw [same]
    · exact h
    · exact h
    · -- What is kept newly has another text.
      have differ : text ≠ asked := fun same => missed (same ▸ mem_texts_of_lookup h)
      show ((asked, _) :: c.entries).lookup text = some tree
      rw [List.lookup_cons, beq_eq_false_iff_ne.2 differ]
      exact h
    · exact h
  | clear handle => cases keeps
  | clone handle => exact h

/-- So it does over any number of steps without a clear. -/
theorem lookup_foldl_after {more : List HandleStep} (h : c.entries.lookup text = some tree)
    (keep : ∀ s ∈ more, s.isClear = false) : (more.foldl Cache.after c).entries.lookup text = some tree := by
  induction more generalizing c with
  | nil => exact h
  | cons s more ih =>
    obtain ⟨first, others⟩ := List.forall_mem_cons.1 keep
    exact ih (lookup_after h first) others

/-- The tree of an answer is either kept after it, for its text, or lost. -/
theorem kept_or_lost (numbered : ∀ entry ∈ c.entries, entry.2.serial < c.readings) (h : (c.get text).1 = .ok tree) :
    tree.serial < (c.get text).2.readings ∧
      ((text ∈ (c.get text).2.texts ∧ (c.get text).2.entries.lookup text = some tree) ∨
        (text ∉ (c.get text).2.texts ∧ (c.get text).2.Lost tree.serial)) := by
  rcases c.get_cases text with ⟨kept, found, same⟩ | ⟨missed, ⟨_, _, same⟩ | ⟨s, _, ⟨_, same⟩ | ⟨_, same⟩⟩⟩
  all_goals rw [same] at h ⊢; cases h
  · -- The text was kept before the question.
    exact ⟨numbered (text, tree) (mem_entries_of_lookup found), .inl ⟨mem_texts_of_lookup found, found⟩⟩
  · -- It is kept now, in front of the others.
    have found : ((text, (⟨s, c.readings⟩ : ParsedCondition)) :: c.entries).lookup text = some ⟨s, c.readings⟩ := by
      rw [List.lookup_cons, beq_self_eq_true]
    exact ⟨Nat.lt_succ_self _, .inl ⟨mem_texts_of_lookup found, found⟩⟩
  · -- There was no room for it, and no other entry has the number of this reading.
    have gone : ∀ entry ∈ c.entries, entry.2.serial ≠ c.readings := fun entry mem => Nat.ne_of_lt (numbered entry mem)
    exact ⟨Nat.lt_succ_self _, .inr ⟨missed, Nat.lt_succ_self _, gone⟩⟩

/-- **A tree is given out again exactly while it is kept.** -/
theorem serial_eq_iff {more : List HandleStep} {first second : ParsedCondition}
    (numbered : ∀ entry ∈ c.entries, entry.2.serial < c.readings) (h : (c.get text).1 = .ok first)
    (h' : ((more.foldl Cache.after (c.get text).2).get text).1 = .ok second) :
    first.serial = second.serial ↔ (∀ s ∈ more, s.isClear = false) ∧ text ∈ (c.get text).2.texts := by
  obtain ⟨issued, fate⟩ := kept_or_lost numbered h
  constructor
  · intro again
    -- The second answer has the number of the first one, so that reading is not lost.
    have remembered : ¬ (more.foldl Cache.after (c.get text).2).Lost first.serial := fun lost =>
      lost.serial_ne h' again.symm
    refine ⟨fun s mem => ?_, ?_⟩
    · refine Bool.eq_false_iff.2 fun clears => remembered ?_
      exact lost_foldl_after issued (.inr ⟨s, mem, clears⟩)
    · rcases fate with ⟨kept, _⟩ | ⟨_, lost⟩
      · exact kept
      · exact absurd (lost_foldl_after issued (.inl lost)) remembered
  · -- Without a clear the entry is still there when the text is asked for again.
    rintro ⟨keep, kept⟩
    rcases fate with ⟨_, found⟩ | ⟨missed, _⟩
    · rw [get_of_lookup (lookup_foldl_after found keep)] at h'
      cases h'
      rfl
    · exact absurd kept missed

end

end Cache

/-! ## Handles to one cache -/

namespace Caches

def cache? (m : Caches) (handle : Nat) : Option Cache :=
  (m.place? handle).map m.stores.get

/-- The tree that is given out for a text through a handle, with the number of its reading. -/
def fetch (m : Caches) (handle : Nat) (text : String) : Option (Except ConditionError ParsedCondition) :=
  (m.cache? handle).map fun c => (c.get text).1

/-- Steps through handles that there are lead from the first caches to the others. -/
inductive Runs : Caches → List HandleStep → Caches → Prop where
  | none (m : Caches) : Runs m [] m
  | step {m m' : Caches} {steps : List HandleStep} (s : HandleStep) (there : s.handle < m.handles.length) :
    Runs (m.step s.use).2 steps m' → Runs m (s :: steps) m'

variable {m m' : Caches} {c : Cache} {handle : Nat}

/-- Where there is one cache, all handles are its own. -/
theorem place?_of_single (single : m.stores = [c]) (there : handle < m.handles.length) :
    ∃ place, m.place? handle = some place ∧ place.val = 0 ∧ m.stores[place] = c := by
  refine ⟨_, dif_pos there, ?_, ?_⟩
  · have bound := m.valid _ (List.getElem_mem there)
    rw [single] at bound
    exact Nat.lt_one_iff.1 bound
  · refine List.mem_singleton.1 ?_
    rw [← single]
    exact List.getElem_mem _

/-- Every handle leads to the one cache. -/
theorem cache?_of_single (single : m.stores = [c]) (there : handle < m.handles.length) : m.cache? handle = some c := by
  obtain ⟨place, found, _, kept⟩ := place?_of_single single there
  rw [cache?, found, ← kept]
  rfl

/-- What one handle does to the cache is done for all of them. -/
theorem step_through (single : m.stores = [c]) (there : handle < m.handles.length) (use : CacheUse) :
    (m.step (.through handle use)).1 = .reply (use.step c).1 ∧
      (m.step (.through handle use)).2.stores = [(use.step c).2] ∧
      (m.step (.through handle use)).2.handles = m.handles := by
  obtain ⟨place, found, zero, kept⟩ := place?_of_single single there
  have stores : m.stores.set 0 (use.step c).2 = [(use.step c).2] := by rw [single, List.set_cons_zero]
  simp only [step, found, kept, set, zero, stores, and_self]

/-- A step through any handle is a step of the one cache. -/
theorem stores_step (single : m.stores = [c]) (s : HandleStep) (there : s.handle < m.handles.length) :
    (m.step s.use).2.stores = [c.after s] := by
  cases s with
  | get handle text => exact (step_through single there (.get text)).2.1
  | clear handle => exact (step_through single there .clear).2.1
  | clone handle =>
    obtain ⟨place, found, _, _⟩ := place?_of_single single there
    rw [HandleStep.handle] at found
    simp only [HandleStep.use, step, found]
    exact single

/-- A run through any handles is a run of the one cache. -/
theorem stores_of_runs {steps : List HandleStep} (single : m.stores = [c]) (run : m.Runs steps m') :
    m'.stores = [steps.foldl Cache.after c] := by
  -- The one cache varies in the induction: each step leaves another one in its place.
  induction run generalizing c with
  | none m => exact single
  | step s there _ ih => exact ih (stores_step single s there)

/-- Through any handle the one cache answers. -/
theorem fetch_of_single (single : m.stores = [c]) (there : handle < m.handles.length) (text : String) :
    m.fetch handle text = some (c.get text).1 := by
  rw [fetch, cache?_of_single single there, Option.map_some]

/-- Handles and caches are all that there is. -/
theorem eq_of_stores (stores : m.stores = m'.stores) (handles : m.handles = m'.handles) : m = m' := by
  cases m
  cases m'
  cases stores
  cases handles
  rfl

/-- **A text that cannot be read changes nothing.** -/
theorem step_get_of_error (single : m.stores = [c]) (sound : c.Sound) (there : handle < m.handles.length)
    {text : String} {e : ConditionError} (h : parseCondition text = .error e) :
    m.step (.through handle (.get text)) = (.reply (.sentence (.error e)), m) := by
  obtain ⟨reply, stores, handles⟩ := step_through single there (.get text)
  simp only [CacheUse.step, sound.get_of_error h] at reply stores
  exact Prod.ext reply (eq_of_stores (stores.trans single.symm) handles)

end Caches

/-- **The contents of a cache are determined by its history.** Through whatever handles a new cache is used, it keeps
the first readable texts since the last clear; a text that cannot be read changes nothing; and the tree that one
question is given is given to a later one exactly if its text was kept after the first one and no clear lies between
them. -/
theorem contents_of_history {capacity : Nat} {steps : List HandleStep} {m : Caches}
    (run : (Caches.none.create capacity).Runs steps m) :
    (∀ handle < m.handles.length, ∃ c, m.cache? handle = some c ∧
      c.texts = (readableSinceClear steps).eraseDups.take capacity ∧
      c.size = min capacity (readableSinceClear steps).eraseDups.length) ∧
    (∀ handle < m.handles.length, ∀ text e, parseCondition text = .error e →
      m.step (.through handle (.get text)) = (.reply (.sentence (.error e)), m)) ∧
    (∀ handle < m.handles.length, ∀ text sentence, parseCondition text = .ok sentence →
      let next := (m.step (.through handle (.get text))).2
      ∀ more m', next.Runs more m' → ∀ handle' < m'.handles.length,
        ∃ first second, m.fetch handle text = some (.ok first) ∧ m'.fetch handle' text = some (.ok second) ∧
          first.sentence = sentence ∧ second.sentence = sentence ∧
          (first.serial = second.serial ↔
            (∀ s ∈ more, s.isClear = false) ∧ ∃ c, next.cache? handle = some c ∧ text ∈ c.texts)) := by
  have single := Caches.stores_of_runs rfl run
  have follows := (Cache.follows_new capacity).foldl_after steps
  rw [List.nil_append] at follows
  refine ⟨fun handle there => ?_, fun handle there text e failed => ?_, ?_⟩
  · exact ⟨_, Caches.cache?_of_single single there, follows.texts_eq, follows.size_eq⟩
  · exact Caches.step_get_of_error single follows.sound there failed
  · intro handle there text sentence read next more m' run' handle' there'
    -- After the question there is still one cache, and the run goes on from it.
    obtain ⟨_, stores, handles⟩ := Caches.step_through single there (.get text)
    have single' := Caches.stores_of_runs stores run'
    have follows' := (follows.get handle text).foldl_after more
    obtain ⟨first, given, same⟩ := follows.sound.get_of_ok read
    obtain ⟨second, given', same'⟩ := follows'.sound.get_of_ok read
    refine ⟨first, second, ?_, ?_, same, same', ?_⟩
    · rw [Caches.fetch_of_single single there, given]
    · rw [Caches.fetch_of_single single' there']
      exact congrArg some given'
    · have kept := Caches.cache?_of_single stores (handles ▸ there)
      -- Handles lead to the one cache on both sides.
      rw [kept]
      refine (Cache.serial_eq_iff follows.numbered given given').trans (and_congr_right fun _ => ?_)
      exact ⟨fun mem => ⟨_, rfl, mem⟩, fun ⟨_, same, mem⟩ => Option.some.inj same ▸ mem⟩

/-- A cache for one text, with two handles: the second text finds no room, and the tree of the first one is given out
again through the other handle. -/
theorem contents_of_full_cache :
    let m₀ := Caches.none.create 1
    let steps : List HandleStep := [.get 0 "a == 1", .clone 0, .get 1 "b == 2"]
    let e : ConditionError := .grammatical (.unexpectedEnd 4 .literal)
    ∃ m, m₀.Runs steps m ∧ (∃ c, m.cache? 1 = some c ∧ c.texts = ["a == 1"] ∧ c.size = 1) ∧
      m.step (.through 0 (.get "a ==")) = (.reply (.sentence (.error e)), m) ∧
      ∃ first second, m₀.fetch 0 "a == 1" = some (.ok first) ∧ m.fetch 1 "a == 1" = some (.ok second) ∧
        first.serial = second.serial := by
  intro m₀ steps e
  let m₁ := (m₀.step (.through 0 (.get "a == 1"))).2
  let m₂ := (m₁.step (.clone 0)).2
  have there₀ : 0 < m₀.handles.length := by decide
  have there₁ : 0 < m₁.handles.length := by decide +kernel
  have there₂ : 1 < m₂.handles.length := by decide +kernel
  have rest : m₁.Runs [.clone 0, .get 1 "b == 2"] _ := .step (.clone 0) there₁ (.step _ there₂ (.none _))
  have run : m₀.Runs steps _ := .step (.get 0 "a == 1") there₀ rest
  obtain ⟨contents, failing, _⟩ := contents_of_history run
  refine ⟨_, run, ?_, failing 0 (by decide +kernel) "a ==" e (by with_unfolding_all rfl), ?_⟩
  · obtain ⟨c, found, texts, size⟩ := contents 1 (by decide +kernel)
    have asked : (readableSinceClear steps).eraseDups = ["a == 1", "b == 2"] := by decide +kernel
    rw [asked] at texts size
    exact ⟨c, found, texts, size⟩
  · have read : parseCondition "a == 1" = .ok (.simple ⟨"a", .eq, "1"⟩) := by with_unfolding_all rfl
    obtain ⟨_, _, identity⟩ := contents_of_history (.none m₀)
    obtain ⟨first, second, given, given', _, _, same⟩ :=
      identity 0 there₀ "a == 1" _ read _ _ rest 1 (by decide +kernel)
    obtain ⟨kept, _, _⟩ := contents_of_history (.step (.get 0 "a == 1") there₀ (.none m₁))
    obtain ⟨c, found, texts, _⟩ := kept 0 there₁
    have mem : "a == 1" ∈ c.texts := by
      rw [texts]
      decide +kernel
    have keep : ∀ s ∈ [HandleStep.clone 0, .get 1 "b == 2"], s.isClear = false := by simp [HandleStep.isClear]
    exact ⟨first, second, given, given', same.2 ⟨keep, c, found, mem⟩⟩

end SurveyFlow
