import SurveyFlow.Proofs.Survey.Replay

/-!
# Caches that are shared

A cache is used through handles. Whoever clones a handle has another one to the same cache, and so what is kept or
forgotten through one of them is so for all, whether they ask for sentences themselves or belong to walks of any
surveys and settings. None of them can tell: the replies are those of users who share nothing, each text being read
anew and each walk having a new cache (`replies_eq_fresh`). The memory of the first ones is related to the second ones,
who only count handles, by `Caches.Sound`.
-/

namespace SurveyFlow

/-! ## One cache -/

/-- What a cache is used for. -/
inductive CacheUse where
  | get (text : String)
  | clear
  | walk (settings : Settings) (survey : Definition) (response : Response)

inductive CacheReply where
  | sentence (result : Except ConditionError Sentence)
  | report (result : Except SurveyError Report)
  | cleared

namespace CacheUse

/-- The reply of a cache, and the cache after it. -/
def step (c : Cache) : CacheUse → CacheReply × Cache
  | get text =>
    let (parsed, c) := c.get text
    (.sentence (parsed.map ParsedCondition.sentence), c)
  | clear => (.cleared, c.clear)
  | walk settings survey response =>
    let (result, c) := SurveyFlow.walk settings.onError c survey response
    (.report result, c)

/-- The reply where nothing is shared; a walk has a new cache of the given capacity. -/
def freshReply (capacity : Nat) : CacheUse → CacheReply
  | get text => .sentence (parseCondition text)
  | clear => .cleared
  | walk settings survey response => .report (SurveyFlow.walk settings.onError (.new capacity) survey response).1

end CacheUse

/-- Sound caches are alike to a walk, whatever they keep. -/
theorem walk_eq_of_sound {c c' : Cache} (sound : c.Sound) (sound' : c'.Sound) (policy : Policy) (d : Definition)
    (r : Response) : (walk policy c d r).1 = (walk policy c' d r).1 := by
  by_cases own : r.survey = d.id
  · rw [walk_eq_replay policy r sound own, walk_eq_replay policy r sound' own]
  · -- The upload of another survey is refused before the cache is looked at.
    have foreign : d.id ≠ r.survey := Ne.symm own
    rw [walk, walk, if_neg foreign, if_neg foreign]

/-- One use of a sound cache is answered as by a new one, and leaves it sound. -/
theorem step_of_sound {c : Cache} (sound : c.Sound) (capacity : Nat) (use : CacheUse) :
    (use.step c).1 = use.freshReply capacity ∧ (use.step c).2.Sound := by
  -- Sentences are those of a new parse, and a walk never sees what the cache keeps.
  cases use with
  | get text =>
    have same := sound.get_eq text
    exact ⟨congrArg CacheReply.sentence same, sound.get text⟩
  | clear => exact ⟨rfl, Cache.sound_clear c⟩
  | walk settings survey response =>
    have same := walk_eq_of_sound sound (Cache.sound_new capacity) settings.onError survey response
    exact ⟨congrArg CacheReply.report same, sound.walk settings.onError survey response⟩

/-! ## Handles -/

/-- The caches in use, and for each handle the place of its cache among them. -/
structure Caches where
  stores : List Cache
  handles : List Nat
  /-- Every handle has a cache. -/
  valid : ∀ place ∈ handles, place < stores.length

inductive HandleUse where
  /-- A new cache, with its first handle. -/
  | create (capacity : Nat)
  | clone (handle : Nat)
  | through (handle : Nat) (use : CacheUse)

inductive HandleReply where
  /-- The number of a new handle. -/
  | made (handle : Nat)
  | reply (reply : CacheReply)
  | noSuchHandle

namespace Caches

def none : Caches :=
  ⟨[], [], nofun⟩

/-- The place of the cache of a handle. -/
def place? (m : Caches) (handle : Nat) : Option (Fin m.stores.length) :=
  if h : handle < m.handles.length then some ⟨m.handles[handle], m.valid _ (List.getElem_mem h)⟩ else .none

def create (m : Caches) (capacity : Nat) : Caches where
  stores := m.stores ++ [.new capacity]
  handles := m.handles ++ [m.stores.length]
  valid := by
    intro place mem
    rw [List.length_append, List.length_singleton]
    rcases List.mem_append.1 mem with old | new
    · exact Nat.lt_succ_of_lt (m.valid place old)
    · rw [List.mem_singleton.1 new]
      exact Nat.lt_succ_self _

/-- One more handle to the cache at a place. -/
def share (m : Caches) (place : Fin m.stores.length) : Caches where
  stores := m.stores
  handles := m.handles ++ [place.val]
  valid := by
    intro place' mem
    rcases List.mem_append.1 mem with old | new
    · exact m.valid place' old
    · rw [List.mem_singleton.1 new]
      exact place.isLt

/-- The cache at a place becomes another one, for all of its handles. -/
def set (m : Caches) (place : Fin m.stores.length) (c : Cache) : Caches where
  stores := m.stores.set place.val c
  handles := m.handles
  valid := by
    rw [List.length_set]
    exact m.valid

/-- The next reply, and the caches after it. -/
def step (m : Caches) : HandleUse → HandleReply × Caches
  | .create capacity => (.made m.handles.length, m.create capacity)
  | .clone handle =>
    match m.place? handle with
    | .none => (.noSuchHandle, m)
    | some place => (.made m.handles.length, m.share place)
  | .through handle use =>
    match m.place? handle with
    | .none => (.noSuchHandle, m)
    | some place =>
      let (reply, c) := use.step m.stores[place]
      (.reply reply, m.set place c)

def run (m : Caches) : List HandleUse → List HandleReply
  | [] => []
  | use :: uses => (m.step use).1 :: (m.step use).2.run uses

end Caches

/-! ## Users who share nothing -/

/-- The next reply to users with so many handles who share nothing, and the number of handles after it. -/
def freshStep (capacity made : Nat) : HandleUse → HandleReply × Nat
  | .create _ => (.made made, made + 1)
  | .clone handle => if handle < made then (.made made, made + 1) else (.noSuchHandle, made)
  | .through handle use => (if handle < made then .reply (use.freshReply capacity) else .noSuchHandle, made)

def freshRun (capacity made : Nat) : List HandleUse → List HandleReply
  | [] => []
  | use :: uses => (freshStep capacity made use).1 :: freshRun capacity (freshStep capacity made use).2 uses

/-! ## They have the same replies -/

/-- All caches are sound, and there are so many handles. -/
structure Caches.Sound (m : Caches) (made : Nat) : Prop where
  stores : ∀ c ∈ m.stores, c.Sound
  handles : m.handles.length = made

namespace Caches.Sound

variable {m : Caches} {made : Nat}

theorem none : Caches.none.Sound 0 :=
  ⟨nofun, rfl⟩

theorem create (sound : m.Sound made) (capacity : Nat) : (m.create capacity).Sound (made + 1) := by
  constructor
  · intro c mem
    rcases List.mem_append.1 mem with old | new
    · exact sound.stores c old
    · rw [List.mem_singleton.1 new]
      exact Cache.sound_new capacity
  · rw [← sound.handles]
    exact List.length_append

theorem share (sound : m.Sound made) (place : Fin m.stores.length) : (m.share place).Sound (made + 1) := by
  refine ⟨sound.stores, ?_⟩
  rw [← sound.handles]
  exact List.length_append

theorem set (sound : m.Sound made) (place : Fin m.stores.length) {c : Cache} (new : c.Sound) :
    (m.set place c).Sound made := by
  refine ⟨fun c' mem => ?_, sound.handles⟩
  rcases List.mem_or_eq_of_mem_set mem with old | rfl
  · exact sound.stores c' old
  · exact new

/-- A use through a handle is answered as by a new cache. -/
theorem through (sound : m.Sound made) (place : Fin m.stores.length) (capacity : Nat) (use : CacheUse) :
    (use.step m.stores[place]).1 = use.freshReply capacity ∧ (m.set place (use.step m.stores[place]).2).Sound made := by
  have kept : m.stores[place].Sound := sound.stores _ (List.getElem_mem place.isLt)
  obtain ⟨same, after⟩ := step_of_sound kept capacity use
  exact ⟨same, sound.set place after⟩

/-- One step: the replies are the same, and the caches stay sound. -/
theorem step (sound : m.Sound made) (capacity : Nat) (use : HandleUse) :
    (m.step use).1 = (freshStep capacity made use).1 ∧ (m.step use).2.Sound (freshStep capacity made use).2 := by
  have count : m.handles.length = made := sound.handles
  have absent : ∀ handle, ¬ handle < made → m.place? handle = .none := fun _ h => dif_neg (count ▸ h)
  cases use with
  | create capacity' =>
    refine ⟨?_, sound.create capacity'⟩
    show HandleReply.made m.handles.length = .made made
    rw [count]
  | clone handle =>
    unfold Caches.step freshStep
    by_cases there : handle < made
    · have place : m.place? handle = some _ := dif_pos (count ▸ there)
      simp only [place, if_pos there, count, true_and]
      exact sound.share _
    · simp only [absent handle there, if_neg there, true_and]
      exact sound
  | through handle use =>
    -- Other handles to the same cache find it changed, but sound as before.
    unfold Caches.step freshStep
    by_cases there : handle < made
    · have place : m.place? handle = some _ := dif_pos (count ▸ there)
      simp only [place, if_pos there]
      exact ⟨congrArg HandleReply.reply (sound.through _ capacity use).1, (sound.through _ capacity use).2⟩
    · simp only [absent handle there, if_neg there, true_and]
      exact sound

/-- A run. Induction on the uses, the caches being sound before each of them. -/
theorem run (sound : m.Sound made) (capacity : Nat) (uses : List HandleUse) :
    m.run uses = freshRun capacity made uses := by
  induction uses generalizing m made with
  | nil => rfl
  | cons use uses ih =>
    obtain ⟨reply, after⟩ := sound.step capacity use
    have replies := ih after
    exact List.cons_eq_cons.2 ⟨reply, replies⟩

end Caches.Sound

/-- **A shared cache is invisible.** Whatever caches are made, and whichever of their handles are cloned and used in
any order, every reply is that of users who share nothing, a walk having a new cache of any capacity. -/
theorem replies_eq_fresh (capacity : Nat) (uses : List HandleUse) :
    Caches.none.run uses = freshRun capacity 0 uses :=
  Caches.Sound.none.run capacity uses

end SurveyFlow
