import SurveyFlow.Condition.Evaluation

/-!
# Conditions: the cache of read conditions

A cache keeps the sentences of condition texts that have been asked for, up to its capacity; a full cache
still reads new texts but does not keep them. Every reading has a serial number, and a kept sentence keeps
the number of its reading, so two answers are one and the same reading exactly if their numbers agree.
-/

namespace SurveyFlow

/-- A sentence and the reading that it comes from. -/
structure ParsedCondition where
  sentence : Sentence
  serial : Nat
deriving DecidableEq

/-- The kept sentences by their text. -/
structure Cache where
  capacity : Nat
  entries : List (String × ParsedCondition)
  /-- How many texts have been read; the serial number of the next reading. -/
  readings : Nat

namespace Cache

/-- A cache that will keep at most `capacity` sentences. -/
def new (capacity : Nat) : Cache :=
  ⟨capacity, [], 0⟩

/-- The number of kept sentences. -/
def size (c : Cache) : Nat :=
  c.entries.length

/-- Forgets every kept sentence. -/
def clear (c : Cache) : Cache :=
  { c with entries := [] }

/-- The sentence of a text, kept or newly read, and the cache after the question. A text that cannot be
read leaves the cache as it was. -/
def get (c : Cache) (text : String) : Except ConditionError ParsedCondition × Cache :=
  match c.entries.lookup text with
  | some kept => (.ok kept, c)
  | none =>
    match parseCondition text with
    | .error e => (.error e, c)
    | .ok sentence =>
      let parsed : ParsedCondition := ⟨sentence, c.readings⟩
      let entries := if c.size < c.capacity then (text, parsed) :: c.entries else c.entries
      (.ok parsed, { c with entries, readings := c.readings + 1 })

end Cache

end SurveyFlow
