import SurveyFlow.Condition.Value

/-!
# Conditions: sets of answers

An answer set holds at most one answer for each identifier: a value, or the fact that the prompt was not
shown. Recording an answer replaces an earlier one (`get?_insert`). As a context it never fails, and an
identifier without an entry is unknown.
-/

namespace SurveyFlow

/-- Answers by identifier, the latest entry first. -/
structure AnswerSet where
  entries : List (String × Answer)
  /-- No identifier has two entries. -/
  nodup : (entries.map Prod.fst).Nodup

namespace AnswerSet

/-- No answers. -/
def empty : AnswerSet :=
  ⟨[], List.nodup_nil⟩

/-- The answer recorded for an identifier. -/
def get? (s : AnswerSet) (identifier : String) : Option Answer :=
  s.entries.lookup identifier

/-- Records an answer in place of an earlier one. -/
def insert (s : AnswerSet) (identifier : String) (answer : Answer) : AnswerSet where
  entries := (identifier, answer) :: s.entries.filter fun e => e.1 != identifier
  nodup := by
    rw [List.map_cons, List.nodup_cons]
    refine ⟨?_, ?_⟩
    · intro mem
      obtain ⟨e, kept, same⟩ := List.mem_map.1 mem
      have := (List.mem_filter.1 kept).2
      simp [same] at this
    · exact s.nodup.sublist (List.filter_sublist.map Prod.fst)

/-- Records that a prompt was not shown. -/
def hide (s : AnswerSet) (identifier : String) : AnswerSet :=
  s.insert identifier .notDisplayed

/-- The number of identifiers with an answer. -/
def size (s : AnswerSet) : Nat :=
  s.entries.length

/-- The set as a context. -/
def resolve (s : AnswerSet) : Context := fun identifier =>
  .ok (match s.get? identifier with
    | some answer => .known answer
    | none => .unknown)

@[simp] theorem get?_empty (identifier : String) : empty.get? identifier = none := rfl

/-- Recording an answer changes the answer to its identifier and to no other. -/
theorem get?_insert (s : AnswerSet) (identifier other : String) (answer : Answer) :
    (s.insert identifier answer).get? other = if other = identifier then some answer else s.get? other := by
  by_cases same : other = identifier
  · simp [get?, insert, same]
  · rw [if_neg same, get?, get?, insert, List.lookup_cons, beq_eq_false_iff_ne.2 same]
    change List.lookup other (s.entries.filter _) = _
    -- The entries that were left out have another identifier.
    induction s.entries with
    | nil => rfl
    | cons e entries ih =>
      by_cases dropped : e.1 = identifier
      · have differs : (other == e.1) = false := by simpa [dropped] using same
        rw [List.filter_cons_of_neg (by simp [dropped]), ih, List.lookup_cons, differs]
      · rw [List.filter_cons_of_pos (by simpa using dropped), List.lookup_cons, List.lookup_cons, ih]

/-- Two answer sets stay side by side when each records an answer to one identifier. -/
theorem rel_get?_insert {R : Answer → Answer → Prop} {s t : AnswerSet}
    (h : ∀ id, Option.Rel R (s.get? id) (t.get? id)) (id : String) {a b : Answer} (related : R a b) (other : String) :
    Option.Rel R ((s.insert id a).get? other) ((t.insert id b).get? other) := by
  rw [get?_insert, get?_insert]
  by_cases same : other = id
  · rw [if_pos same, if_pos same]
    exact .some related
  · rw [if_neg same, if_neg same]
    exact h other

end AnswerSet

end SurveyFlow
