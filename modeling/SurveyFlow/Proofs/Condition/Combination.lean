import SurveyFlow.Proofs.Condition.Recursion
import SurveyFlow.Proofs.Condition.Written

/-!
# Conditions joined as text

Two conditions are joined by writing each between parentheses, with a conjunction between them. What is read from this
text is the chain of the two groups, if there is a level left for their parentheses (`parseCondition_joined`), and it
has the value that the conjunction gives to theirs (`joined_follows_both`).
-/

namespace SurveyFlow

/-- The text of two conditions joined by a conjunction, each between parentheses. -/
def joined (a : String) (c : Conjunction) (b : String) : String :=
  "(" ++ a ++ ") " ++ c.word ++ " (" ++ b ++ ")"

/-! ## The sentence of the text -/

/-- The joined text is that of a chain of two groups. -/
theorem writtenAs_joined {a b : String} {A B : Sentence} (c : Conjunction) (ha : A.WrittenAs a.toList)
    (hb : B.WrittenAs b.toList) : (Sentence.groupedThen A c (.grouped B)).WrittenAs (joined a c b).toList := by
  have split : (joined a c b).toList =
      (['('] ++ (a.toList ++ [')'])) ++ ([' '] ++ (c.word.toList ++ ([' '] ++ (['('] ++ (b.toList ++ [')']))))) := by
    simp [joined, String.toList_append]
  rw [split]
  exact Clause.writtenAs_link (Clause.writtenAs_group ha) (Clause.writtenAs_alone (Clause.writtenAs_group hb))

/-- Two groups with one conjunction keep to the limits, if they leave a level for their parentheses. -/
theorem withinLimits_of_groups {A B : Sentence} (c : Conjunction) (hA : A.WithinLimits) (hB : B.WithinLimits) :
    (Sentence.groupedThen A c (.grouped B)).WithinLimits ↔ A.depth < maxDepth - 1 ∧ B.depth < maxDepth - 1 := by
  -- One conjunction is never too much, and the chains inside keep to the limit by themselves.
  have chains : (Sentence.groupedThen A c (.grouped B)).ChainsWithin maxChain :=
    ⟨⟨Sentence.links_le_of_chainsWithin hA.2, hA.2⟩, (by decide : 0 + 1 ≤ maxChain),
      Sentence.links_le_of_chainsWithin hB.2, hB.2⟩
  have deep : (Sentence.groupedThen A c (.grouped B)).depth = max (A.depth + 1) (B.depth + 1) := rfl
  constructor
  · rintro ⟨within, -⟩
    rw [deep] at within
    omega
  · rintro ⟨roomA, roomB⟩
    refine ⟨?_, chains⟩
    rw [deep]
    omega

/-- **Joined conditions are read** exactly if each leaves a level for its parentheses. -/
theorem parseCondition_joined {a b : String} {A B : Sentence} (ha : parseCondition a = .ok A)
    (hb : parseCondition b = .ok B) (c : Conjunction) :
    parseCondition (joined a c b) = .ok (.groupedThen A c (.grouped B)) ↔
      A.depth < maxDepth - 1 ∧ B.depth < maxDepth - 1 := by
  obtain ⟨writtenA, withinA⟩ := parseCondition_eq_ok_iff_writtenAs.1 ha
  obtain ⟨writtenB, withinB⟩ := parseCondition_eq_ok_iff_writtenAs.1 hb
  rw [parseCondition_eq_ok_iff_writtenAs, withinLimits_of_groups c withinA withinB]
  exact and_iff_right (writtenAs_joined c writtenA writtenB)

/-! ## Its value -/

/-- A text that can be read has the value of its sentence. -/
theorem evaluateCondition_of_parse {text : String} {s : Sentence} (h : parseCondition text = .ok s) (ctx : Context) :
    evaluateCondition ctx text = ((s.value ctx).result.mapError .evaluation, (s.value ctx).lookups) := by
  rw [← s.evaluate_eq_value ctx, evaluateCondition, h]

/-- **Joined conditions are read as a chain of two groups**, exactly if each leaves a level for its parentheses, and
the value of the first one decides whether the second one counts. -/
theorem joined_follows_both {a b : String} {A B : Sentence} (ha : parseCondition a = .ok A)
    (hb : parseCondition b = .ok B) (c : Conjunction) :
    (parseCondition (joined a c b) = .ok (.groupedThen A c (.grouped B)) ↔
        A.depth < maxDepth - 1 ∧ B.depth < maxDepth - 1) ∧
      (A.depth < maxDepth - 1 → B.depth < maxDepth - 1 → ∀ ctx : Context,
        evaluateCondition ctx (joined a c b) =
          match c, (evaluateCondition ctx a).1 with
          | _, .error _ | .and, .ok false | .or, .ok true => evaluateCondition ctx a
          | .and, .ok true | .or, .ok false =>
            ((evaluateCondition ctx b).1, (evaluateCondition ctx a).2 ++ (evaluateCondition ctx b).2)) := by
  refine ⟨parseCondition_joined ha hb c, fun roomA roomB ctx => ?_⟩
  have read := (parseCondition_joined ha hb c).2 ⟨roomA, roomB⟩
  rw [evaluateCondition_of_parse read, evaluateCondition_of_parse ha, evaluateCondition_of_parse hb,
    Sentence.value, Sentence.value]
  -- What is left is the rule for a chain, whose cases are those of the conjunction and of the first value.
  obtain ⟨result, asked⟩ := A.value ctx
  cases result with
  | error e => cases c <;> rfl
  | ok left => cases c <;> cases left <;> rfl

/-- A literal may end with a backslash before the parenthesis, and a quoted one may hold a parenthesis. -/
theorem joined_follows_both_backslash :
    let a := " pet == a\\"
    let b := "(food==\"b) or\")"
    let A : Sentence := .simple ⟨"pet", .eq, "a\\"⟩
    let B : Sentence := .grouped (.simple ⟨"food", .eq, "b) or"⟩)
    let ctx : Context := fun i => if i = "pet" then .ok (.known .notDisplayed) else .error "offline"
    (parseCondition a = .ok A ∧ parseCondition b = .ok B ∧ A.depth < maxDepth - 1 ∧ B.depth < maxDepth - 1) ∧
      joined a .or b = "( pet == a\\) or ((food==\"b) or\"))" ∧
      parseCondition (joined a .or b) = .ok (.groupedThen A .or (.grouped B)) ∧
      evaluateCondition ctx (joined a .or b) =
        (.error (.evaluation (.contextFailure "offline")), ["pet", "food"]) := by
  intro a b A B ctx
  have tokensA : tokenize " pet == a\\" = .ok [⟨.word, "pet", 1⟩, ⟨.comparator .eq, "==", 5⟩, ⟨.word, "a\\", 8⟩,
      ⟨.endOfInput, "", 10⟩] := by with_unfolding_all rfl
  have tokensB : tokenize "(food==\"b) or\")" = .ok [⟨.openParen, "(", 0⟩, ⟨.word, "food", 1⟩,
      ⟨.comparator .eq, "==", 5⟩, ⟨.quoted, "b) or", 7⟩, ⟨.closeParen, ")", 14⟩, ⟨.endOfInput, "", 15⟩] := by
    with_unfolding_all rfl
  have readA : parseCondition a = .ok A := parseCondition_eq_ok_iff.2 ⟨_, tokensA, rfl⟩
  have readB : parseCondition b = .ok B := parseCondition_eq_ok_iff.2 ⟨_, tokensB, rfl⟩
  have roomA : A.depth < maxDepth - 1 := by decide
  have roomB : B.depth < maxDepth - 1 := by decide
  have valueA : evaluateCondition ctx a = (.ok false, ["pet"]) := evaluateCondition_of_parse readA ctx
  have valueB : evaluateCondition ctx b = (.error (.evaluation (.contextFailure "offline")), ["food"]) :=
    evaluateCondition_of_parse readB ctx
  obtain ⟨reads, follows⟩ := joined_follows_both readA readB .or
  refine ⟨⟨readA, readB, roomA, roomB⟩, by decide +kernel, reads.2 ⟨roomA, roomB⟩, ?_⟩
  rw [follows roomA roomB, valueA, valueB]
  rfl

end SurveyFlow
