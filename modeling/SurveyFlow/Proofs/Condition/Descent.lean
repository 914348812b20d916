import SurveyFlow.Proofs.Condition.Parsing

/-!
# Descent over a cursor

The grammar can also be read by recursive descent. One function takes a clause off the front of the tokens, another
a chain of them, and a group calls back for the sentence in it, one level deeper. The descent may be given any tokens,
with or without an end marker: behind the last token it sees a marker that stands in, as often as it looks.

`descend` is that reading, and `descend_eq_parse` says that it is `parse`. What the descent keeps on its call stack,
the chains around the open groups, the machine keeps in its state. So each function is matched with the machine from
where the function begins, whatever the chains around are, and what the machine does from there is what the function
does and then what its callers do with the result (`Reading.resume_clause`, `Reading.resume_sentence`,
`Reading.resume_chain`).

The machine never goes on behind an end marker, so the descent does not either (`parse_sees_to_first_marker`).
-/

namespace SurveyFlow

namespace Descent

/-- What is left of the tokens behind something that was read off their front. -/
abbrev Rest (tokens : List Token) :=
  { rest : List Token // rest.length < tokens.length }

/-- What is left of fewer tokens is left of all. -/
def Rest.ofFewer {fewer ts : List Token} (h : fewer.length < ts.length) (rest : Rest fewer) : Rest ts :=
  ⟨rest.1, Nat.lt_trans rest.2 h⟩

/-- Without the token at the front. -/
def Rest.tail {ts : List Token} (rest : Rest ts) : Rest ts :=
  ⟨rest.1.tail, Nat.lt_of_le_of_lt (by simp) rest.2⟩

variable (standIn : Nat)

/-- The token at the front. Behind the last one a marker stands in, which is never taken off. -/
def front : List Token → Token
  | [] => Token.endAt standIn
  | t :: _ => t

/-- A token that is no end is taken off the front of some tokens. -/
theorem length_tail_lt {ts : List Token} {kind : TokenKind} (h : (front standIn ts).kind = kind)
    (plain : kind ≠ .endOfInput) : ts.tail.length < ts.length := by
  cases ts with
  | nil => exact absurd h.symm plain
  | cons t ts => exact Nat.lt_succ_self ts.length

/-- Three tokens: an identifier, a comparator and a literal. -/
def comparison (ts : List Token) : Except SyntaxError (Expression × Rest ts) :=
  let name := front standIn ts
  if named : name.kind = .word then
    let symbol := front standIn ts.tail
    match symbol.kind with
    | .comparator c =>
      let literal := front standIn ts.tail.tail
      if literal.kind = .word ∨ literal.kind = .quoted then
        .ok (⟨name.text, c, literal.text⟩, Rest.tail (Rest.tail ⟨ts.tail, length_tail_lt standIn named (by decide)⟩))
      else .error (literal.unexpected .literal)
    | _ => .error (symbol.unexpected .comparator)
  else .error (name.unexpected .clause)

mutual

/-- A comparison, or a sentence between parentheses. -/
def clause (depth : Nat) (ts : List Token) : Except SyntaxError (Clause × Rest ts) :=
  if opens : (front standIn ts).kind = .openParen then do
    have shorter : ts.tail.length < ts.length := length_tail_lt standIn opens (by decide)
    let (inner, rest) ← sentence (depth + 1) ts.tail
    let closing := front standIn rest.1
    if closing.kind = .closeParen then .ok (.group inner, rest.tail.ofFewer shorter)
    else .error (closing.unexpected .closingParen)
  else do
    let (e, rest) ← comparison standIn ts
    .ok (.comparison e, rest)
termination_by (ts.length, 0)

/-- A chain, if it is not too deep. -/
def sentence (depth : Nat) (ts : List Token) : Except SyntaxError (Sentence × Rest ts) :=
  if maxDepth ≤ depth then .error (.nestingTooDeep (front standIn ts).position maxDepth)
  else chain depth [] ts
termination_by (ts.length, 2)

/-- A clause, and more of them as long as conjunctions follow. The links before it are collected, and the chain is
nested to the right when it ends. -/
def chain (depth : Nat) (links : OpenChain) (ts : List Token) : Except SyntaxError (Sentence × Rest ts) := do
  let (last, rest) ← clause depth ts
  let next := front standIn rest.1
  match next.kind with
  | .conjunction c =>
    if maxChain ≤ links.length then .error (.chainTooLong next.position maxChain)
    else do
      let (s, behind) ← chain depth ((last, c) :: links) rest.tail.1
      .ok (s, behind.ofFewer rest.tail.2)
  | _ => .ok (links.close last, rest)
termination_by (ts.length, 1)
decreasing_by
  · exact Prod.Lex.right _ (by omega)
  · exact Prod.Lex.left _ _ rest.tail.2

end

end Descent

/-- Reads a sentence by recursive descent, from a cursor that stays behind the last token. -/
def descend (tokens : List Token) : Except SyntaxError Sentence := do
  let (s, rest) ← Descent.sentence (endPosition tokens) 0 tokens
  let next := Descent.front (endPosition tokens) rest.1
  if next.kind = .endOfInput then .ok s else .error (.trailingInput next.position next.text)

/-! ## The machine on the same tokens -/

namespace Reading

/-- The reading goes on with the tokens up to the first end marker, or up to the marker that stands in behind them. -/
def resume (standIn : Nat) : Reading → List Token → Except SyntaxError Sentence
  | r, [] => r.finish (Token.endAt standIn)
  | r, t :: ts =>
    if t.kind = .endOfInput then r.finish (Token.endAt t.position)
    else r.step t >>= fun q => q.resume standIn ts

/-- The reading waits for something, so the tokens may not end here. -/
def Waits (r : Reading) : Prop :=
  ∀ last, r.next = .link last → r.around ≠ []

/-- A reading inside a clause, or where one is due, waits. -/
theorem waits_of_next (next : Next) (busy : ∀ last, next ≠ .link last) (chain : OpenChain)
    (around : List OpenChain) : (⟨next, chain, around⟩ : Reading).Waits :=
  fun last same => absurd same (busy last)

/-- A reading that waits refuses a marker as a token with the error with which it refuses the end. -/
theorem step_of_marker {r : Reading} {t : Token} (ends : t.kind = .endOfInput) (waits : r.Waits) :
    ∃ e, r.step t = .error e ∧ r.finish (Token.endAt t.position) = .error e := by
  -- What is expected is named in the same way at either place.
  have unexpected : ∀ expected, t.unexpected expected = (Token.endAt t.position).unexpected expected := by
    intro expected
    simp only [Token.unexpected, ends, Token.endAt, if_true]
  obtain ⟨next, chain, around⟩ := r
  cases next with
  | clause | comparator _ | literal _ _ =>
    refine ⟨_, ?_, rfl⟩
    simp only [step, ends, unexpected]
  | link last =>
    cases around with
    | nil => exact absurd rfl (waits last rfl)
    | cons outer around =>
      refine ⟨_, ?_, rfl⟩
      simp only [step, stepLink, ends, unexpected]
  | nothing => exact ⟨_, rfl, rfl⟩

variable (standIn : Nat)

/-- **Where more must follow, the end is a token like any other.** -/
theorem resume_eq_step {r : Reading} (waits : r.Waits) (ts : List Token) :
    r.resume standIn ts = r.step (Descent.front standIn ts) >>= fun q => q.resume standIn ts.tail := by
  cases ts with
  | nil =>
    obtain ⟨e, stops, ends⟩ := step_of_marker (t := Token.endAt standIn) rfl waits
    show r.finish _ = r.step (Token.endAt standIn) >>= _
    rw [stops]
    exact ends
  | cons t ts =>
    rw [resume]
    split
    · next kind =>
      obtain ⟨e, stops, ends⟩ := step_of_marker kind waits
      show r.finish _ = r.step t >>= _
      rw [stops]
      exact ends
    · rfl

/-! ## The descent and the machine -/

/-- What a finished sentence is for the groups around it, and what is read then. -/
def leave (around : List OpenChain) (s : Sentence) (ts : List Token) : Except SyntaxError Sentence :=
  let next := Descent.front standIn ts
  match around with
  | [] => if next.kind = .endOfInput then .ok s else .error (.trailingInput next.position next.text)
  | outer :: around =>
    if next.kind = .closeParen then (⟨.link (.group s), outer, around⟩ : Reading).resume standIn ts.tail
    else .error (next.unexpected .closingParen)

/-- A conjunction behind a clause. -/
theorem resume_joined {last : Clause} {chain : OpenChain} {around : List OpenChain} {ts : List Token} {c : Conjunction}
    (joins : (Descent.front standIn ts).kind = .conjunction c) :
    (⟨.link last, chain, around⟩ : Reading).resume standIn ts =
      if maxChain ≤ chain.length then .error (.chainTooLong (Descent.front standIn ts).position maxChain)
      else (⟨.clause, (last, c) :: chain, around⟩ : Reading).resume standIn ts.tail := by
  cases ts with
  | nil => cases joins
  | cons t ts =>
    have joint : t.kind = .conjunction c := joins
    rw [resume, if_neg (by simp [joint])]
    simp only [step, stepLink, joint]
    by_cases full : maxChain ≤ chain.length
    · rw [if_pos full, if_neg (Nat.not_lt_of_le full)]
      rfl
    · rw [if_neg full, if_pos (Nat.lt_of_not_le full)]
      rfl

/-- Anything else behind a clause ends its chain. -/
theorem resume_ended {last : Clause} {chain : OpenChain} {around : List OpenChain} {ts : List Token}
    (ended : ∀ c, (Descent.front standIn ts).kind ≠ .conjunction c) :
    (⟨.link last, chain, around⟩ : Reading).resume standIn ts = leave standIn around (chain.close last) ts := by
  cases around with
  -- At the top level anything but the end is too much.
  | nil =>
    cases ts with
    | nil => rfl
    | cons t ts =>
      unfold leave
      rw [resume]
      dsimp only [Descent.front]
      split
      · rfl
      · simp only [step, stepLink]
        split
        · next c kind => exact absurd kind (ended c)
        · contradiction
        · rfl
        · contradiction
  | cons outer around =>
    -- In a group a parenthesis must follow, and an end marker is refused as any other token is.
    rw [resume_eq_step standIn fun _ _ => List.cons_ne_nil outer around]
    unfold leave
    dsimp only
    split
    · next closes =>
      simp only [step, stepLink, closes]
      rfl
    · next other =>
      have refused : (⟨.link last, chain, outer :: around⟩ : Reading).step (Descent.front standIn ts) =
          .error ((Descent.front standIn ts).unexpected .closingParen) := by
        simp only [step, stepLink]
      rw [refused]
      rfl

/-- A clause that is no group. -/
theorem resume_comparison {chain : OpenChain} {around : List OpenChain} {ts : List Token}
    (other : (Descent.front standIn ts).kind ≠ .openParen) :
    (⟨.clause, chain, around⟩ : Reading).resume standIn ts =
      Descent.comparison standIn ts >>= fun x =>
        (⟨.link (.comparison x.1), chain, around⟩ : Reading).resume standIn x.2.1 := by
  unfold Descent.comparison
  rw [resume_eq_step standIn (waits_of_next .clause (by simp) chain around)]
  by_cases named : (Descent.front standIn ts).kind = .word
  · have first : (⟨.clause, chain, around⟩ : Reading).step (Descent.front standIn ts) =
        .ok ⟨.comparator (Descent.front standIn ts).text, chain, around⟩ := by
      simp only [step, named]
    rw [first]
    simp only [dif_pos named]
    show Reading.resume standIn ⟨.comparator _, chain, around⟩ ts.tail = _
    rw [resume_eq_step standIn (waits_of_next (.comparator _) (by simp) chain around)]
    -- Behind the identifier a comparator is due; what else is there is refused by both.
    cases symbol : (Descent.front standIn ts.tail).kind with
    | comparator c =>
      simp only [step, symbol]
      show Reading.resume standIn ⟨.literal _ c, chain, around⟩ ts.tail.tail = _
      rw [resume_eq_step standIn (waits_of_next (.literal _ c) (by simp) chain around)]
      -- Behind the comparator a literal is due.
      cases literal : (Descent.front standIn ts.tail.tail).kind with
      | word | quoted =>
        simp only [step, literal]
        rfl
      | comparator _ | conjunction _ | openParen | closeParen | endOfInput =>
        simp only [step, literal]
        rfl
    | word | quoted | conjunction _ | openParen | closeParen | endOfInput =>
      simp only [step, symbol]
      rfl
  · simp only [dif_neg named, step]
    rfl

-- Induction along the descent. The chains around are any, as a group adds the chain that it stands in.
mutual

/-- **A clause** is read by the machine as by the descent. -/
theorem resume_clause (chain : OpenChain) (around : List OpenChain) (ts : List Token) :
    (⟨.clause, chain, around⟩ : Reading).resume standIn ts =
      Descent.clause standIn around.length ts >>= fun x =>
        (⟨.link x.1, chain, around⟩ : Reading).resume standIn x.2.1 := by
  rw [Descent.clause]
  split
  · next opens =>
    have shorter : ts.tail.length < ts.length := Descent.length_tail_lt standIn opens (by decide)
    rw [resume_eq_step standIn (waits_of_next .clause (by simp) chain around)]
    simp only [step, opens]
    -- The machine keeps the open chain with those around; the sentence inside leaves them to it.
    have inside := resume_sentence (chain :: around) ts.tail
    rw [List.length_cons] at inside
    show Reading.resume standIn _ ts.tail = _
    rw [inside]
    cases Descent.sentence standIn (around.length + 1) ts.tail with
    | error e => rfl
    | ok x =>
      show leave standIn (chain :: around) x.1 x.2.1 = _
      unfold leave
      dsimp only [bind, Except.bind]
      split <;> rfl
  · next other =>
    rw [resume_comparison standIn other]
    cases Descent.comparison standIn ts <;> rfl
termination_by (ts.length, 0)

/-- **A sentence in a group** is read by the machine as by the descent, and left to the chains around. -/
theorem resume_sentence (around : List OpenChain) (ts : List Token) :
    (⟨if around.length < maxDepth then .clause else .nothing, [], around⟩ : Reading).resume standIn ts =
      Descent.sentence standIn around.length ts >>= fun x => leave standIn around x.1 x.2.1 := by
  rw [Descent.sentence]
  -- A group that is too deep is refused with the token behind its parenthesis.
  by_cases deep : maxDepth ≤ around.length
  · rw [if_pos deep, if_neg (Nat.not_lt_of_le deep),
      resume_eq_step standIn (waits_of_next .nothing (by simp) [] around)]
    rfl
  · rw [if_neg deep, if_pos (Nat.lt_of_not_le deep)]
    exact resume_chain [] around ts
termination_by (ts.length, 2)

/-- **A chain** is read by the machine as by the descent: clause by clause, with its links in the state. -/
theorem resume_chain (chain : OpenChain) (around : List OpenChain) (ts : List Token) :
    (⟨.clause, chain, around⟩ : Reading).resume standIn ts =
      Descent.chain standIn around.length chain ts >>= fun x => leave standIn around x.1 x.2.1 := by
  rw [Descent.chain, resume_clause chain around ts]
  cases Descent.clause standIn around.length ts with
  | error e => rfl
  | ok x =>
    obtain ⟨last, rest⟩ := x
    show Reading.resume standIn ⟨.link last, chain, around⟩ rest.1 = _
    dsimp only [bind, Except.bind]
    -- A conjunction goes on with the chain, and everything else ends it.
    cases next : (Descent.front standIn rest.1).kind with
    | conjunction c =>
      rw [resume_joined standIn next]
      dsimp only
      by_cases full : maxChain ≤ chain.length
      · rw [if_pos full, if_pos full]
      · rw [if_neg full, if_neg full]
        have shorter : rest.1.tail.length < ts.length := rest.tail.2
        have onward := resume_chain ((last, c) :: chain) around rest.1.tail
        rw [onward]
        show _ = Except.bind (Except.bind (Descent.chain standIn around.length _ rest.1.tail) _) _
        cases Descent.chain standIn around.length ((last, c) :: chain) rest.1.tail <;> rfl
    | word | quoted | comparator _ | openParen | closeParen | endOfInput =>
      exact resume_ended standIn (by simp [next])
termination_by (ts.length, 1)
decreasing_by
  · exact Prod.Lex.right _ (by omega)
  · exact Prod.Lex.left _ _ shorter

end

/-- To go on is to run over the tokens before the end, and to finish. -/
theorem resume_eq_run (r : Reading) (ts : List Token) :
    r.resume standIn ts = r.run (content ts) >>= fun q =>
      q.finish (Token.endAt (((ts.find? fun t => t.kind = .endOfInput).map Token.position).getD standIn)) := by
  induction ts generalizing r with
  | nil => rfl
  | cons t ts ih =>
    rw [resume]
    -- The first marker is where the run stops and the finish is.
    by_cases ends : t.kind = .endOfInput
    · rw [if_pos ends, content_of_marker ends, List.find?_cons_of_pos (by simpa using ends)]
      rfl
    · rw [if_neg ends, content_cons ends, List.find?_cons_of_neg (by simpa using ends), run, List.foldlM_cons]
      cases r.step t with
      | error e => rfl
      | ok q => exact ih q

end Reading

/-! ## The whole input -/

/-- To parse is to go on from the start. -/
theorem parse_eq_resume (tokens : List Token) :
    parse tokens = Reading.start.resume (endPosition tokens) tokens := by
  rw [Reading.resume_eq_run, ← ending_eq_endAt]
  rfl

/-- **The descent and the machine read the same**, whatever the tokens are: the same sentences, and the same errors
at the same positions. -/
theorem descend_eq_parse (tokens : List Token) : descend tokens = parse tokens := by
  rw [parse_eq_resume]
  exact (Reading.resume_sentence (endPosition tokens) [] tokens).symm

/-- **Nothing behind the first end marker is looked at.** The descent over any tokens is the parse, a missing marker
stands behind the last token, and what follows the first marker may as well be missing. -/
theorem parse_sees_to_first_marker (tokens : List Token) :
    descend tokens = parse tokens ∧
    ((∀ t ∈ tokens, t.kind ≠ .endOfInput) → ∀ marker : Token, marker.kind = .endOfInput →
      marker.position = endPosition tokens → parse tokens = parse (tokens ++ [marker])) ∧
    ∀ before marker after, tokens = before ++ marker :: after → (∀ t ∈ before, t.kind ≠ .endOfInput) →
      marker.kind = .endOfInput → parse tokens = parse (before ++ [marker]) := by
  refine ⟨descend_eq_parse tokens, ?_, ?_⟩
  · intro plain marker ends position
    rw [parse_of_plain plain, parse_of_marker plain ends, position]
  · rintro before marker after rfl plain ends
    rw [parse_of_marker plain ends, parse_of_marker plain ends]

/-- An identifier alone ends behind its two bytes, or at the marker that is written; the parenthesis behind the marker
is not looked at. -/
theorem parse_sees_to_first_marker_behind_identifier :
    (∀ t ∈ [(⟨.word, "é", 3⟩ : Token)], t.kind ≠ .endOfInput) ∧ endPosition [⟨.word, "é", 3⟩] = 5 ∧
    parse [⟨.word, "é", 3⟩] = .error (.unexpectedEnd 5 .comparator) ∧
    parse ([⟨.word, "é", 3⟩] ++ [Token.endAt 5]) = .error (.unexpectedEnd 5 .comparator) ∧
    parse [⟨.word, "é", 3⟩, ⟨.endOfInput, "", 9⟩, ⟨.closeParen, ")", 10⟩] = .error (.unexpectedEnd 9 .comparator) := by
  have plain : ∀ t ∈ [(⟨.word, "é", 3⟩ : Token)], t.kind ≠ .endOfInput := by decide
  have position : endPosition [⟨.word, "é", 3⟩] = 5 := by decide +kernel
  have alone : parse [⟨.word, "é", 3⟩] = .error (.unexpectedEnd 5 .comparator) := by with_unfolding_all rfl
  obtain ⟨-, missing, -⟩ := parse_sees_to_first_marker [⟨.word, "é", 3⟩]
  obtain ⟨-, -, cut⟩ :=
    parse_sees_to_first_marker [⟨.word, "é", 3⟩, ⟨.endOfInput, "", 9⟩, ⟨.closeParen, ")", 10⟩]
  refine ⟨plain, position, alone, ?_, ?_⟩
  · rw [← missing plain (Token.endAt 5) rfl position.symm]
    exact alone
  · rw [cut [⟨.word, "é", 3⟩] ⟨.endOfInput, "", 9⟩ [⟨.closeParen, ")", 10⟩] rfl plain rfl]
    rfl

end SurveyFlow
