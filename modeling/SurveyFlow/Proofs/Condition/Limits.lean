import SurveyFlow.Proofs.Condition.FirstImpossible
import SurveyFlow.Proofs.Condition.Spacing

/-!
# What the limits of reading refuse

How deep groups nest in a text and how long its chains grow is counted on its tokens, whether or not they make a
sentence (`nesting`, `longestChain`). What a reading has open is counted by then (`Reading.le_of_run`), so an error on a
limit tells of a text that is deep or long (`nesting_of_parse_error`, `longestChain_of_parse_error`); and what the
grammar allows fails for a limit only (`takenOrStopped_of_yields`). A chain may be as long as the error says, but groups
may not nest as deep: at `maxDepth` levels the text is refused (`limits_are_described_iff`).
-/

namespace SurveyFlow

/-! ## Counting on tokens -/

/-- The most groups that are open at once, where `n` are open already. -/
def deepest : Nat → List Token → Nat
  | n, [] => n
  | n, t :: ts =>
    match t.kind with
    | .openParen => deepest (n + 1) ts
    | .closeParen => max n (deepest (n - 1) ts)
    | _ => deepest n ts

/-- How many groups stand one inside the other at most. -/
def nesting (ts : List Token) : Nat :=
  deepest 0 ts

/-- The most conjunctions that are counted in a chain, where the open chain has `n` already and the chains around the
open groups have those of the list. -/
def longest : Nat → List Nat → List Token → Nat
  | _, _, [] => 0
  | n, around, t :: ts =>
    match t.kind, around with
    | .conjunction _, around => max (n + 1) (longest (n + 1) around ts)
    | .openParen, around => longest 0 (n :: around) ts
    | .closeParen, outer :: around => longest outer around ts
    | .closeParen, [] => longest 0 [] ts
    | _, around => longest n around ts

/-- The most conjunctions in one chain, that at the top or one inside a group. -/
def longestChain (ts : List Token) : Nat :=
  longest 0 [] ts

section

variable {t : Token} (n : Nat) (around : List Nat) (ts : List Token)

/-- An opening parenthesis opens one group more. -/
theorem deepest_open (kind : t.kind = .openParen) : deepest n (t :: ts) = deepest (n + 1) ts := by
  simp [deepest, kind]

/-- A closing parenthesis closes one, but the groups that were open count. -/
theorem deepest_close (kind : t.kind = .closeParen) : deepest n (t :: ts) = max n (deepest (n - 1) ts) := by
  simp [deepest, kind]

/-- A conjunction opens and closes nothing. -/
theorem deepest_conjunction {c : Conjunction} (kind : t.kind = .conjunction c) :
    deepest n (t :: ts) = deepest n ts := by
  simp [deepest, kind]

/-- Inside a group a new chain begins, and the one around it waits. -/
theorem longest_open (kind : t.kind = .openParen) : longest n around (t :: ts) = longest 0 (n :: around) ts := by
  simp [longest, kind]

/-- Behind a group the chain around it goes on. -/
theorem longest_close (outer : Nat) (kind : t.kind = .closeParen) :
    longest n (outer :: around) (t :: ts) = longest outer around ts := by
  simp [longest, kind]

/-- A conjunction makes the open chain longer by one. -/
theorem longest_conjunction {c : Conjunction} (kind : t.kind = .conjunction c) :
    longest n around (t :: ts) = max (n + 1) (longest (n + 1) around ts) := by
  simp [longest, kind]

/-- The groups that are open already count. -/
theorem le_deepest : n ≤ deepest n ts := by
  induction ts generalizing n with
  | nil => exact Nat.le_refl n
  | cons t ts ih =>
    unfold deepest
    split
    · -- After an opening parenthesis even one more than that is open.
      exact Nat.le_of_succ_le (ih (n + 1))
    · exact Nat.le_max_left _ _
    · exact ih n

end

/-! ### The tokens of a sentence -/

/-- A comparison opens and closes nothing. -/
theorem deepest_comparison {e : Expression} {ts : List Token} (h : e.Yields ts) (n : Nat) (rest : List Token) :
    deepest n (ts ++ rest) = deepest n rest := by
  cases h with
  | intro named _ compared kind _ => rcases kind with kind | kind <;> simp [deepest, named, compared, kind]

theorem longest_comparison {e : Expression} {ts : List Token} (h : e.Yields ts) (n : Nat) (around : List Nat)
    (rest : List Token) : longest n around (ts ++ rest) = longest n around rest := by
  cases h with
  | intro named _ compared kind _ => rcases kind with kind | kind <;> simp [longest, named, compared, kind]

/-- The tokens of a sentence nest as deep as the sentence. -/
theorem deepest_of_yields {s : Sentence} {ts : List Token} (h : s.Yields ts) :
    ∀ n rest, deepest n (ts ++ rest) = max (n + s.depth) (deepest n rest) := by
  refine Sentence.Yields.by_clauses
    (P := fun clause ts => ∀ n rest, deepest n (ts ++ rest) = max (n + clause.depth) (deepest n rest))
    (Q := fun s ts => ∀ n rest, deepest n (ts ++ rest) = max (n + s.depth) (deepest n rest)) ?_ ?_ ?_ ?_ h
  · intro e ts written n rest
    rw [deepest_comparison written, Clause.depth]
    have := le_deepest n rest
    omega
  · -- The group is counted one level further in, and its closing parenthesis leads back to the level where it stands.
    intro s opening closing ts opens inside closes n rest
    rw [List.append_assoc, List.singleton_append, List.cons_append, deepest_open n _ opens, inside,
      deepest_close _ _ closes, Clause.depth, Nat.add_sub_cancel]
    omega
  · intro clause ts inside n rest
    rw [Clause.depth_alone]
    exact inside n rest
  · -- The conjunction counts nothing, so the chain is as deep as the deeper one of its parts.
    intro clause c others joint ts us inside joins after n rest
    rw [List.append_assoc, inside, List.cons_append, deepest_conjunction _ _ joins, after, Clause.depth_link]
    omega

/-- The chains of a sentence are those that are counted on its tokens. -/
theorem longest_le_iff_of_yields {s : Sentence} {ts : List Token} (h : s.Yields ts) {limit : Nat} :
    ∀ n around rest, n ≤ limit → (longest n around (ts ++ rest) ≤ limit ↔
      n + s.links ≤ limit ∧ s.ChainsWithin limit ∧ longest (n + s.links) around rest ≤ limit) := by
  refine Sentence.Yields.by_clauses
    (P := fun clause ts => ∀ n around rest, longest n around (ts ++ rest) ≤ limit ↔
      clause.ChainsWithin limit ∧ longest n around rest ≤ limit)
    (Q := fun s ts => ∀ n around rest, n ≤ limit → (longest n around (ts ++ rest) ≤ limit ↔
      n + s.links ≤ limit ∧ s.ChainsWithin limit ∧ longest (n + s.links) around rest ≤ limit)) ?_ ?_ ?_ ?_ h
  · intro e ts written n around rest
    rw [longest_comparison written]
    exact ⟨fun within => ⟨trivial, within⟩, And.right⟩
  · -- The chain inside begins at zero, while the one around it waits with its `n` conjunctions.
    intro s opening closing ts opens inside closes n around rest
    rw [List.append_assoc, List.singleton_append, List.cons_append, longest_open _ _ _ opens,
      inside 0 _ _ (Nat.zero_le _), longest_close _ _ _ _ closes, Nat.zero_add, ← and_assoc]
    rfl
  · intro clause ts inside n around rest short
    rw [inside, Clause.links_alone, Clause.chainsWithin_alone, Nat.add_zero]
    exact ⟨fun within => ⟨short, within⟩, And.right⟩
  · intro clause c others joint ts us inside joins after n around rest short
    -- The conjunction belongs to the links of the whole, and to what the rest starts from.
    have sum : n + (others.links + 1) = n + 1 + others.links := by omega
    rw [List.append_assoc, inside, List.cons_append, longest_conjunction _ _ _ joins, Nat.max_le,
      Clause.links_link, Clause.chainsWithin_link, sum]
    constructor
    · rintro ⟨first, room, long⟩
      obtain ⟨links, chains, behind⟩ := (after _ around rest room).1 long
      exact ⟨links, ⟨first, by omega, chains⟩, behind⟩
    · rintro ⟨links, ⟨first, _, chains⟩, behind⟩
      exact ⟨first, by omega, (after _ around rest (by omega)).2 ⟨links, chains, behind⟩⟩

/-! ## Counting along a run -/

namespace Reading

/-- What grows with no token that is taken does not grow along a run. -/
theorem le_of_run {m : Reading → List Token → Nat}
    (step : ∀ {r r' : Reading} {t : Token}, r.Takes t r' → ∀ ts, m r' ts ≤ m r (t :: ts)) {r q : Reading}
    {before : List Token} (h : r.run before = .ok q) (after : List Token) : m q after ≤ m r (before ++ after) := by
  induction before generalizing r with
  | nil =>
    cases h
    exact Nat.le_refl _
  | cons t before ih =>
    obtain ⟨r', taken, reached⟩ := takes_of_run_cons h
    exact Nat.le_trans (ih reached) (step taken (before ++ after))

/-- The nesting that is still to come, counted from the groups that are open, does not grow with a token that is
taken. -/
theorem deepest_of_takes {r r' : Reading} {t : Token} (h : r.Takes t r') (ts : List Token) :
    deepest r'.around.length ts ≤ deepest r.around.length (t :: ts) := by
  cases h with
  | opens kind _ => exact Nat.le_of_eq (deepest_open _ _ kind).symm
  | opensTooDeep kind _ => exact Nat.le_of_eq (deepest_open _ _ kind).symm
  | names kind => simp [deepest, kind]
  | compares kind => simp [deepest, kind]
  | completes kind => rcases kind with kind | kind <;> simp [deepest, kind]
  | joins kind _ => exact Nat.le_of_eq (deepest_conjunction _ _ kind).symm
  | closes kind =>
    rw [deepest_close _ _ kind]
    exact Nat.le_max_right _ _

theorem longest_of_takes {r r' : Reading} {t : Token} (h : r.Takes t r') (ts : List Token) :
    longest r'.chain.length (r'.around.map List.length) ts ≤
      longest r.chain.length (r.around.map List.length) (t :: ts) := by
  cases h with
  | opens kind _ => exact Nat.le_of_eq (longest_open _ _ _ kind).symm
  | opensTooDeep kind _ => exact Nat.le_of_eq (longest_open _ _ _ kind).symm
  | names kind => simp [longest, kind]
  | compares kind => simp [longest, kind]
  | completes kind => rcases kind with kind | kind <;> simp [longest, kind]
  | joins kind _ =>
    rw [longest_conjunction _ _ _ kind]
    exact Nat.le_max_right _ _
  | closes kind => exact Nat.le_of_eq (longest_close _ _ _ _ kind).symm

/-- The groups that are open after a run are counted on its tokens. -/
theorem length_around_le_nesting {before after : List Token} {q : Reading} (h : start.run before = .ok q) :
    q.around.length ≤ nesting (before ++ after) :=
  Nat.le_trans (le_deepest _ after) (le_of_run (m := fun r ts => deepest r.around.length ts) deepest_of_takes h after)

/-- The conjunctions of the open chain after a run are counted on its tokens, and one that follows them. -/
theorem length_chain_lt_longestChain {before after : List Token} {q : Reading} {t : Token} {c : Conjunction}
    (h : start.run before = .ok q) (joins : t.kind = .conjunction c) :
    q.chain.length < longestChain (before ++ t :: after) := by
  have counted := le_of_run (m := fun r ts => longest r.chain.length (r.around.map List.length) ts) longest_of_takes
    h (t :: after)
  rw [longest_conjunction _ _ _ joins] at counted
  exact Nat.le_trans (Nat.le_max_left _ _) counted

end Reading

/-! ## Errors on limits -/

/-- The error is about a limit. -/
def SyntaxError.IsLimit : SyntaxError → Prop
  | nestingTooDeep _ _ | chainTooLong _ _ => True
  | unexpectedToken _ _ _ | trailingInput _ _ | unexpectedEnd _ _ => False

/-- An error about what was expected is about no limit. -/
theorem not_isLimit_unexpected (t : Token) (expected : Expected) : ¬(t.unexpected expected).IsLimit := by
  unfold Token.unexpected
  split
  · exact id
  · split
    · exact id
    · exact id

/-- Of the ways to fail, only an overflow gives an error on a limit. -/
theorem Reading.overflows_of_fails {r : Reading} {t : Token} {e : SyntaxError} (h : r.Fails t e) (limit : e.IsLimit) :
    r.Overflows t e := by
  cases h with
  | unexpected expected _ => exact absurd limit (not_isLimit_unexpected t expected)
  | trailing => exact absurd limit id
  | limit overflows => exact overflows

/-- An error on a limit comes from a reading that meets it. -/
theorem overflows_of_parse_error {text : String} {ts : List Token} (cut : tokenize text = .ok ts) {e : SyntaxError}
    (failed : parse ts = .error e) (limit : e.IsLimit) :
    ∃ before t after q, ts = before ++ t :: after ∧ Reading.start.run before = .ok q ∧ q.Overflows t e := by
  obtain ⟨body, rfl, plain⟩ := marked_of_tokensFrom cut
  obtain ⟨before, t, after, q, split, reached, stops⟩ := failure_of_parse plain failed
  refine ⟨before, t, after, q, split, reached, ?_⟩
  -- The limit is met at a token of the text, or at its end.
  rcases stops with ⟨_, step⟩ | ⟨_, finish⟩
  · exact Reading.overflows_of_fails (Reading.fails_of_step step) limit
  · exact Reading.overflows_of_fails (Reading.fails_of_finish finish) limit

/-- An error on nesting tells of a text that nests `maxDepth` deep at least. The text need not be a sentence. -/
theorem nesting_of_parse_error {text : String} {ts : List Token} (cut : tokenize text = .ok ts) {position limit : Nat}
    (failed : parse ts = .error (.nestingTooDeep position limit)) : limit = maxDepth ∧ maxDepth ≤ nesting ts := by
  obtain ⟨before, t, after, q, rfl, reached, overflows⟩ := overflows_of_parse_error cut failed trivial
  cases overflows with
  -- Nothing is due any more, so the groups that are open are those opened by the tokens before.
  | @depth chain around =>
    obtain ⟨_, _, _, _, _, _, _, opened⟩ := Reading.last_of_nothing reached rfl
    have groups : (around.length : Int) = ((0 : Nat) : Int) + openGroups before := Reading.openGroups_of_run reached
    have counted : around.length ≤ nesting (before ++ t :: after) := Reading.length_around_le_nesting reached
    exact ⟨rfl, by omega⟩

/-- An error on a chain tells of a text with a chain that is too long. -/
theorem longestChain_of_parse_error {text : String} {ts : List Token} (cut : tokenize text = .ok ts)
    {position limit : Nat} (failed : parse ts = .error (.chainTooLong position limit)) :
    limit = maxChain ∧ maxChain < longestChain ts := by
  obtain ⟨before, t, after, q, rfl, reached, overflows⟩ := overflows_of_parse_error cut failed trivial
  cases overflows with
  | length joins full => exact ⟨rfl, Nat.lt_of_le_of_lt full (Reading.length_chain_lt_longestChain reached joins)⟩

/-! ## What the grammar allows fails for a limit only -/

namespace Reading

/-- A run fails with its first token. -/
theorem run_cons_of_error {r : Reading} {t : Token} {e : SyntaxError} (h : r.step t = .error e) (ts : List Token) :
    r.run (t :: ts) = .error e := by
  rw [run, List.foldlM_cons, h]
  rfl

theorem run_append_of_error {r : Reading} {ts : List Token} {e : SyntaxError} (h : r.run ts = .error e)
    (us : List Token) : r.run (ts ++ us) = .error e := by
  rw [run, List.foldlM_append, ← run, h]
  rfl

/-- The reading meets a limit among these tokens. -/
def Stops (r : Reading) (ts : List Token) : Prop :=
  ∃ e, r.run ts = .error e ∧ e.IsLimit

theorem stops_append {r : Reading} {ts : List Token} (h : r.Stops ts) (us : List Token) : r.Stops (ts ++ us) := by
  obtain ⟨e, failed, limit⟩ := h
  exact ⟨e, run_append_of_error failed us, limit⟩

/-- A limit that is met after a run is met by the whole of it. -/
theorem stops_of_run {r q : Reading} {ts us : List Token} (reached : r.run ts = .ok q) (h : q.Stops us) :
    r.Stops (ts ++ us) := by
  obtain ⟨e, failed, limit⟩ := h
  exact ⟨e, (run_append_of_run reached us).trans failed, limit⟩

theorem stops_of_takes {r r' : Reading} {t : Token} {ts : List Token} (h : r.Takes t r') (stops : r'.Stops ts) :
    r.Stops (t :: ts) := by
  obtain ⟨e, failed, limit⟩ := stops
  exact ⟨e, (run_cons_of_takes h ts).trans failed, limit⟩

/-- In a group that was opened too deep the next token meets the limit. -/
theorem stops_in_nothing (chain : OpenChain) (around : List OpenChain) {ts : List Token} (some_ : ts ≠ []) :
    (⟨.nothing, chain, around⟩ : Reading).Stops ts := by
  cases ts with
  | nil => exact absurd rfl some_
  | cons t ts => exact ⟨.nestingTooDeep t.position maxDepth, run_cons_of_error rfl ts, trivial⟩

end Reading

/-- Where a clause is due, the tokens are taken as the clause, or a limit is met among them. -/
def Clause.TakenOrStopped (clause : Clause) (ts : List Token) : Prop :=
  ∀ chain around, (⟨.clause, chain, around⟩ : Reading).run ts = .ok ⟨.link clause, chain, around⟩ ∨
    (⟨.clause, chain, around⟩ : Reading).Stops ts

/-- Where a clause is due, the tokens are taken as the rest of the chain, or a limit is met among them. -/
def Sentence.TakenOrStopped (s : Sentence) (ts : List Token) : Prop :=
  ∀ chain around, (∃ last chain', (⟨.clause, chain, around⟩ : Reading).run ts = .ok ⟨.link last, chain', around⟩ ∧
    chain'.close last = chain.closeWith s) ∨ (⟨.clause, chain, around⟩ : Reading).Stops ts

/-- In a group a limit is met if its parenthesis is one too many, or if the sentence in it meets one. -/
theorem takenOrStopped_group {s : Sentence} {opening closing : Token} {ts : List Token}
    (opens : opening.kind = .openParen) (inside : s.TakenOrStopped ts) (closes : closing.kind = .closeParen) :
    (Clause.group s).TakenOrStopped (opening :: ts ++ [closing]) := by
  intro chain around
  -- A parenthesis one level too deep is still taken; it is the token behind it that is refused.
  by_cases room : around.length + 1 < maxDepth
  · rcases inside [] (chain :: around) with ⟨last, inner, taken, closed⟩ | stops
    · exact .inl (Reading.run_group opens room taken closed closes)
    · exact .inr (Reading.stops_append (Reading.stops_of_takes (.opens opens room) stops) [closing])
  · exact .inr (Reading.stops_of_takes (.opensTooDeep opens room) (Reading.stops_in_nothing _ _ (by simp)))

/-- A chain of one clause is taken with its clause. -/
theorem takenOrStopped_alone {clause : Clause} {ts : List Token} (h : clause.TakenOrStopped ts) :
    clause.alone.TakenOrStopped ts := by
  intro chain around
  rcases h chain around with taken | stops
  · exact .inl ⟨clause, chain, taken, rfl⟩
  · exact .inr stops

/-- Before the rest of a chain a limit is met if its conjunction is one too many. -/
theorem takenOrStopped_link {clause : Clause} {c : Conjunction} {rest : Sentence} {joint : Token} {ts us : List Token}
    (h : clause.TakenOrStopped ts) (joins : joint.kind = .conjunction c) (after : rest.TakenOrStopped us) :
    (clause.link c rest).TakenOrStopped (ts ++ joint :: us) := by
  intro chain around
  rcases h chain around with taken | stops
  · by_cases short : chain.length < maxChain
    · rcases after ((clause, c) :: chain) around with ⟨last, chain', taken', closed⟩ | stops
      · refine .inl ⟨last, chain', ?_, closed⟩
        rw [Reading.run_append_of_run taken, Reading.run_cons_of_takes (.joins joins short), taken']
      · exact .inr (Reading.stops_of_run taken (Reading.stops_of_takes (.joins joins short) stops))
    · -- The chain is full, and its next conjunction is refused.
      have full : (⟨.link clause, chain, around⟩ : Reading).step joint =
          .error (.chainTooLong joint.position maxChain) := by
        simp only [Reading.step, Reading.stepLink, joins, if_neg short]
      exact .inr (Reading.stops_of_run taken ⟨_, Reading.run_cons_of_error full us, trivial⟩)
  · exact .inr (Reading.stops_append stops _)

/-- **What the grammar allows fails for a limit only.** -/
theorem takenOrStopped_of_yields {s : Sentence} {ts : List Token} (h : s.Yields ts) : s.TakenOrStopped ts :=
  h.by_clauses (fun written chain around => .inl (Reading.run_comparison written chain around)) takenOrStopped_group
    takenOrStopped_alone takenOrStopped_link

/-- A sentence is parsed, or the error is about a limit. -/
theorem parse_or_limit {ts : List Token} {s : Sentence} (h : s.Yields (content ts)) :
    parse ts = .ok s ∨ ∃ e, parse ts = .error e ∧ e.IsLimit := by
  rcases takenOrStopped_of_yields h [] [] with ⟨last, chain, taken, closed⟩ | ⟨e, failed, limit⟩
  · exact .inl (parse_eq_ok_iff_run.2 ⟨last, chain, taken, closed⟩)
  · refine .inr ⟨e, ?_, limit⟩
    show (Reading.start.run (content ts) >>= fun r => r.finish (ending ts)) = .error e
    have start : Reading.start.run (content ts) = .error e := failed
    rw [start]
    rfl

/-! ## The limits on the whole text -/

/-- The nesting of a text that makes a sentence is the depth of the sentence. -/
theorem nesting_of_yields {text : String} {ts : List Token} (cut : tokenize text = .ok ts) {s : Sentence}
    (h : s.Yields (content ts)) : nesting ts = s.depth := by
  obtain ⟨body, rfl, plain⟩ := marked_of_tokensFrom cut
  rw [content_append_marker plain rfl] at h
  rw [nesting, deepest_of_yields h, Nat.zero_add]
  exact Nat.max_eq_left (Nat.zero_le _)

/-- The chains of a text that makes a sentence are those of the sentence. -/
theorem longestChain_le_iff_of_yields {text : String} {ts : List Token} (cut : tokenize text = .ok ts) {s : Sentence}
    (h : s.Yields (content ts)) {limit : Nat} : longestChain ts ≤ limit ↔ s.ChainsWithin limit := by
  obtain ⟨body, rfl, plain⟩ := marked_of_tokensFrom cut
  rw [content_append_marker plain rfl] at h
  rw [longestChain, longest_le_iff_of_yields h 0 [] _ (Nat.zero_le _), Nat.zero_add]
  constructor
  · exact fun ⟨_, chains, _⟩ => chains
  · exact fun chains => ⟨Sentence.links_le_of_chainsWithin chains, chains, Nat.zero_le _⟩

/-- A text that can be cut is refused where its tokens are. -/
theorem parseCondition_eq_error_iff {text : String} {ts : List Token} (cut : tokenize text = .ok ts) {e : SyntaxError} :
    parseCondition text = .error (.grammatical e) ↔ parse ts = .error e := by
  rw [parseCondition_of_tokenize cut]
  cases parse ts with
  | error e' =>
    show Except.error (ConditionError.grammatical e') = .error (.grammatical e) ↔ _
    rw [Except.error.injEq, Except.error.injEq, ConditionError.grammatical.injEq]
  | ok s => exact iff_of_false nofun nofun

/-- A text that can be cut is read as what its tokens are parsed to. -/
theorem parseCondition_eq_ok_iff_parse {text : String} {ts : List Token} (cut : tokenize text = .ok ts) {s : Sentence} :
    parseCondition text = .ok s ↔ parse ts = .ok s := by
  rw [parseCondition_of_tokenize cut]
  cases parse ts with
  | error e => exact iff_of_false nofun nofun
  | ok s' =>
    show Except.ok s' = .ok s ↔ _
    rw [Except.ok.injEq, Except.ok.injEq]

/-- What nests too deep, and does so only, is refused for that reason. -/
theorem nestingTooDeep_of_yields {text : String} {ts : List Token} (cut : tokenize text = .ok ts) {s : Sentence}
    (h : s.Yields (content ts)) (short : longestChain ts ≤ maxChain) (deep : maxDepth ≤ nesting ts) :
    ∃ position, parse ts = .error (.nestingTooDeep position maxDepth) := by
  rcases parse_or_limit h with parsed | ⟨e, failed, limit⟩
  · -- What is parsed is within the limits, against what was counted.
    have within := (parse_eq_ok_iff_content.1 parsed).2.1
    rw [nesting_of_yields cut h] at deep
    omega
  · cases e with
    | nestingTooDeep position limit =>
      obtain ⟨rfl, _⟩ := nesting_of_parse_error cut failed
      exact ⟨position, failed⟩
    | chainTooLong position limit =>
      have long := (longestChain_of_parse_error cut failed).2
      omega
    | unexpectedToken | trailingInput | unexpectedEnd => exact absurd limit id

/-- The limits are those that the errors speak of: they are about more than `maxDepth` levels or more than `maxChain`
conjunctions, and a sentence that keeps to both is read. -/
structure LimitsAsDescribed (text : String) (ts : List Token) : Prop where
  depth : ∀ position limit,
    parseCondition text = .error (.grammatical (.nestingTooDeep position limit)) → maxDepth < nesting ts
  length : ∀ position limit,
    parseCondition text = .error (.grammatical (.chainTooLong position limit)) → maxChain < longestChain ts
  accepted : ∀ s : Sentence, s.Yields (content ts) → nesting ts ≤ maxDepth → longestChain ts ≤ maxChain →
    parseCondition text = .ok s

/-- **Errors on limits mean what they say, but for one level.** An error on a chain is always about one that is too
long; an error on nesting may also be about groups that nest `maxDepth` deep, which is what it calls allowed. -/
theorem limits_are_described_iff {text : String} {ts : List Token} (cut : tokenize text = .ok ts) :
    (LimitsAsDescribed text ts ↔ ¬(nesting ts = maxDepth ∧
      ∃ position, parseCondition text = .error (.grammatical (.nestingTooDeep position maxDepth)))) ∧
    (∀ position limit, parseCondition text = .error (.grammatical (.nestingTooDeep position limit)) →
      limit = maxDepth ∧ maxDepth ≤ nesting ts) ∧
    (∀ position limit, parseCondition text = .error (.grammatical (.chainTooLong position limit)) →
      limit = maxChain ∧ maxChain < longestChain ts) ∧
    ∀ s : Sentence, s.Yields (content ts) →
      (parseCondition text = .ok s ↔ nesting ts < maxDepth ∧ longestChain ts ≤ maxChain) ∧
      (longestChain ts ≤ maxChain → maxDepth ≤ nesting ts →
        ∃ position, parseCondition text = .error (.grammatical (.nestingTooDeep position maxDepth))) := by
  simp only [parseCondition_eq_error_iff cut, parseCondition_eq_ok_iff_parse cut]
  have accepted : ∀ s : Sentence, s.Yields (content ts) →
      (parse ts = .ok s ↔ nesting ts < maxDepth ∧ longestChain ts ≤ maxChain) := by
    intro s written
    rw [parse_eq_ok_iff_content, nesting_of_yields cut written, longestChain_le_iff_of_yields cut written]
    exact ⟨And.right, fun within => ⟨written, within⟩⟩
  refine ⟨⟨?_, fun other => ?_⟩, fun _ _ => nesting_of_parse_error cut, fun _ _ => longestChain_of_parse_error cut,
    fun s written => ⟨accepted s written, nestingTooDeep_of_yields cut written⟩⟩
  · -- The error at exactly `maxDepth` levels is the one thing that is not as described.
    rintro described ⟨same, position, failed⟩
    have deeper := described.depth position maxDepth ((parseCondition_eq_error_iff cut).2 failed)
    omega
  · refine ⟨fun position limit failed => ?_, fun position limit failed => ?_, fun s written deep short => ?_⟩
    · rw [parseCondition_eq_error_iff cut] at failed
      obtain ⟨rfl, deep⟩ := nesting_of_parse_error cut failed
      exact Nat.lt_of_le_of_ne deep fun same => other ⟨same.symm, position, failed⟩
    · rw [parseCondition_eq_error_iff cut] at failed
      exact (longestChain_of_parse_error cut failed).2
    · rw [parseCondition_eq_ok_iff_parse cut, accepted s written]
      refine ⟨Nat.lt_of_le_of_ne deep fun same => other ⟨same, ?_⟩, short⟩
      -- A sentence that nests exactly `maxDepth` deep would be the exception.
      exact nestingTooDeep_of_yields cut written short (Nat.le_of_eq same.symm)

/-- Two levels and a conjunction are well within the limits. -/
theorem limits_are_described_of_groups :
    let ts : List Token := [⟨.openParen, "(", 0⟩, ⟨.openParen, "(", 1⟩, ⟨.word, "a", 2⟩, ⟨.comparator .eq, "==", 3⟩,
      ⟨.word, "1", 5⟩, ⟨.closeParen, ")", 6⟩, ⟨.conjunction .or, "or", 8⟩, ⟨.word, "b", 11⟩,
      ⟨.comparator .eq, "==", 12⟩, ⟨.word, "2", 14⟩, ⟨.closeParen, ")", 15⟩, ⟨.endOfInput, "", 16⟩]
    tokenize "((a==1) or b==2)" = .ok ts ∧ nesting ts = 2 ∧ longestChain ts = 1 ∧
      LimitsAsDescribed "((a==1) or b==2)" ts := by
  intro ts
  have cut : tokenize "((a==1) or b==2)" = .ok ts := by with_unfolding_all rfl
  have deep : nesting ts = 2 := by decide
  refine ⟨cut, deep, by decide, (limits_are_described_iff cut).1.2 ?_⟩
  rintro ⟨full, _⟩
  rw [deep] at full
  cases full

/-- A comparison inside a number of groups. -/
def nested : Nat → Sentence
  | 0 => .simple ⟨"a", .eq, "1"⟩
  | n + 1 => .grouped (nested n)

/-- The characters of a comparison inside a number of groups. -/
def nestedText : Nat → List Char
  | 0 => "a==1".toList
  | n + 1 => ['('] ++ (nestedText n ++ [')'])

/-- The characters are what the sentence is written as. -/
theorem writtenAs_nested (n : Nat) : (nested n).WrittenAs (nestedText n) := by
  induction n with
  | zero =>
    have read : parseCondition "a==1" = .ok (nested 0) := by with_unfolding_all rfl
    exact (parseCondition_eq_ok_iff_writtenAs.1 read).1
  | succ n ih => exact Clause.writtenAs_alone (Clause.writtenAs_group ih)

theorem depth_nested (n : Nat) : (nested n).depth = n := by
  induction n with
  | zero => rfl
  | succ n ih => exact congrArg Nat.succ ih

theorem links_nested (n : Nat) : (nested n).links = 0 := by
  cases n <;> rfl

theorem chainsWithin_nested (limit n : Nat) : (nested n).ChainsWithin limit := by
  induction n with
  | zero => trivial
  -- Each group holds a chain of one clause.
  | succ n ih => exact ⟨links_nested n ▸ Nat.zero_le limit, ih⟩

/-- The 256th group is refused, although 256 levels are allowed. -/
theorem refuses_last_allowed_level : ∃ ts, tokenize (String.ofList (nestedText 256)) = .ok ts ∧
    (nested 256).Yields (content ts) ∧ nesting ts = maxDepth ∧ longestChain ts ≤ maxChain ∧
    (∃ position,
      parseCondition (String.ofList (nestedText 256)) = .error (.grammatical (.nestingTooDeep position maxDepth))) ∧
    ¬LimitsAsDescribed (String.ofList (nestedText 256)) ts := by
  have written : (nested 256).WrittenAs (String.ofList (nestedText 256)).toList := by
    rw [String.toList_ofList]
    exact writtenAs_nested 256
  obtain ⟨ts, cut, yields⟩ := tokenize_of_writtenAs written
  have deep : nesting ts = maxDepth := by
    rw [nesting_of_yields cut yields]
    exact depth_nested 256
  have short : longestChain ts ≤ maxChain :=
    (longestChain_le_iff_of_yields cut yields).2 (chainsWithin_nested maxChain 256)
  obtain ⟨position, failed⟩ := nestingTooDeep_of_yields cut yields short (Nat.le_of_eq deep.symm)
  have refused := (parseCondition_eq_error_iff cut).2 failed
  refine ⟨ts, cut, yields, deep, short, ⟨position, refused⟩, fun described => ?_⟩
  exact Nat.lt_irrefl _ (deep ▸ described.depth position maxDepth refused)

end SurveyFlow
