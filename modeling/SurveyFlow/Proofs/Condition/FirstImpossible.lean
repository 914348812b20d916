import SurveyFlow.Proofs.Condition.Parsing
import SurveyFlow.Proofs.Condition.Prefixes

/-!
# Errors point at the first impossible token

A reading goes on as long as what it has read can be completed, so the token at which it stops is the first one that
no condition has there (`points_at_first_impossible`). Both halves are about the reading `q` that has been reached:

* **`completable_of_run`** — unless a group has been opened too deep, the clause can be completed and the open groups
  closed, and this is written out as text;
* **`Reading.Refuses`** — whatever follows the token that `q` does not take, the tokens are not accepted.
-/

namespace SurveyFlow

/-- The tokens of some text that is read as a condition begin with these. -/
def Completable (ts : List Token) : Prop :=
  ∃ text us s, tokenize text = .ok us ∧ ts <+: us ∧ parse us = .ok s

/-- The first `k` of the tokens can be completed, and no more. -/
structure FirstImpossible (ts : List Token) (k : Nat) : Prop where
  completable : Completable (ts.take k)
  longest : ∀ n ≤ ts.length, Completable (ts.take n) → n ≤ k
  /-- Not even a list of tokens that is cut from no text is accepted if it begins with one token more. -/
  impossible : ∀ us s, ts.take (k + 1) <+: us → parse us ≠ .ok s

/-- How many more groups are opened by the tokens than closed. -/
def openGroups (ts : List Token) : Int :=
  ts.countP (·.kind = .openParen) - ts.countP (·.kind = .closeParen)

/-- The error is about the token of number `k`. Where groups nest too deep this is the parenthesis that opens one
group too many, and the position is that of the token behind it. -/
def SyntaxError.PointsAt (ts : List Token) (k : Nat) : SyntaxError → Prop
  | unexpectedToken position _ found | trailingInput position found =>
    ∃ t, ts[k]? = some t ∧ position = t.position ∧ found = t.text
  | unexpectedEnd position _ | chainTooLong position _ => ∃ t, ts[k]? = some t ∧ position = t.position
  | nestingTooDeep position _ =>
    (∃ opening, ts[k]? = some opening ∧ opening.kind = .openParen) ∧ openGroups (ts.take (k + 1)) = maxDepth ∧
      ∃ t, ts[k + 1]? = some t ∧ position = t.position

/-! ## The token that is refused -/

/-- What an error tells of a token. -/
def SyntaxError.Blames (t : Token) : SyntaxError → Prop
  | unexpectedToken position _ found | trailingInput position found => position = t.position ∧ found = t.text
  | unexpectedEnd position _ | chainTooLong position _ | nestingTooDeep position _ => position = t.position

def SyntaxError.IsNesting : SyntaxError → Prop
  | nestingTooDeep _ _ => True
  | _ => False

/-- The error tells of the token, and it is the one on nesting exactly if nothing could be taken. -/
def SyntaxError.Reports (e : SyntaxError) (t : Token) (r : Reading) : Prop :=
  e.Blames t ∧ (r.next = .nothing ↔ e.IsNesting)

/-- An error about what was expected tells of the token that was found, and is not the one on nesting. -/
theorem blames_unexpected (t : Token) (expected : Expected) :
    (t.unexpected expected).Blames t ∧ ¬(t.unexpected expected).IsNesting := by
  unfold Token.unexpected
  split
  · exact ⟨rfl, id⟩
  · split
    · exact ⟨⟨rfl, rfl⟩, id⟩
    · exact ⟨⟨rfl, rfl⟩, id⟩

namespace Reading

/-- So it reports the token to a reading that could still take something. -/
theorem reports_unexpected {next : Next} {chain : OpenChain} {around : List OpenChain} (busy : next ≠ .nothing)
    (t : Token) (expected : Expected) : (t.unexpected expected).Reports t ⟨next, chain, around⟩ := by
  obtain ⟨blames, other⟩ := blames_unexpected t expected
  exact ⟨blames, iff_of_false busy other⟩

/-- A limit that a reading meets at a token. -/
inductive Overflows : Reading → Token → SyntaxError → Prop where
  | depth {chain : OpenChain} {around : List OpenChain} {t : Token} :
    Overflows ⟨.nothing, chain, around⟩ t (.nestingTooDeep t.position maxDepth)
  | length {last : Clause} {c : Conjunction} {chain : OpenChain} {around : List OpenChain} {t : Token} :
    t.kind = .conjunction c → maxChain ≤ chain.length →
    Overflows ⟨.link last, chain, around⟩ t (.chainTooLong t.position maxChain)

/-- The ways in which a reading refuses a token or the end. -/
inductive Fails : Reading → Token → SyntaxError → Prop where
  | unexpected {next : Next} {chain : OpenChain} {around : List OpenChain} {t : Token} (expected : Expected) :
    next ≠ .nothing → Fails ⟨next, chain, around⟩ t (t.unexpected expected)
  | trailing {last : Clause} {chain : OpenChain} {t : Token} :
    Fails ⟨.link last, chain, []⟩ t (.trailingInput t.position t.text)
  | limit {r : Reading} {t : Token} {e : SyntaxError} : r.Overflows t e → Fails r t e

/-- A step that fails does so in one of the ways. -/
theorem fails_of_step {r : Reading} {t : Token} {e : SyntaxError} (h : r.step t = .error e) : r.Fails t e := by
  obtain ⟨next, chain, around⟩ := r
  cases next with
  | clause =>
    simp only [step] at h
    split at h
    · cases h
    · cases h
    · cases h
      exact .unexpected .clause (by rintro ⟨⟩)
  | comparator identifier =>
    simp only [step] at h
    split at h
    · cases h
    · cases h
      exact .unexpected .comparator (by rintro ⟨⟩)
  | literal identifier c =>
    simp only [step] at h
    split at h
    · cases h
    · cases h
    · cases h
      exact .unexpected .literal (by rintro ⟨⟩)
  | link last =>
    simp only [step, stepLink] at h
    split at h
    · -- A conjunction behind a clause is refused only for the length of the chain.
      next c kind =>
      split at h
      · cases h
      · next full =>
        cases h
        exact .limit (.length kind (Nat.le_of_not_lt full))
    · cases h
    · cases h
      exact .trailing
    · cases h
      exact .unexpected .closingParen (by rintro ⟨⟩)
  | nothing =>
    cases h
    exact .limit .depth

theorem fails_of_finish {r : Reading} {marker : Token} {e : SyntaxError} (h : r.finish marker = .error e) :
    r.Fails marker e := by
  obtain ⟨next, chain, around⟩ := r
  cases next with
  | clause | comparator _ | literal _ _ =>
    cases h
    exact .unexpected _ nofun
  | link last =>
    cases around with
    | nil => cases h
    | cons outer around =>
      cases h
      exact .unexpected .closingParen nofun
  | nothing =>
    cases h
    exact .limit .depth

/-- **Every way to fail reports the token.** -/
theorem reports_of_fails {r : Reading} {t : Token} {e : SyntaxError} (h : r.Fails t e) : e.Reports t r := by
  cases h with
  | unexpected expected busy => exact reports_unexpected busy t expected
  | trailing => exact ⟨⟨rfl, rfl⟩, iff_of_false nofun id⟩
  | limit overflows =>
    cases overflows with
    | depth => exact ⟨rfl, iff_of_true rfl trivial⟩
    | length _ _ => exact ⟨rfl, iff_of_false nofun id⟩

/-- A run that fails does so at one of its tokens, after taking those before it. -/
theorem failure_of_run {r : Reading} {ts : List Token} {e : SyntaxError} (h : r.run ts = .error e) :
    ∃ before t after q, ts = before ++ t :: after ∧ r.run before = .ok q ∧ q.step t = .error e := by
  induction ts generalizing r with
  | nil => cases h
  | cons t ts ih =>
    -- Either this token is the one that fails, or it is taken and a later one fails.
    cases step : r.step t with
    | error e' =>
      rw [run, List.foldlM_cons, step] at h
      cases h
      exact ⟨[], t, ts, r, rfl, rfl, step⟩
    | ok r' =>
      have taken := takes_of_step step
      rw [run_cons_of_takes taken] at h
      obtain ⟨before, u, after, q, rfl, reached, failed⟩ := ih h
      exact ⟨t :: before, u, after, q, rfl, (run_cons_of_takes taken before).trans reached, failed⟩

/-- The last token of a run is taken after a run over those before it. -/
theorem takes_of_run_concat {r q : Reading} {ts : List Token} {t : Token} (h : r.run (ts ++ [t]) = .ok q) :
    ∃ q', r.run ts = .ok q' ∧ q'.Takes t q := by
  induction ts generalizing r with
  | nil =>
    obtain ⟨r', taken, after⟩ := takes_of_run_cons h
    cases after
    exact ⟨r, rfl, taken⟩
  | cons u ts ih =>
    obtain ⟨r', taken, after⟩ := takes_of_run_cons h
    obtain ⟨q', reached, last⟩ := ih after
    exact ⟨q', (run_cons_of_takes taken ts).trans reached, last⟩

/-- What is taken is no end. -/
theorem kind_of_takes {r r' : Reading} {t : Token} (h : r.Takes t r') : t.kind ≠ .endOfInput := by
  cases h with
  | opens kind _ | opensTooDeep kind _ | names kind | compares kind | joins kind _ | closes kind =>
    rw [kind]
    nofun
  | completes kind =>
    rcases kind with kind | kind
    · rw [kind]
      nofun
    · rw [kind]
      nofun

/-- The end is never taken. -/
theorem plain_of_run {r q : Reading} {ts : List Token} (h : r.run ts = .ok q) :
    ∀ t ∈ ts, t.kind ≠ .endOfInput := by
  induction ts generalizing r with
  | nil => nofun
  | cons t ts ih =>
    obtain ⟨r', taken, after⟩ := takes_of_run_cons h
    exact List.forall_mem_cons.2 ⟨kind_of_takes taken, ih after⟩

/-! ## What cannot go on -/

/-- Tokens that a reading takes to the end of a sentence. -/
def Accepts (q : Reading) (us : List Token) : Prop :=
  ∃ last chain, q.run (content us) = .ok ⟨.link last, chain, []⟩

/-- No tokens that begin with this one are taken to the end of a sentence. -/
def Refuses (q : Reading) (t : Token) : Prop :=
  ∀ us, ¬q.Accepts (t :: us)

/-- Where the whole is parsed, what follows a run is accepted after it. -/
theorem accepts_of_parse {before us : List Token} {q : Reading} (reached : start.run before = .ok q) {s : Sentence}
    (h : parse (before ++ us) = .ok s) : q.Accepts us := by
  obtain ⟨last, chain, taken, _⟩ := parse_eq_ok_iff_run.1 h
  rw [content_append (plain_of_run reached), run_append_of_run reached] at taken
  exact ⟨last, chain, taken⟩

/-- A token at which the step fails is refused, whatever follows it. -/
theorem refuses_of_step {q : Reading} {t : Token} {e : SyntaxError} (plain : t.kind ≠ .endOfInput)
    (h : q.step t = .error e) : q.Refuses t := by
  rintro us ⟨last, chain, taken⟩
  rw [content_cons plain] at taken
  -- Accepted tokens would begin with this one taken.
  obtain ⟨q', first, _⟩ := takes_of_run_cons taken
  rw [step_of_takes first] at h
  cases h

theorem refuses_of_finish {q : Reading} {marker : Token} {e : SyntaxError} (ends : marker.kind = .endOfInput)
    (h : q.finish marker = .error e) : q.Refuses marker := by
  rintro us ⟨last, chain, taken⟩
  -- Behind the end nothing is looked at, so that the reading would have to be finished already.
  rw [content_of_marker ends] at taken
  cases taken
  cases h

/-- In a group that was opened too deep nothing can be read. -/
theorem not_accepts_of_nothing {q : Reading} (h : q.next = .nothing) (us : List Token) : ¬q.Accepts us := by
  obtain ⟨next, chain, around⟩ := q
  cases h
  rintro ⟨last, chain', taken⟩
  -- With no token left the reading is not at the end of a sentence, and it takes none.
  cases rest : content us with
  | nil =>
    rw [rest] at taken
    cases taken
  | cons t ts =>
    rw [rest] at taken
    obtain ⟨q', first, _⟩ := takes_of_run_cons taken
    cases first

/-! ## What can be completed

The text that completes a reading begins with a blank, so that it may stand behind any token. -/

section Completion

variable (chain : OpenChain) (around : List OpenChain)

theorem endsToken_cons (cs : List Char) : EndsToken (' ' :: cs) := by
  intro c mem
  cases mem
  decide

/-- A literal that is missing can be written: a zero. -/
theorem complete_literal (identifier : String) (c : Comparator) (position : Nat) {rest : List Char}
    (ends : EndsToken rest) :
    ∃ ts, Cuts position [' ', '0'] rest ts ∧ (⟨.literal identifier c, chain, around⟩ : Reading).run ts =
      .ok ⟨.link (.comparison ⟨identifier, c, "0"⟩), chain, around⟩ := by
  have word : IsWord "0" := by decide
  have blank : Cuts position [' '] (['0'] ++ rest) [] := Cuts.blank (by decide)
  exact ⟨_, blank.append (cuts_word word ends.endsWord), run_cons_of_takes (.completes (.inl rfl)) []⟩

/-- Before it the comparator. -/
theorem complete_comparator (identifier : String) (position : Nat) {rest : List Char} (ends : EndsToken rest) :
    ∃ ts, Cuts position [' ', '=', '=', ' ', '0'] rest ts ∧ (⟨.comparator identifier, chain, around⟩ : Reading).run ts =
      .ok ⟨.link (.comparison ⟨identifier, .eq, "0"⟩), chain, around⟩ := by
  have blank : Cuts position [' '] (['=', '='] ++ ([' ', '0'] ++ rest)) [] := Cuts.blank (by decide)
  have symbol := blank.append (cuts_comparator _ .eq trivial)
  obtain ⟨ts, literal, taken⟩ := complete_literal chain around identifier .eq _ ends
  exact ⟨_, symbol.append literal, (run_cons_of_takes (.compares rfl) ts).trans taken⟩

/-- And before that an identifier. -/
theorem complete_clause (position : Nat) {rest : List Char} (ends : EndsToken rest) :
    ∃ ts, Cuts position [' ', 'a', ' ', '=', '=', ' ', '0'] rest ts ∧ (⟨.clause, chain, around⟩ : Reading).run ts =
      .ok ⟨.link (.comparison ⟨"a", .eq, "0"⟩), chain, around⟩ := by
  have word : IsWord "a" := by decide
  have stop : EndsToken ([' ', '=', '=', ' ', '0'] ++ rest) := endsToken_cons _
  have blank : Cuts position [' '] (['a'] ++ ([' ', '=', '=', ' ', '0'] ++ rest)) [] := Cuts.blank (by decide)
  have name := blank.append (cuts_word word stop.endsWord)
  obtain ⟨ts, comparator, taken⟩ := complete_comparator chain around "a" _ ends
  exact ⟨_, name.append comparator, (run_cons_of_takes (.names rfl) ts).trans taken⟩

/-- Whatever a clause still needs can be written behind it. -/
theorem complete_next {next : Next} (busy : next ≠ .nothing) :
    ∃ cs last, ∀ position rest, EndsToken rest → EndsToken (cs ++ rest) ∧ ∃ ts, Cuts position cs rest ts ∧
      (⟨next, chain, around⟩ : Reading).run ts = .ok ⟨.link last, chain, around⟩ := by
  cases next with
  | clause => exact ⟨_, _, fun position _ ends => ⟨endsToken_cons _, complete_clause chain around position ends⟩⟩
  | comparator identifier =>
    exact ⟨_, _, fun position _ ends => ⟨endsToken_cons _, complete_comparator chain around identifier position ends⟩⟩
  | literal identifier c =>
    exact ⟨_, _, fun position _ ends => ⟨endsToken_cons _, complete_literal chain around identifier c position ends⟩⟩
  | link last => exact ⟨[], last, fun _ _ ends => ⟨ends, [], Cuts.nil, rfl⟩⟩
  | nothing => exact absurd rfl busy

/-- The open groups can be closed. Induction on the chains around them, each group being the last clause of the
next one. -/
theorem complete_groups (last : Clause) (chain : OpenChain) (around : List OpenChain) :
    ∃ cs, EndsToken cs ∧ ∀ position, ∃ ts last' chain', Cuts position cs [] ts ∧
      (⟨.link last, chain, around⟩ : Reading).run ts = .ok ⟨.link last', chain', []⟩ := by
  induction around generalizing last chain with
  | nil => exact ⟨[], nofun, fun _ => ⟨[], last, chain, Cuts.nil, rfl⟩⟩
  | cons outer around ih =>
    -- One parenthesis makes the open chain a group, which is the last clause of the chain around it.
    obtain ⟨cs, _, closed⟩ := ih (.group (chain.close last)) outer
    refine ⟨' ' :: ')' :: cs, endsToken_cons _, fun position => ?_⟩
    have blank : Cuts position [' '] ([')'] ++ (cs ++ [])) [] := Cuts.blank (by decide)
    have paren := blank.append (cuts_closeParen _ (cs ++ []))
    obtain ⟨ts, last', chain', cut, taken⟩ := closed (position + utf8Width [' ', ')'])
    exact ⟨_, last', chain', paren.append cut, (run_cons_of_takes (.closes rfl) ts).trans taken⟩

end Completion

/-- **What has been read can be completed**, unless a group has been opened too deep. -/
theorem completable_of_run {ts : List Token} {q : Reading} {front : List Char}
    (cut : ∀ rest, EndsToken rest → Cuts 0 front rest ts) (reached : start.run ts = .ok q)
    (busy : q.next ≠ .nothing) : Completable ts := by
  obtain ⟨next, chain, around⟩ := q
  obtain ⟨cs, last, clause⟩ := complete_next chain around busy
  obtain ⟨ds, stop, groups⟩ := complete_groups last chain around
  -- The closing text is cut where the missing part of the clause ends.
  obtain ⟨vs, last', chain', closings, closed⟩ := groups (0 + utf8Width front + utf8Width cs)
  rw [← List.append_nil ds] at stop
  obtain ⟨stop', us, missing, taken⟩ := clause (0 + utf8Width front) _ stop
  have run : start.run (ts ++ (us ++ vs)) = .ok ⟨.link last', chain', []⟩ := by
    rw [run_append_of_run reached, run_append_of_run taken, closed]
  have whole : Cuts 0 (front ++ (cs ++ ds)) [] (ts ++ (us ++ vs)) := by
    refine (cut _ ?_).append (missing.append closings)
    rwa [List.append_assoc]
  unfold Cuts at whole
  rw [List.append_nil, tokensFrom] at whole
  -- The text of the three parts ends with the marker, and is parsed up to it.
  let marker : Token := Token.endAt (0 + utf8Width (front ++ (cs ++ ds)))
  refine ⟨String.ofList (front ++ (cs ++ ds)), (ts ++ (us ++ vs)) ++ [marker], chain'.close last', ?_, ?_, ?_⟩
  · rw [tokenize, String.toList_ofList, whole]
    rfl
  · exact (List.prefix_append ts (us ++ vs)).trans (List.prefix_append _ _)
  · refine parse_eq_ok_iff_run.2 ⟨last', chain', ?_, rfl⟩
    rw [content_append_marker (plain_of_run run) rfl, run]

/-! ## Groups -/

theorem openGroups_cons (t : Token) (ts : List Token) : openGroups (t :: ts) = openGroups [t] + openGroups ts := by
  simp only [openGroups, List.countP_cons, List.countP_nil]
  omega

/-- A token that is taken opens and closes groups as it is counted. -/
theorem openGroups_of_takes {r r' : Reading} {t : Token} (h : r.Takes t r') :
    (r'.around.length : Int) = r.around.length + openGroups [t] := by
  cases h with
  | opens kind _ => simp [openGroups, kind]
  | opensTooDeep kind _ => simp [openGroups, kind]
  | names kind => simp [openGroups, kind]
  | compares kind => simp [openGroups, kind]
  | completes kind => rcases kind with kind | kind <;> simp [openGroups, kind]
  | joins kind _ => simp [openGroups, kind]
  -- The group that is closed is one that was open.
  | @closes last chain outer around _ kind =>
    have closed : openGroups [t] = -1 := by simp [openGroups, kind]
    have inside : ((outer :: around).length : Int) = around.length + 1 := by simp
    show (around.length : Int) = (outer :: around).length + openGroups [t]
    omega

/-- The groups that are open after a run are those that its tokens have opened and not closed. -/
theorem openGroups_of_run {r q : Reading} {ts : List Token} (h : r.run ts = .ok q) :
    (q.around.length : Int) = r.around.length + openGroups ts := by
  induction ts generalizing r with
  | nil =>
    cases h
    simp [openGroups]
  | cons t ts ih =>
    obtain ⟨r', taken, after⟩ := takes_of_run_cons h
    have first := openGroups_of_takes taken
    have others := ih after
    rw [openGroups_cons]
    omega

/-- **Where nothing can be taken,** the last token has opened a group too deep; before it something could. -/
theorem last_of_nothing {before : List Token} {q : Reading} (reached : start.run before = .ok q)
    (h : q.next = .nothing) :
    ∃ earlier opening q', before = earlier ++ [opening] ∧ start.run earlier = .ok q' ∧ q'.next ≠ .nothing ∧
      opening.kind = .openParen ∧ openGroups before = maxDepth := by
  rcases List.eq_nil_or_concat before with rfl | ⟨earlier, opening, rfl⟩
  · cases reached
    cases h
  rw [List.concat_eq_append] at reached ⊢
  obtain ⟨q', reached', taken⟩ := takes_of_run_concat reached
  have groups := openGroups_of_run reached
  obtain ⟨_, _, room⟩ := fits_run fits_start reached'
  -- Of all tokens only the parenthesis that opens a group too deep leaves nothing to take.
  cases taken with
  | @opensTooDeep chain around _ kind full =>
    refine ⟨earlier, opening, _, rfl, reached', nofun, kind, ?_⟩
    change around.length < maxDepth at room
    have deep : around.length + 1 = maxDepth := by omega
    have counted : ((around.length + 1 : Nat) : Int) = ((0 : Nat) : Int) + openGroups (earlier ++ [opening]) := groups
    omega
  | _ => cases h

end Reading

/-! ## The whole input -/

/-- **A parse that fails** does so at a token, after a run over those before it. -/
theorem failure_of_parse {body : List Token} (plain : ∀ t ∈ body, t.kind ≠ .endOfInput) {position : Nat}
    {e : SyntaxError} (failed : parse (body ++ [Token.endAt position]) = .error e) :
    ∃ before t after q, body ++ [Token.endAt position] = before ++ t :: after ∧ Reading.start.run before = .ok q ∧
      (t.kind ≠ .endOfInput ∧ q.step t = .error e ∨ t.kind = .endOfInput ∧ q.finish t = .error e) := by
  have unfolded : parse (body ++ [Token.endAt position]) =
      Reading.start.run body >>= fun r => r.finish (Token.endAt position) := parse_of_marker plain rfl []
  rw [unfolded] at failed
  -- The run over the tokens before the end fails, or the end does.
  cases run : Reading.start.run body with
  | error e' =>
    rw [run] at failed
    cases failed
    obtain ⟨before, t, after, q, rfl, reached, step⟩ := Reading.failure_of_run run
    have inside : t.kind ≠ .endOfInput := plain t (List.mem_append_right _ List.mem_cons_self)
    exact ⟨before, t, after ++ [Token.endAt position], q, List.append_assoc _ _ _, reached, .inl ⟨inside, step⟩⟩
  | ok q =>
    rw [run] at failed
    exact ⟨body, Token.endAt position, [], q, rfl, run, .inr ⟨rfl, failed⟩⟩

/-- The token at which a parse fails cannot follow those before it, and the error tells of that token. -/
theorem refusal_of_parse_error {body : List Token} (plain : ∀ t ∈ body, t.kind ≠ .endOfInput) {position : Nat}
    {e : SyntaxError} (failed : parse (body ++ [Token.endAt position]) = .error e) :
    ∃ before t after q, body ++ [Token.endAt position] = before ++ t :: after ∧
      Reading.start.run before = .ok q ∧ q.Refuses t ∧ e.Reports t q := by
  obtain ⟨before, t, after, q, split, reached, stops⟩ := failure_of_parse plain failed
  refine ⟨before, t, after, q, split, reached, ?_⟩
  rcases stops with ⟨inside, step⟩ | ⟨ends, finish⟩
  · exact ⟨Reading.refuses_of_step inside step, Reading.reports_of_fails (Reading.fails_of_step step)⟩
  · exact ⟨Reading.refuses_of_finish ends finish, Reading.reports_of_fails (Reading.fails_of_finish finish)⟩

/-- No more tokens can be completed than those before one that makes any list unacceptable. -/
theorem firstImpossible_of {ts : List Token} {k : Nat} (completable : Completable (ts.take k))
    (impossible : ∀ us s, ts.take (k + 1) <+: us → parse us ≠ .ok s) : FirstImpossible ts k := by
  refine ⟨completable, fun n _ longer => Nat.le_of_not_lt fun more => ?_, impossible⟩
  -- A longer beginning that can be completed would begin a list that is parsed.
  obtain ⟨_, us, s, _, begins, parsed⟩ := longer
  have shorter : ts.take (k + 1) <+: ts.take n := List.take_prefix_take_left (by omega)
  exact impossible us s (shorter.trans begins) parsed

/-- The token that is refused behind a completable reading is the first impossible one. -/
theorem firstImpossible_of_refusal {text : String} {before after : List Token} {t : Token} {q : Reading}
    (cut : tokenize text = .ok (before ++ t :: after)) (reached : Reading.start.run before = .ok q)
    (busy : q.next ≠ .nothing) (impossible : ∀ us s, parse (before ++ t :: us) ≠ .ok s) :
    FirstImpossible (before ++ t :: after) before.length := by
  have bound : before.length < (before ++ t :: after).length := by
    rw [List.length_append, List.length_cons]
    omega
  have first : (before ++ t :: after).take before.length = before := List.take_left
  have more : (before ++ t :: after).take (before.length + 1) = before ++ [t] := by
    rw [List.take_length_add_append, List.take_succ_cons, List.take_zero]
  apply firstImpossible_of
  · -- The pieces of the text up to that token are what has to be completed.
    obtain ⟨front, _, pieces⟩ := cuts_take cut bound
    rw [first] at pieces ⊢
    exact Reading.completable_of_run pieces reached busy
  · rw [more]
    rintro _ s ⟨us, rfl⟩
    rw [List.append_assoc]
    exact impossible us s

/-- An error that blames the token of a number points at it, unless it is the one on nesting. -/
theorem pointsAt_of_blames {ts : List Token} {k : Nat} {t : Token} (there : ts[k]? = some t) {e : SyntaxError}
    (blames : e.Blames t) (other : ¬e.IsNesting) : e.PointsAt ts k := by
  cases e with
  | unexpectedToken | trailingInput | unexpectedEnd | chainTooLong => exact ⟨t, there, blames⟩
  | nestingTooDeep => exact absurd trivial other

/-- **Syntax errors point at the first impossible token.** If the tokens of a text are refused, the error is about
the token behind the longest beginning that can be completed, and tells its position and its text; where groups nest
too deep that token is the parenthesis of the group, and the position is the next one. -/
theorem points_at_first_impossible {text : String} {ts : List Token} (cut : tokenize text = .ok ts) {e : SyntaxError}
    (failed : parse ts = .error e) : ∃ k, FirstImpossible ts k ∧ e.PointsAt ts k := by
  obtain ⟨body, marked, plain⟩ := marked_of_tokensFrom cut
  rw [marked] at failed
  obtain ⟨before, t, after, q, split, reached, refused, blames, nesting⟩ := refusal_of_parse_error plain failed
  rw [marked, split] at cut ⊢
  by_cases stuck : q.next = .nothing
  · -- The parenthesis that opened the group is the last token that was taken.
    obtain ⟨earlier, opening, q', rfl, reached', busy, opens, deep⟩ := Reading.last_of_nothing reached stuck
    have none : ∀ us s, parse (earlier ++ opening :: us) ≠ .ok s := by
      intro us s parsed
      rw [← List.singleton_append, ← List.append_assoc] at parsed
      exact Reading.not_accepts_of_nothing stuck us (Reading.accepts_of_parse reached parsed)
    rw [List.append_assoc, List.singleton_append] at cut ⊢
    refine ⟨earlier.length, firstImpossible_of_refusal cut reached' busy none, ?_⟩
    cases e with
    | nestingTooDeep position limit =>
      refine ⟨⟨opening, by simp, opens⟩, ?_, t, by simp, blames⟩
      rw [List.take_length_add_append, List.take_succ_cons, List.take_zero, deep]
    | unexpectedToken | trailingInput | unexpectedEnd | chainTooLong => exact absurd (nesting.1 stuck) id
  · -- The token itself is refused.
    have none : ∀ us s, parse (before ++ t :: us) ≠ .ok s :=
      fun us s parsed => refused us (Reading.accepts_of_parse reached parsed)
    refine ⟨before.length, firstImpossible_of_refusal cut reached stuck none, ?_⟩
    have there : (before ++ t :: after)[before.length]? = some t := by simp
    exact pointsAt_of_blames there blames fun nests => stuck (nesting.2 nests)

/-- Inside the group a name has no comparator: the parenthesis behind it is what cannot follow. -/
theorem points_at_parenthesis_for_comparator :
    let ts : List Token := [⟨.openParen, "(", 0⟩, ⟨.word, "a", 1⟩, ⟨.comparator .eq, "==", 3⟩, ⟨.word, "1", 6⟩,
      ⟨.conjunction .or, "or", 8⟩, ⟨.word, "b", 11⟩, ⟨.closeParen, ")", 12⟩, ⟨.conjunction .and, "and", 14⟩,
      ⟨.word, "c", 18⟩, ⟨.endOfInput, "", 19⟩]
    let e : SyntaxError := .unexpectedToken 12 .comparator ")"
    tokenize "(a == 1 or b) and c" = .ok ts ∧ parse ts = .error e ∧ ∃ k, FirstImpossible ts k ∧ e.PointsAt ts k := by
  intro ts e
  have cut : tokenize "(a == 1 or b) and c" = .ok ts := by with_unfolding_all rfl
  have failed : parse ts = .error e := rfl
  exact ⟨cut, failed, points_at_first_impossible cut failed⟩

end SurveyFlow
