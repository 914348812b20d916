import SurveyFlow.Proofs.Condition.Written

/-!
# The spacing of a text

Blanks only keep tokens apart. A text with the same tokens and other gaps between them (`Respaced`) is cut into tokens
of the same kinds and texts (`faces_of_respaced`), as no token goes on into a gap and none is cut in two. And the parser
looks at kinds and texts alone: it reads the same sentence from tokens that stand elsewhere, or meets the same error at
another position (`parse_elsewhere`). Both together are `parseCondition_of_respaced`.
-/

namespace SurveyFlow

/-! ## Texts with other gaps -/

/-- Blanks that may stand in the place of others: a gap is not closed. -/
structure Regaps (gap gap' : List Char) : Prop where
  blank : ∀ c ∈ gap, isBlank c = true
  blank' : ∀ c ∈ gap', isBlank c = true
  stays : gap ≠ [] → gap' ≠ []

/-- The second text has the tokens of the first one, written with the same characters, and other gaps around them.
Blanks may be put in before each token and behind the last one, and those that are there may be replaced. -/
inductive Respaced : List Char → List Char → Prop where
  | ending {gap gap' : List Char} (gaps : Regaps gap gap') : Respaced gap gap'
  | token {gap gap' span rest rest' text : List Char} {kind : TokenKind} (gaps : Regaps gap gap')
    (spells : kind.Spells span text) (ends : kind.EndsBefore rest) (others : Respaced rest rest') :
    Respaced (gap ++ (span ++ rest)) (gap' ++ (span ++ rest'))

/-- Every token is written with some characters. -/
theorem ne_nil_of_spells {kind : TokenKind} {span text : List Char} (h : kind.Spells span text) : span ≠ [] := by
  rintro rfl
  exact Nat.lt_irrefl 0 (utf8Width_pos_of_spells h)

/-- Where blanks have been put in, the text begins with one; elsewhere it begins as it did. -/
theorem Respaced.looksLike {cs cs' : List Char} (h : Respaced cs cs') : LooksLike cs' cs := by
  cases h with
  | ending gaps =>
    right
    intro c mem
    exact gaps.blank' c (List.mem_of_mem_head? mem)
  | @token gap gap' span rest rest' _ _ gaps spells _ _ =>
    cases gap' with
    | nil =>
      left
      have closed : gap = [] := Classical.not_not.1 fun opened => gaps.stays opened rfl
      obtain ⟨c, more, rfl⟩ := List.exists_cons_of_ne_nil (ne_nil_of_spells spells)
      rw [closed]
      rfl
    | cons c gap' =>
      right
      rintro d ⟨⟩
      exact gaps.blank' c List.mem_cons_self

/-- A token that ends before a text ends before one that looks like it. -/
theorem TokenKind.EndsBefore.of_looksLike {kind : TokenKind} {rest rest' : List Char} (h : kind.EndsBefore rest)
    (looks : LooksLike rest' rest) : kind.EndsBefore rest' := by
  cases kind with
  | word => exact looks.endsWord h
  | conjunction c => exact looks.endsWord h
  | comparator k =>
    rcases looks with same | blank
    · unfold TokenKind.EndsBefore EndsWord at h ⊢
      rw [same]
      exact h
    · refine endsBefore_comparator (fun head => ?_) k
      have impossible : isBlank '=' = true := blank '=' head
      exact absurd impossible (by decide)
  | quoted | openParen | closeParen | endOfInput => trivial

/-- **A respaced text has the same tokens.** Induction on the text, which may stand at any two places. -/
theorem Respaced.laidOut {cs cs' : List Char} (h : Respaced cs cs') (position position' : Nat) :
    ∃ ts ts', LaidOut position cs ts ∧ LaidOut position' cs' ts' ∧ ts'.map Token.face = ts.map Token.face := by
  induction h generalizing position position' with
  | ending gaps => exact ⟨_, _, .ending gaps.blank, .ending gaps.blank', rfl⟩
  | @token gap gap' span _ _ _ _ gaps spells ends others ih =>
    obtain ⟨ts, ts', laid, laid', same⟩ :=
      ih (position + utf8Width gap + utf8Width span) (position' + utf8Width gap' + utf8Width span)
    have ends' := ends.of_looksLike others.looksLike
    refine ⟨_, _, .token gaps.blank spells ends laid, .token gaps.blank' spells ends' laid', ?_⟩
    exact List.cons_eq_cons.2 ⟨rfl, same⟩

/-- **A text with other blanks has the same tokens** but for their positions. -/
theorem faces_of_respaced {text text' : String} {ts : List Token} (tokens : tokenize text = .ok ts)
    (respaced : Respaced text.toList text'.toList) :
    ∃ ts', tokenize text' = .ok ts' ∧ ts'.map Token.face = ts.map Token.face := by
  obtain ⟨us, ts', laid, laid', same⟩ := respaced.laidOut 0 0
  -- A text has one layout only.
  have whole : us = ts := Except.ok.inj ((tokensFrom_of_laidOut laid).symm.trans tokens)
  exact ⟨ts', tokensFrom_of_laidOut laid', whole ▸ same⟩

/-! ## Errors at other positions -/

/-- The same error at another position. -/
def LexicalError.moveTo (position : Nat) : LexicalError → LexicalError
  | unrecognizedCharacter _ character => unrecognizedCharacter position character
  | unterminatedQuote _ => unterminatedQuote position

/-- The same error at another position. -/
def SyntaxError.moveTo (position : Nat) : SyntaxError → SyntaxError
  | unexpectedToken _ expected found => unexpectedToken position expected found
  | trailingInput _ found => trailingInput position found
  | unexpectedEnd _ expected => unexpectedEnd position expected
  | nestingTooDeep _ limit => nestingTooDeep position limit
  | chainTooLong _ limit => chainTooLong position limit

/-- The same error at another position, if it has one. -/
def ConditionError.moveTo (position : Nat) : ConditionError → ConditionError
  | lexical e => lexical (e.moveTo position)
  | grammatical e => grammatical (e.moveTo position)
  | evaluation e => evaluation e

/-! ## Parsing tokens that stand elsewhere -/

section

variable {t u : Token} (same : u.face = t.face)

include same

/-- An error about a token elsewhere is the same error there. -/
theorem unexpected_elsewhere (expected : Expected) :
    u.unexpected expected = (t.unexpected expected).moveTo u.position := by
  unfold Token.unexpected
  rw [Token.kind_of_face same, Token.text_of_face same]
  split
  · rfl
  · split
    · rfl
    · rfl

/-- A step asks what the token says, and an error adds where it stands. -/
theorem Reading.step_elsewhere (r : Reading) : r.step u = (r.step t).mapError (SyntaxError.moveTo u.position) := by
  have kind := Token.kind_of_face same
  have text := Token.text_of_face same
  obtain ⟨next, chain, around⟩ := r
  cases next with
  | clause =>
    simp only [step, kind, text, unexpected_elsewhere same]
    split <;> rfl
  | comparator identifier =>
    simp only [step, kind, unexpected_elsewhere same]
    split <;> rfl
  | literal identifier c =>
    simp only [step, kind, text, unexpected_elsewhere same]
    split <;> rfl
  | link last =>
    simp only [step, stepLink, kind, text, unexpected_elsewhere same]
    split
    · split <;> rfl
    · rfl
    · rfl
    · rfl
  | nothing => rfl

/-- A reading that ends elsewhere ends in the same way. -/
theorem Reading.finish_elsewhere (r : Reading) :
    r.finish u = (r.finish t).mapError (SyntaxError.moveTo u.position) := by
  obtain ⟨next, chain, around⟩ := r
  cases next with
  | clause | comparator _ | literal _ _ =>
    simp only [finish, unexpected_elsewhere same]
    rfl
  | link last =>
    cases around with
    | nil => rfl
    | cons outer around =>
      simp only [finish, unexpected_elsewhere same]
      rfl
  | nothing => rfl

end

section

variable {ts us : List Token} (same : us.map Token.face = ts.map Token.face)

include same

/-- A run over the same tokens elsewhere comes to the same reading, or to the same error somewhere. -/
theorem Reading.run_elsewhere (r : Reading) :
    ∃ position, r.run us = (r.run ts).mapError (SyntaxError.moveTo position) := by
  induction ts generalizing us r with
  | nil =>
    rw [List.map_eq_nil_iff.1 same]
    exact ⟨0, rfl⟩
  | cons t ts ih =>
    obtain ⟨u, us, rfl, first, others⟩ := List.map_eq_cons_iff.1 same
    rw [run, run, List.foldlM_cons, List.foldlM_cons, step_elsewhere first]
    cases r.step t with
    | error e => exact ⟨u.position, rfl⟩
    | ok r' => exact ih others r'

/-- The tokens before the end are the same, too. -/
theorem content_elsewhere : (content us).map Token.face = (content ts).map Token.face := by
  have face : ∀ vs : List Token,
      (content vs).map Token.face = (vs.map Token.face).takeWhile fun f => f.1 ≠ .endOfInput := by
    intro vs
    rw [List.takeWhile_map]
    rfl
  rw [face, face, same]

/-- **The parser does not ask where tokens stand.** -/
theorem parse_elsewhere : ∃ position, parse us = (parse ts).mapError (SyntaxError.moveTo position) := by
  have unfolded : ∀ vs, parse vs = Reading.start.run (content vs) >>= fun r => r.finish (ending vs) := fun _ => rfl
  have marker : ∀ vs, (ending vs).face = (.endOfInput, "") := by
    intro vs
    unfold ending
    split <;> rfl
  obtain ⟨position, moved⟩ := Reading.start.run_elsewhere (content_elsewhere same)
  rw [unfolded, unfolded, moved]
  cases Reading.start.run (content ts) with
  | error e => exact ⟨position, rfl⟩
  | ok r => exact ⟨_, r.finish_elsewhere ((marker us).trans (marker ts).symm)⟩

end

/-! ## Conditions -/

/-- A text that can be cut is read as its tokens are parsed. -/
theorem parseCondition_of_tokenize {text : String} {ts : List Token} (tokens : tokenize text = .ok ts) :
    parseCondition text = (parse ts).mapError .grammatical := by
  unfold parseCondition
  rw [tokens]
  dsimp only
  cases parse ts <;> rfl

/-- **Spacing does not matter.** A text and a respaced one have tokens of the same kinds and texts, and are read as the
same sentence, or refused with the same error up to its position. -/
theorem parseCondition_of_respaced {text text' : String} {ts : List Token} (tokens : tokenize text = .ok ts)
    (respaced : Respaced text.toList text'.toList) :
    (∃ ts', tokenize text' = .ok ts' ∧ ts'.map Token.face = ts.map Token.face) ∧
      ∃ position, parseCondition text' = (parseCondition text).mapError (ConditionError.moveTo position) := by
  obtain ⟨ts', tokens', same⟩ := faces_of_respaced tokens respaced
  obtain ⟨position, moved⟩ := parse_elsewhere same
  refine ⟨⟨ts', tokens', same⟩, position, ?_⟩
  rw [parseCondition_of_tokenize tokens, parseCondition_of_tokenize tokens', moved]
  cases parse ts <;> rfl

/-- A quoted text keeps its blank, and a gap may be a character that is also a control character. Both texts lack the
clause behind the conjunction, each at its own end. -/
theorem parseCondition_of_respaced_unfinished :
    let text := "c <\" b\"or"
    let text' := "\nc\u00A0< \" b\"\u0085or "
    let ts : List Token := [⟨.word, "c", 0⟩, ⟨.comparator .lt, "<", 2⟩, ⟨.quoted, " b", 3⟩, ⟨.conjunction .or, "or", 7⟩,
      ⟨.endOfInput, "", 9⟩]
    (tokenize text = .ok ts ∧ Respaced text.toList text'.toList) ∧
      parseCondition text = .error (.grammatical (.unexpectedEnd 9 .clause)) ∧
      (∃ ts', tokenize text' = .ok ts' ∧ ts'.map Token.face = ts.map Token.face) ∧
      ∃ position, parseCondition text' = .error (.grammatical (.unexpectedEnd position .clause)) := by
  intro text text' ts
  have tokens : tokenize "c <\" b\"or" = .ok ts := by with_unfolding_all rfl
  have failed : parseCondition text = .error (.grammatical (.unexpectedEnd 9 .clause)) := by
    rw [parseCondition_of_tokenize tokens]
    rfl
  have name : TokenKind.word.Spells ['c'] ['c'] := by
    refine .word (List.cons_ne_nil 'c' []) (List.forall_mem_singleton.2 (by decide)) fun k => ?_
    cases k <;> decide
  have literal : TokenKind.quoted.Spells ('"' :: ([' ', 'b'] ++ ['"'])) [' ', 'b'] :=
    .quoted (.plain (by decide) (by decide) (.plain (by decide) (by decide) .nil))
  have gap : ∀ cs ds : List Char, cs.all isBlank = true → ds.all isBlank = true → (cs ≠ [] → ds ≠ []) → Regaps cs ds :=
    fun _ _ blank blank' stays => ⟨List.all_eq_true.1 blank, List.all_eq_true.1 blank', stays⟩
  have respaced : Respaced text.toList text'.toList := by
    have whole : text.toList = [] ++ (['c'] ++ ([' '] ++ (Comparator.lt.symbol.toList ++ ([] ++
        ('"' :: ([' ', 'b'] ++ ['"']) ++ ([] ++ (Conjunction.or.word.toList ++ []))))))) := by decide
    have whole' : text'.toList = ['\n'] ++ (['c'] ++ (['\u00A0'] ++ (Comparator.lt.symbol.toList ++ ([' '] ++
        ('"' :: ([' ', 'b'] ++ ['"']) ++ (['\u0085'] ++ (Conjunction.or.word.toList ++ [' ']))))))) := by decide
    rw [whole, whole']
    refine .token (gap _ _ (by decide) (by decide) (by decide)) name (endsWord_cons (by decide)) ?_
    refine .token (gap _ _ (by decide) (by decide) (by decide)) (.comparator .lt)
      (endsBefore_comparator (by decide) .lt) ?_
    refine .token (gap _ _ (by decide) (by decide) (by decide)) literal trivial ?_
    refine .token (gap _ _ (by decide) (by decide) (by decide)) (.conjunction .or) endsWord_nil ?_
    exact .ending (gap _ _ (by decide) (by decide) (by decide))
  obtain ⟨faces, position, moved⟩ := parseCondition_of_respaced tokens respaced
  rw [failed] at moved
  exact ⟨⟨tokens, respaced⟩, failed, faces, position, moved⟩

end SurveyFlow
