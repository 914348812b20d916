import SurveyFlow.Proofs.Condition.Prefixes

/-!
# The layout of a text

The tokens of a text lie side by side in it with nothing but blanks between them (`LaidOut`): each of them is written
with the characters at its position (`TokenKind.Spells`) and goes as far as it can (`TokenKind.EndsBefore`). A text is
cut into tokens exactly as it is laid out (`tokensFrom_eq_ok_iff_laidOut`), so there is one layout at most; and where a
text has none, the error is at the first character with which no token can begin (`refused_of_tokensFrom`).
-/

namespace SurveyFlow

/-- A token of the kind with the text `text` is written as `span`. -/
inductive TokenKind.Spells : TokenKind → (span text : List Char) → Prop where
  | word {run : List Char} (nonempty : run ≠ []) (solid : ∀ c ∈ run, isWordChar c = true)
    (plain : ∀ c : Conjunction, run ≠ c.word.toList) : Spells .word run run
  | conjunction (c : Conjunction) : Spells (.conjunction c) c.word.toList c.word.toList
  | comparator (c : Comparator) : Spells (.comparator c) c.symbol.toList c.symbol.toList
  | openParen : Spells .openParen ['('] ['(']
  | closeParen : Spells .closeParen [')'] [')']
  | quoted {written text : List Char} (inside : Unescapes written text) :
    Spells .quoted ('"' :: (written ++ ['"'])) text

/-- The characters, of which the first one is at byte `position`, are blanks and the tokens between them, in order, and
the end of the input behind them. -/
inductive LaidOut : Nat → List Char → List Token → Prop where
  | ending {position : Nat} {gap : List Char} (blank : ∀ c ∈ gap, isBlank c = true) :
    LaidOut position gap [Token.endAt (position + utf8Width gap)]
  | token {position : Nat} {gap span rest text : List Char} {kind : TokenKind} {ts : List Token}
    (blank : ∀ c ∈ gap, isBlank c = true) (spells : kind.Spells span text) (ends : kind.EndsBefore rest)
    (others : LaidOut (position + utf8Width gap + utf8Width span) rest ts) :
    LaidOut position (gap ++ (span ++ rest)) (⟨kind, String.ofList text, position + utf8Width gap⟩ :: ts)

/-- No token begins with the first of these characters, at byte `position`, and this is the error. -/
inductive Refused (position : Nat) : List Char → LexicalError → Prop where
  | control {c : Char} (rest : List Char) (solid : isBlank c = false) (control : isControl c = true) :
    Refused position (c :: rest) (.unrecognizedCharacter position c)
  | bare {c : Char} {rest : List Char} (bare : c = '=' ∨ c = '!') (single : rest.head? ≠ some '=') :
    Refused position (c :: rest) (.unrecognizedCharacter position c)
  | unclosed {rest : List Char} (unclosed : ∀ written text, Unescapes written text → ¬written ++ ['"'] <+: rest) :
    Refused position ('"' :: rest) (.unterminatedQuote position)

theorem Refused.position_eq {position : Nat} {rest : List Char} {e : LexicalError} (h : Refused position rest e) :
    e.position = position := by
  cases h <;> rfl

/-! ## What is cut off is written so -/

/-- The symbol of a comparator is its first character, and an equals sign if one follows. -/
theorem symbol_of_comparatorOf? {c : Char} {followed : Bool} {k : Comparator} (h : comparatorOf? c followed = some k) :
    k.symbol.toList = c :: (if followed then ['='] else []) ∧
      (followed = true → ∀ rest, (TokenKind.comparator k).EndsBefore rest) := by
  unfold comparatorOf? at h
  split at h
  · cases h
    exact ⟨rfl, fun _ _ => trivial⟩
  · cases h
    exact ⟨rfl, fun _ _ => trivial⟩
  · cases h
    exact ⟨rfl, fun _ _ => trivial⟩
  · cases h
    exact ⟨rfl, fun _ _ => trivial⟩
  · cases h
    exact ⟨rfl, nofun⟩
  · cases h
    exact ⟨rfl, nofun⟩
  · cases h

/-- A text is a conjunction exactly if it is the word of one. -/
theorem ofWord?_eq_some_iff {word : String} {k : Conjunction} : Conjunction.ofWord? word = some k ↔ word = k.word := by
  unfold Conjunction.ofWord?
  split
  · next same =>
    rw [same]
    cases k with
    | and => exact ⟨fun _ => rfl, fun _ => rfl⟩
    | or => exact ⟨nofun, nofun⟩
  split
  · next same =>
    rw [same]
    cases k with
    | and => exact ⟨nofun, nofun⟩
    | or => exact ⟨fun _ => rfl, fun _ => rfl⟩
  · next noAnd noOr =>
    cases k with
    | and => exact ⟨nofun, fun same => absurd same noAnd⟩
    | or => exact ⟨nofun, fun same => absurd same noOr⟩

/-- A run is no conjunction exactly if it is not the word of one. -/
theorem ofWord?_ofList_eq_none_iff {run : List Char} :
    Conjunction.ofWord? (String.ofList run) = none ↔ ∀ c : Conjunction, run ≠ c.word.toList := by
  constructor
  · rintro plain c rfl
    rw [String.ofList_toList, ofWord?_eq_some_iff.2 rfl] at plain
    cases plain
  · intro plain
    refine Option.eq_none_iff_forall_ne_some.2 fun c found => plain c ?_
    rw [← ofWord?_eq_some_iff.1 found, String.toList_ofList]

/-- A run of word characters spells a conjunction or a word. -/
theorem spells_of_run {run : List Char} (nonempty : run ≠ []) (solid : ∀ c ∈ run, isWordChar c = true) :
    (wordKind run).Spells run run := by
  unfold wordKind
  split
  · next conjunction found =>
    have word : run = conjunction.word.toList := by rw [← ofWord?_eq_some_iff.1 found, String.toList_ofList]
    rw [word]
    exact .conjunction conjunction
  · next plain => exact .word nonempty solid (ofWord?_ofList_eq_none_iff.1 plain)

theorem endsBefore_wordKind {rest : List Char} (ends : EndsWord rest) (run : List Char) :
    (wordKind run).EndsBefore rest := by
  unfold wordKind
  split
  · exact ends
  · exact ends

/-- **A token is cut off whole, and no more.** -/
theorem spells_of_lexeme {position : Nat} {c : Char} {cs : List Char} {l : Lexeme} (solid : isBlank c = false)
    (h : lexeme position c cs = .ok l) : l.kind.Spells l.span l.text ∧ l.kind.EndsBefore l.rest := by
  -- The cases are those of the lexer.
  unfold lexeme at h
  split at h
  · next opens =>
    cases h
    exact ⟨opens ▸ .openParen, trivial⟩
  split at h
  · next closes =>
    cases h
    exact ⟨closes ▸ .closeParen, trivial⟩
  split at h
  · next quotes =>
    split at h
    · next m found =>
      cases h
      obtain ⟨written, inside, same⟩ := unescapes_of_quotedTail? found
      rw [same, quotes]
      exact ⟨.quoted inside, trivial⟩
    · cases h
  split at h
  · split at h
    next more behind same =>
    split at h
    · next k found =>
      cases h
      obtain ⟨symbol, greedy⟩ := symbol_of_comparatorOf? found
      -- A symbol of two characters is complete; one of one character is not followed by an equals sign.
      split at same
      · cases same
        exact ⟨symbol ▸ .comparator k, greedy rfl behind⟩
      · next single =>
        cases same
        refine ⟨symbol ▸ .comparator k, endsBefore_comparator (fun head => ?_) k⟩
        obtain ⟨rest, same⟩ := List.head?_eq_some_iff.1 head
        exact single rest same
    · cases h
  next noReserved =>
  split at h
  · cases h
  next noControl =>
  cases h
  -- What is left is a run of word characters, which the lexer takes whole.
  have run : ∀ d ∈ c :: cs.takeWhile isWordChar, isWordChar d = true := by
    refine List.forall_mem_cons.2 ⟨by simp [isWordChar, solid, noReserved, noControl], fun d mem => ?_⟩
    exact List.all_eq_true.1 List.all_takeWhile d mem
  exact ⟨spells_of_run (List.cons_ne_nil c _) run, endsBefore_wordKind (endsWord_dropWhile cs) _⟩

/-! ## A text with tokens is laid out -/

section

variable {position : Nat} {cs : List Char} {ts : List Token}

/-- A text behind a blank is laid out as before, from one blank further to the left. -/
theorem LaidOut.blank {c : Char} (blank : isBlank c = true) (h : LaidOut (position + c.utf8Size) cs ts) :
    LaidOut position (c :: cs) ts := by
  cases h with
  | ending blanks =>
    rw [Nat.add_assoc, ← utf8Width_cons]
    exact .ending (List.forall_mem_cons.2 ⟨blank, blanks⟩)
  -- The blank joins those in front of the first token.
  | token blanks spells ends others =>
    rw [Nat.add_assoc position, ← utf8Width_cons] at others ⊢
    rw [← List.cons_append]
    exact .token (List.forall_mem_cons.2 ⟨blank, blanks⟩) spells ends others

/-- **A text that is cut into tokens is laid out as them.** Induction on the cutting, token by token. -/
theorem laidOut_of_tokensFrom (h : tokensFrom position cs = .ok ts) : LaidOut position cs ts := by
  fun_induction tokensFrom position cs generalizing ts with
  | case1 position =>
    cases h
    exact .ending (List.forall_mem_nil _)
  | case2 position c cs blank ih => exact (ih h).blank blank
  | case3 position c cs solid e failed => cases h
  | case4 position c cs solid l found ih =>
    obtain ⟨us, others, rfl⟩ := exists_of_map_eq_ok h
    obtain ⟨spells, ends⟩ := spells_of_lexeme (Bool.eq_false_iff.2 solid) found
    -- What was cut off and what is left are the whole text again.
    rw [← lexeme_span found]
    exact .token (List.forall_mem_nil _) spells ends (ih others)

/-! ## A text that is laid out has these tokens -/

/-- A token that is written out whole, before what it does not go on into, is cut off. -/
theorem cuts_of_spells {kind : TokenKind} {span text rest : List Char} (spells : kind.Spells span text)
    (ends : kind.EndsBefore rest) : Cuts position span rest [⟨kind, String.ofList text, position⟩] := by
  cases spells with
  | word nonempty solid plain =>
    have noConjunction := ofWord?_ofList_eq_none_iff.2 plain
    have word : IsWord (String.ofList span) := ⟨by simpa using nonempty, noConjunction, by simpa using solid⟩
    simpa using cuts_word word ends
  | conjunction c =>
    rw [String.ofList_toList]
    exact cuts_conjunction position c ends
  | comparator c =>
    rw [String.ofList_toList]
    exact cuts_comparator position c ends
  | openParen => exact cuts_openParen position rest
  | closeParen => exact cuts_closeParen position rest
  | quoted inside => exact cuts_quoted position inside rest

/-- Blanks are cut into no tokens. -/
theorem cuts_gap (position : Nat) {gap : List Char} (blank : ∀ c ∈ gap, isBlank c = true) (rest : List Char) :
    Cuts position gap rest [] := by
  induction gap generalizing position with
  | nil => exact .nil
  | cons c gap ih =>
    obtain ⟨first, others⟩ := List.forall_mem_cons.1 blank
    exact (Cuts.blank first).append (ih _ others)

/-- **A text that is laid out as tokens is cut into them.** Induction on the layout. -/
theorem tokensFrom_of_laidOut (h : LaidOut position cs ts) : tokensFrom position cs = .ok ts := by
  induction h with
  | @ending position gap blank =>
    have cut := cuts_gap position blank []
    rw [Cuts, List.append_nil, tokensFrom] at cut
    exact cut
  | @token position _ _ rest _ _ _ blank spells ends _ ih =>
    have cut := (cuts_gap position blank _).append (cuts_of_spells spells ends)
    rw [Cuts, List.append_assoc, utf8Width_append, ← Nat.add_assoc, ih] at cut
    exact cut

/-- **A text is cut into tokens as it is laid out.** -/
theorem tokensFrom_eq_ok_iff_laidOut : tokensFrom position cs = .ok ts ↔ LaidOut position cs ts :=
  ⟨laidOut_of_tokensFrom, tokensFrom_of_laidOut⟩

/-! ## Positions -/

/-- Every token is written with some characters. -/
theorem utf8Width_pos_of_spells {kind : TokenKind} {span text : List Char} (h : kind.Spells span text) :
    0 < utf8Width span := by
  have wide : ∀ (c : Char) (more : List Char), 0 < utf8Width (c :: more) := fun c more =>
    Nat.lt_of_lt_of_le c.utf8Size_pos (Nat.le_add_right _ (utf8Width more))
  cases h with
  | word nonempty _ _ =>
    obtain ⟨c, more, same⟩ := List.exists_cons_of_ne_nil nonempty
    rw [same]
    exact wide c more
  | conjunction c => cases c <;> exact wide _ _
  | comparator c => cases c <;> exact wide _ _
  | openParen => exact wide _ _
  | closeParen => exact wide _ _
  | quoted inside => exact wide _ _

/-- No token stands before the text does. -/
theorem LaidOut.le_position (h : LaidOut position cs ts) : ∀ t ∈ ts, position ≤ t.position := by
  induction h with
  | ending blank => exact List.forall_mem_singleton.2 (Nat.le_add_right _ _)
  | token blank spells ends _ ih =>
    refine List.forall_mem_cons.2 ⟨Nat.le_add_right _ _, fun t mem => ?_⟩
    exact Nat.le_trans (Nat.le_trans (Nat.le_add_right _ _) (Nat.le_add_right _ _)) (ih t mem)

/-- Each token stands behind the whole of the one before it, which has at least one character. -/
theorem LaidOut.pairwise (h : LaidOut position cs ts) : ts.Pairwise fun t u => t.position < u.position := by
  induction h with
  | ending blank => exact List.pairwise_singleton _ _
  | token blank spells ends others ih =>
    refine List.pairwise_cons.2 ⟨fun u mem => ?_, ih⟩
    exact Nat.lt_of_lt_of_le (Nat.lt_add_of_pos_right (utf8Width_pos_of_spells spells)) (others.le_position u mem)

/-! ## A text without tokens -/

/-- No closing quote is found exactly if nothing that could stand between quotes is closed by one. -/
theorem quotedTail?_eq_none_iff {rest : List Char} :
    quotedTail? rest = none ↔ ∀ written text, Unescapes written text → ¬written ++ ['"'] <+: rest := by
  constructor
  · rintro none written text inside ⟨behind, rfl⟩
    have found := quotedTail?_of_unescapes inside behind
    rw [List.append_assoc, List.singleton_append, found] at none
    cases none
  · intro unclosed
    cases found : quotedTail? rest with
    | none => rfl
    | some l =>
      -- What is found would be closed.
      obtain ⟨written, inside, same⟩ := unescapes_of_quotedTail? found
      have whole := quotedTail?_span found
      rw [same] at whole
      exact absurd ⟨l.rest, whole⟩ (unclosed written l.text inside)

/-- The only characters that begin a comparator and are none alone are `=` and `!`. -/
theorem comparatorOf?_eq_none {c : Char} {followed : Bool} (reserved : isReserved c = true)
    (noParen : c ≠ '(' ∧ c ≠ ')') (noQuote : c ≠ '"') (h : comparatorOf? c followed = none) :
    (c = '=' ∨ c = '!') ∧ followed = false := by
  have known : c = '=' ∨ c = '!' ∨ c = '<' ∨ c = '>' := by
    simpa [isReserved, noParen.1, noParen.2, noQuote] using reserved
  rcases known with rfl | rfl | rfl | rfl
  · cases followed with
    | true => cases h
    | false => exact ⟨.inl rfl, rfl⟩
  · cases followed with
    | true => cases h
    | false => exact ⟨.inr rfl, rfl⟩
  · cases followed <;> cases h
  · cases followed <;> cases h

/-- Cutting stops only where no token begins. -/
theorem refused_of_lexeme {c : Char} {e : LexicalError} (solid : isBlank c = false)
    (h : lexeme position c cs = .error e) : Refused position (c :: cs) e := by
  -- The cases are those of the lexer.
  unfold lexeme at h
  split at h
  · cases h
  next noOpen =>
  split at h
  · cases h
  next noClose =>
  split at h
  · next quotes =>
    split at h
    · cases h
    · next none =>
      cases h
      exact quotes ▸ .unclosed (quotedTail?_eq_none_iff.1 none)
  next noQuote =>
  split at h
  · next reserved =>
    split at h
    next more behind same =>
    split at h
    · cases h
    · next none =>
      cases h
      obtain ⟨bare, alone⟩ := comparatorOf?_eq_none reserved ⟨noOpen, noClose⟩ noQuote none
      split at same
      · cases same
        cases alone
      · next single =>
        refine .bare bare fun head => ?_
        obtain ⟨rest, same⟩ := List.head?_eq_some_iff.1 head
        exact single rest same
  split at h
  · next control =>
    cases h
    exact .control cs solid control
  · cases h

/-- **An error is where the tokens end.** What stands before it has tokens of its own, and behind them none begins. -/
theorem refused_of_tokensFrom {e : LexicalError} (h : tokensFrom position cs = .error e) :
    ∃ left right us, cs = left ++ right ∧ Refused (position + utf8Width left) right e ∧
      tokensFrom position left = .ok us := by
  fun_induction tokensFrom position cs with
  | case1 position => cases h
  | case2 position c cs blank ih =>
    obtain ⟨left, right, us, rfl, refused, tokens⟩ := ih h
    refine ⟨c :: left, right, us, rfl, ?_, ?_⟩
    · rw [utf8Width_cons, ← Nat.add_assoc]
      exact refused
    · rw [tokensFrom, if_pos blank]
      exact tokens
  | case3 position c cs solid e' failed =>
    cases h
    exact ⟨[], c :: cs, _, rfl, refused_of_lexeme (Bool.eq_false_iff.2 solid) failed, by rw [tokensFrom]⟩
  | case4 position c cs solid l found ih =>
    cases others : tokensFrom (position + utf8Width l.span) l.rest with
    | ok us =>
      rw [others] at h
      cases h
    | error e' =>
      rw [others] at h
      cases h
      -- The tokens behind this one end at the error.
      obtain ⟨left, right, us, rest, refused, tokens⟩ := ih others
      -- The token is cut off in the same way where the text ends before the error.
      have looks := looksLike_append ⟨right, rest.symm⟩ endsToken_nil
      rw [List.append_nil] at looks
      have cut := cuts_of_lexeme (Bool.eq_false_iff.2 solid) found position looks
      unfold Cuts at cut
      refine ⟨l.span ++ left, right, ⟨l.kind, String.ofList l.text, position⟩ :: us, ?_, ?_, ?_⟩
      · exact (lexeme_span found).symm.trans (by rw [rest, List.append_assoc])
      · rw [utf8Width_append, ← Nat.add_assoc]
        exact refused
      · rw [cut, tokens]
        rfl

end

/-! ## Whole texts -/

theorem utf8ByteSize_ofList (cs : List Char) : (String.ofList cs).utf8ByteSize = utf8Width cs := by
  induction cs with
  | nil => rfl
  | cons c cs ih => simp [String.ofList_cons, String.utf8ByteSize_append, ih]

/-- **Cutting partitions the text.** The tokens are those of its layout, which stand one behind the other and end with
the only marker of the end, behind the last byte. A text that has none is refused at a character behind what has. -/
theorem tokenize_partitions_text (text : String) :
    (∀ ts, tokenize text = .ok ts ↔ LaidOut 0 text.toList ts) ∧
    (∀ ts, tokenize text = .ok ts → ts.Pairwise (fun t u => t.position < u.position) ∧
      ∃ body, ts = body ++ [Token.endAt text.utf8ByteSize] ∧ ∀ t ∈ body, t.kind ≠ .endOfInput) ∧
    (∀ e, tokenize text = .error e → ∃ before rest us, text = before ++ String.ofList rest ∧
      e.position = before.utf8ByteSize ∧ Refused before.utf8ByteSize rest e ∧ tokenize before = .ok us) := by
  refine ⟨fun ts => tokensFrom_eq_ok_iff_laidOut, fun ts tokens => ⟨?_, ?_⟩, fun e failed => ?_⟩
  · exact (laidOut_of_tokensFrom tokens).pairwise
  · obtain ⟨body, same, plain⟩ := marked_of_tokensFrom tokens
    refine ⟨body, ?_, plain⟩
    rw [same, Nat.zero_add, ← utf8ByteSize_ofList, String.ofList_toList]
  · obtain ⟨left, right, us, whole, refused, tokens⟩ := refused_of_tokensFrom failed
    rw [Nat.zero_add, ← utf8ByteSize_ofList] at refused
    refine ⟨String.ofList left, right, us, ?_, refused.position_eq, refused, ?_⟩
    · rw [← String.ofList_append, ← whole, String.ofList_toList]
    · rw [tokenize, String.toList_ofList]
      exact tokens

/-- An escaped quote closes nothing, a letter may take two bytes, and a bare equals sign is refused where it stands. -/
theorem tokenize_partitions_accented :
    let ts : List Token := [⟨.word, "né", 0⟩, ⟨.comparator .lte, "<=", 3⟩, ⟨.quoted, "b\"", 5⟩,
      ⟨.conjunction .or, "or", 11⟩, ⟨.endOfInput, "", 13⟩]
    let e : LexicalError := .unrecognizedCharacter 4 '='
    (tokenize "né<=\"b\\\"\" or" = .ok ts ∧ LaidOut 0 "né<=\"b\\\"\" or".toList ts) ∧
    tokenize "né =x" = .error e ∧ ∃ before rest us, "né =x" = before ++ String.ofList rest ∧
      e.position = before.utf8ByteSize ∧ Refused before.utf8ByteSize rest e ∧ tokenize before = .ok us := by
  intro ts e
  obtain ⟨layout, -, -⟩ := tokenize_partitions_text "né<=\"b\\\"\" or"
  obtain ⟨-, -, refusal⟩ := tokenize_partitions_text "né =x"
  have tokens : tokenize "né<=\"b\\\"\" or" = .ok ts := by with_unfolding_all rfl
  have failed : tokenize "né =x" = .error e := by with_unfolding_all rfl
  exact ⟨⟨tokens, (layout ts).1 tokens⟩, failed, refusal e failed⟩

end SurveyFlow
