import SurveyFlow.Proofs.Condition.RoundTrip

/-!
# Literals, bare and quoted

A literal is written bare exactly if the bare text is cut into one word with its text (`renderLiteral_eq_self_iff`):
the characters that the printer looks for are those at which the lexer ends a word. Quotes cost at least two
characters, so no quoted form is the literal itself. Whichever form is written, it is cut off whole before a blank or a
closing parenthesis (`literals_read_back`), and the tokens behind it are those of the text behind it, which only stands
elsewhere (`LaidOut.behind`).
-/

namespace SurveyFlow

/-! ## Text behind other text -/

/-- The same token where so many bytes stand before the text that it was cut from. -/
def Token.behind (bytes : Nat) (t : Token) : Token :=
  { t with position := bytes + t.position }

/-- A text has the same layout behind other text. -/
theorem LaidOut.behind {position : Nat} {cs : List Char} {ts : List Token} (h : LaidOut position cs ts) (bytes : Nat) :
    LaidOut (bytes + position) cs (ts.map (Token.behind bytes)) := by
  induction h with
  | ending blank =>
    show LaidOut _ _ [Token.endAt (bytes + (_ + _))]
    rw [← Nat.add_assoc]
    exact .ending blank
  | token blank spells ends _ ih =>
    rw [List.map_cons]
    unfold Token.behind
    dsimp only
    rw [← Nat.add_assoc]
    rw [← Nat.add_assoc, ← Nat.add_assoc] at ih
    exact .token blank spells ends ih

/-! ## The form of a literal -/

/-- An escaped text is at least as long. -/
theorem length_le_length_escape (cs : List Char) : cs.length ≤ (escape cs).length := by
  induction cs with
  | nil => exact Nat.le_refl 0
  | cons c cs ih =>
    rw [escape]
    split
    · simp only [List.length_cons]
      omega
    · simp only [List.length_cons]
      omega

/-- No text is its own quotation, which has two more characters. -/
theorem quote_ne_self (literal : String) : quote literal ≠ literal := by
  intro same
  have lengths := congrArg (fun text : String => text.toList.length) same
  simp only [quote, String.toList_ofList, List.length_cons, List.length_append, List.length_nil] at lengths
  have := length_le_length_escape literal.toList
  omega

/-- **A literal is written bare exactly if it is a word.** -/
theorem renderLiteral_eq_self_iff (literal : String) : renderLiteral literal = literal ↔ IsWord literal := by
  constructor
  · intro bare
    refine Decidable.byContradiction fun other => ?_
    rw [renderLiteral_of_not_isWord other] at bare
    exact quote_ne_self literal bare
  · exact renderLiteral_of_isWord

/-- The form of a literal spells a token with its text. -/
theorem spells_renderLiteral (literal : String) :
    ∃ kind, (kind = .word ∨ kind = .quoted) ∧
      TokenKind.Spells kind (renderLiteral literal).toList literal.toList := by
  by_cases word : IsWord literal
  · obtain ⟨nonempty, plain, solid⟩ := word
    refine ⟨.word, .inl rfl, ?_⟩
    rw [renderLiteral_of_isWord ⟨nonempty, plain, solid⟩]
    refine .word (by simpa using nonempty) solid ?_
    rw [← ofWord?_ofList_eq_none_iff, String.ofList_toList]
    exact plain
  · refine ⟨.quoted, .inr rfl, ?_⟩
    rw [renderLiteral_of_not_isWord word, quote, String.toList_ofList]
    exact .quoted (unescapes_escape literal.toList)

/-! ## Reading it back -/

/-- The text is empty, or begins with a blank or a closing parenthesis. -/
def MayFollowLiteral (rest : String) : Prop :=
  ∀ c ∈ rest.toList.head?, isBlank c = true ∨ c = ')'

/-- A word ends before whatever may follow a literal. -/
theorem MayFollowLiteral.endsWord {rest : String} (h : MayFollowLiteral rest) : EndsWord rest.toList := by
  intro c mem
  rcases h c mem with blank | rfl
  · simp [isWordChar, blank]
  · decide

/-- A literal ends where a word does. -/
theorem endsBefore_of_literal {kind : TokenKind} (isLiteral : kind = .word ∨ kind = .quoted) {rest : List Char}
    (ends : EndsWord rest) : kind.EndsBefore rest := by
  rcases isLiteral with rfl | rfl
  · exact ends
  · trivial

/-- A text that is one word has the tokens that one word has. -/
theorem tokenize_of_isWord {literal : String} (word : IsWord literal) :
    tokenize literal = .ok [⟨.word, literal, 0⟩, Token.endAt literal.utf8ByteSize] := by
  have cut : Cuts 0 literal.toList [] [⟨.word, literal, 0⟩] := cuts_word word endsWord_nil
  unfold Cuts at cut
  rw [List.append_nil, tokensFrom, Nat.zero_add, ← utf8ByteSize_ofList, String.ofList_toList] at cut
  exact cut

/-- **Literals are quoted exactly when needed, and read back.** A literal is written bare if and only if the bare text
has just one token before its end, a word with the text of the literal. The form that is written is one token with
that text, whole, before a text that is empty or begins with a blank or a closing parenthesis; the other tokens are
those of that text, as many bytes further on as the form has. -/
theorem literals_read_back (literal : String) :
    (renderLiteral literal = literal ↔
      ∃ word marker, tokenize literal = .ok [word, marker] ∧ word.kind = .word ∧ word.text = literal ∧
        marker.kind = .endOfInput) ∧
    ∀ rest ts, tokenize rest = .ok ts → MayFollowLiteral rest →
      ∃ kind, (kind = .word ∨ kind = .quoted) ∧
        TokenKind.Spells kind (renderLiteral literal).toList literal.toList ∧
        tokenize (renderLiteral literal ++ rest) =
          .ok (⟨kind, literal, 0⟩ :: ts.map (Token.behind (renderLiteral literal).utf8ByteSize)) := by
  constructor
  · rw [renderLiteral_eq_self_iff]
    constructor
    · intro word
      exact ⟨_, _, tokenize_of_isWord word, rfl, rfl, rfl⟩
    · rintro ⟨word, marker, tokens, kind, text, -⟩
      rw [← text]
      exact isWord_of_tokensFrom tokens word List.mem_cons_self kind
  · intro rest ts tokens follows
    obtain ⟨kind, isLiteral, spells⟩ := spells_renderLiteral literal
    refine ⟨kind, isLiteral, spells, ?_⟩
    -- The text behind the form is laid out as it is alone.
    have others := (laidOut_of_tokensFrom tokens).behind (renderLiteral literal).utf8ByteSize
    have form : (renderLiteral literal).utf8ByteSize = utf8Width (renderLiteral literal).toList := by
      rw [← utf8ByteSize_ofList, String.ofList_toList]
    have first : Cuts 0 _ rest.toList _ := cuts_of_spells spells (endsBefore_of_literal isLiteral follows.endsWord)
    unfold Cuts at first
    rw [Nat.zero_add, ← form, ← Nat.add_zero (renderLiteral literal).utf8ByteSize, tokensFrom_of_laidOut others,
      String.ofList_toList] at first
    rw [tokenize, String.toList_append, first]
    rfl

/-- A backslash before a quote is escaped as the quote is, in front of the parenthesis that closes a group; what is
behind it moves on by the eight bytes of the form. -/
theorem literals_read_back_before_parenthesis :
    renderLiteral "é\\\"" = "\"é\\\\\\\"\"" ∧
    (tokenize ") or" = .ok [⟨.closeParen, ")", 0⟩, ⟨.conjunction .or, "or", 2⟩, ⟨.endOfInput, "", 4⟩] ∧
      MayFollowLiteral ") or") ∧
    ∃ kind, (kind = .word ∨ kind = .quoted) ∧
      TokenKind.Spells kind (renderLiteral "é\\\"").toList "é\\\"".toList ∧
      tokenize (renderLiteral "é\\\"" ++ ") or") = .ok [⟨kind, "é\\\"", 0⟩, ⟨.closeParen, ")", 8⟩,
        ⟨.conjunction .or, "or", 10⟩, ⟨.endOfInput, "", 12⟩] := by
  obtain ⟨-, behind⟩ := literals_read_back "é\\\""
  have form : renderLiteral "é\\\"" = "\"é\\\\\\\"\"" := by decide +kernel
  have width : (renderLiteral "é\\\"").utf8ByteSize = 8 := by
    rw [form]
    decide
  have tokens : tokenize ") or" = .ok [⟨.closeParen, ")", 0⟩, ⟨.conjunction .or, "or", 2⟩, ⟨.endOfInput, "", 4⟩] := by
    with_unfolding_all rfl
  have follows : MayFollowLiteral ") or" := by
    rintro c ⟨⟩
    exact .inr rfl
  obtain ⟨kind, isLiteral, spells, whole⟩ := behind ") or" _ tokens follows
  rw [width] at whole
  exact ⟨form, ⟨tokens, follows⟩, kind, isLiteral, spells, whole⟩

end SurveyFlow
