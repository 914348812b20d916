import SurveyFlow.Condition.Lexer
import SurveyFlow.Condition.Printer

/-!
# Where a text is cut

`Cuts position cs rest ts` says that the characters `cs`, standing at byte `position` before `rest`, are cut
into the tokens `ts`, and that cutting goes on with `rest`. Cuts compose (`Cuts.append`), so the tokens of a
text are found piece by piece: one lemma for each kind of token, with what has to follow it.
-/

namespace SurveyFlow

/-- The characters `cs` before `rest` are cut into the tokens `ts`. -/
def Cuts (position : Nat) (cs rest : List Char) (ts : List Token) : Prop :=
  tokensFrom position (cs ++ rest) = (tokensFrom (position + utf8Width cs) rest).map (ts ++ ·)

/-- What is mapped to a result is one. -/
theorem exists_of_map_eq_ok {ε α β : Type} {f : α → β} {x : Except ε α} {y : β} (h : x.map f = .ok y) :
    ∃ a, x = .ok a ∧ f a = y := by
  cases x with
  | error e => cases h
  | ok a => exact ⟨a, rfl, Except.ok.inj h⟩

/-- A word ends before these characters. -/
def EndsWord (rest : List Char) : Prop :=
  ∀ c ∈ rest.head?, isWordChar c = false

theorem endsWord_nil : EndsWord [] := nofun

theorem endsWord_cons {c : Char} {rest : List Char} (h : isWordChar c = false) : EndsWord (c :: rest) := by
  intro d mem
  cases mem
  exact h

/-- A token of the kind does not go on into these characters: a run of word characters ends before another one, and a
comparator of one character is not followed by the equals sign of a longer one. -/
def TokenKind.EndsBefore (rest : List Char) : TokenKind → Prop
  | word | conjunction _ => EndsWord rest
  | comparator .lt | comparator .gt => rest.head? ≠ some '='
  | comparator .eq | comparator .notEq | comparator .lte | comparator .gte => True
  | quoted | openParen | closeParen | endOfInput => True

/-- Before anything but an equals sign every comparator ends. -/
theorem endsBefore_comparator {rest : List Char} (single : rest.head? ≠ some '=') (k : Comparator) :
    (TokenKind.comparator k).EndsBefore rest := by
  cases k with
  | lt | gt => exact single
  | eq | notEq | lte | gte => trivial

namespace Cuts

variable {position : Nat} {cs ds rest : List Char} {ts us : List Token}

theorem nil : Cuts position [] rest [] := by
  unfold Cuts
  rw [List.nil_append, utf8Width_nil, Nat.add_zero]
  cases tokensFrom position rest <;> rfl

/-- Two texts side by side are cut into the tokens of the first and then those of the second. -/
theorem append (first : Cuts position cs (ds ++ rest) ts) (second : Cuts (position + utf8Width cs) ds rest us) :
    Cuts position (cs ++ ds) rest (ts ++ us) := by
  unfold Cuts at first second ⊢
  rw [List.append_assoc, first, second, utf8Width_append, Nat.add_assoc]
  cases tokensFrom (position + (utf8Width cs + utf8Width ds)) rest with
  | error e => rfl
  | ok vs => exact congrArg Except.ok (List.append_assoc ts us vs).symm

theorem blank {c : Char} (h : isBlank c = true) : Cuts position [c] rest [] := by
  unfold Cuts
  rw [List.singleton_append, tokensFrom, if_pos h, utf8Width_cons, utf8Width_nil, Nat.add_zero]
  cases tokensFrom (position + c.utf8Size) rest <;> rfl

/-- What is cut off first is the first token. -/
theorem of_lexeme {c : Char} {span : List Char} {kind : TokenKind} {text : List Char}
    (solid : isBlank c = false) (h : lexeme position c (cs ++ rest) = .ok ⟨kind, span, text, rest⟩)
    (whole : span = c :: cs) : Cuts position (c :: cs) rest [⟨kind, String.ofList text, position⟩] := by
  subst whole
  unfold Cuts
  rw [List.cons_append, tokensFrom, if_neg (by simp [solid])]
  -- The lexer has one answer here, which is the given one.
  split
  · next e failed =>
    rw [h] at failed
    cases failed
  · next l cut =>
    rw [h] at cut
    cases cut
    rfl

end Cuts

/-! ## Parentheses and comparators -/

/-- A parenthesis that opens is a token before anything. -/
theorem cuts_openParen (position : Nat) (rest : List Char) :
    Cuts position ['('] rest [⟨.openParen, "(", position⟩] :=
  Cuts.of_lexeme (by decide) rfl rfl

theorem cuts_closeParen (position : Nat) (rest : List Char) :
    Cuts position [')'] rest [⟨.closeParen, ")", position⟩] :=
  Cuts.of_lexeme (by decide) rfl rfl

/-- A comparator of one character is the token before anything but an equals sign. -/
theorem lexeme_of_single {c : Char} {k : Comparator} (reserved : isReserved c = true) (noParen : c ≠ '(' ∧ c ≠ ')')
    (noQuote : c ≠ '"') (found : comparatorOf? c false = some k) (position : Nat) {rest : List Char}
    (single : rest.head? ≠ some '=') :
    lexeme position c rest = .ok ⟨.comparator k, [c], k.symbol.toList, rest⟩ := by
  unfold lexeme
  rw [if_neg noParen.1, if_neg noParen.2, if_neg noQuote, if_pos reserved]
  -- Only an equals sign would make the symbol longer.
  split
  next more behind same =>
  split at same
  · exact absurd rfl single
  · cases same
    simp only [ne_eq, not_true_eq_false, decide_false, found]

/-- A comparator is the token of its symbol, if that is not the beginning of a longer one. -/
theorem cuts_comparator (position : Nat) (c : Comparator) {rest : List Char}
    (ends : (TokenKind.comparator c).EndsBefore rest) :
    Cuts position c.symbol.toList rest [⟨.comparator c, c.symbol, position⟩] := by
  cases c with
  | eq => exact Cuts.of_lexeme (by decide) rfl rfl
  | notEq => exact Cuts.of_lexeme (by decide) rfl rfl
  | lte => exact Cuts.of_lexeme (by decide) rfl rfl
  | gte => exact Cuts.of_lexeme (by decide) rfl rfl
  -- A symbol of one character needs to know what follows it.
  | lt => exact Cuts.of_lexeme (by decide) (lexeme_of_single (by decide) (by decide) (by decide) rfl _ ends) rfl
  | gt => exact Cuts.of_lexeme (by decide) (lexeme_of_single (by decide) (by decide) (by decide) rfl _ ends) rfl

/-! ## Between quotes -/

/-- The characters between two quotes, and the text that they stand for: a backslash is left out, and the character
behind it is kept as it is. -/
inductive Unescapes : List Char → List Char → Prop where
  | nil : Unescapes [] []
  | plain {c : Char} {written text : List Char} (noQuote : c ≠ '"') (noBackslash : c ≠ '\\') :
    Unescapes written text → Unescapes (c :: written) (c :: text)
  | escaped (c : Char) {written text : List Char} :
    Unescapes written text → Unescapes ('\\' :: c :: written) (c :: text)

/-- An escaped text stands for the text. -/
theorem unescapes_escape (text : List Char) : Unescapes (escape text) text := by
  induction text with
  | nil => exact .nil
  | cons c cs ih =>
    -- A quote and a backslash are escaped, and everything else is plain.
    by_cases special : c = '"' ∨ c = '\\'
    · rw [escape, if_pos special]
      exact .escaped c ih
    · obtain ⟨noQuote, noBackslash⟩ := not_or.1 special
      rw [escape, if_neg special]
      exact .plain noQuote noBackslash ih

/-- What stands between two quotes is read up to the second one. -/
theorem quotedTail?_of_unescapes {written text : List Char} (h : Unescapes written text) (rest : List Char) :
    quotedTail? (written ++ '"' :: rest) = some ⟨.quoted, written ++ ['"'], text, rest⟩ := by
  induction h with
  | nil => rfl
  | plain noQuote noBackslash _ ih =>
    rw [List.cons_append, quotedTail?, ih]
    · rfl
    -- `quotedTail?` looks for a quote and for an escape before it takes a character as it is.
    · exact noQuote
    · exact fun _ _ same _ => noBackslash same
    · exact fun same _ => noBackslash same
  | escaped c _ ih =>
    rw [List.cons_append, List.cons_append, quotedTail?, ih]
    rfl

/-- What is read up to a quote is what its characters stand for. -/
theorem unescapes_of_quotedTail? {cs : List Char} {l : Lexeme} (h : quotedTail? cs = some l) :
    ∃ written, Unescapes written l.text ∧ l = ⟨.quoted, written ++ ['"'], l.text, l.rest⟩ := by
  fun_induction quotedTail? cs generalizing l with
  | case1 => cases h
  | case2 rest =>
    cases h
    exact ⟨[], .nil, rfl⟩
  | case3 c rest ih =>
    obtain ⟨m, found, rfl⟩ := Option.map_eq_some_iff.1 h
    obtain ⟨written, inside, same⟩ := ih found
    refine ⟨'\\' :: c :: written, .escaped c inside, ?_⟩
    rw [same]
    rfl
  | case4 => cases h
  | case5 c rest noQuote noEscape noEnd ih =>
    obtain ⟨m, found, rfl⟩ := Option.map_eq_some_iff.1 h
    obtain ⟨written, inside, same⟩ := ih found
    -- A backslash would have been an escape, or the end of the text.
    have noBackslash : c ≠ '\\' := by
      intro same
      cases rest with
      | nil => exact noEnd same rfl
      | cons d ds => exact noEscape d ds same rfl
    refine ⟨c :: written, .plain noQuote noBackslash inside, ?_⟩
    rw [same]
    rfl

theorem kind_of_quotedTail? {cs : List Char} {l : Lexeme} (h : quotedTail? cs = some l) : l.kind = .quoted := by
  obtain ⟨written, _, same⟩ := unescapes_of_quotedTail? h
  rw [same]

/-! ## Words -/

/-- A character that may stand in a word begins one. -/
theorem lexeme_of_isWordChar {c : Char} (h : isWordChar c = true) (position : Nat) (cs : List Char) :
    lexeme position c cs =
      .ok ⟨wordKind (c :: cs.takeWhile isWordChar), c :: cs.takeWhile isWordChar,
        c :: cs.takeWhile isWordChar, cs.dropWhile isWordChar⟩ := by
  simp only [isWordChar, Bool.and_eq_true, Bool.not_eq_true'] at h
  obtain ⟨⟨_, noControl⟩, noReserved⟩ := h
  have differs : ∀ d, isReserved d = true → c ≠ d := by
    rintro d reserved rfl
    rw [noReserved] at reserved
    cases reserved
  -- A word is what is left when no other kind of token begins here.
  unfold lexeme
  rw [if_neg (differs _ (by decide)), if_neg (differs _ (by decide)), if_neg (differs _ (by decide)),
    if_neg (by simp [noReserved]), if_neg (by simp [noControl])]

/-- A run of word characters is taken whole where a word ends behind it. -/
theorem takeWhile_append_of_endsWord {cs rest : List Char} (run : ∀ c ∈ cs, isWordChar c = true)
    (ends : EndsWord rest) :
    (cs ++ rest).takeWhile isWordChar = cs ∧ (cs ++ rest).dropWhile isWordChar = rest := by
  rw [List.takeWhile_append_of_pos run, List.dropWhile_append_of_pos run]
  cases rest with
  | nil => exact ⟨List.append_nil cs, rfl⟩
  | cons d rest =>
    have stop : ¬isWordChar d = true := by simp [ends d rfl]
    rw [List.takeWhile_cons_of_neg stop, List.dropWhile_cons_of_neg stop, List.append_nil]
    exact ⟨rfl, rfl⟩

/-- A run of word characters is one token: a conjunction or a word. -/
theorem cuts_run (position : Nat) {text : String} {rest : List Char} (nonempty : text ≠ "")
    (run : ∀ c ∈ text.toList, isWordChar c = true) (ends : EndsWord rest) :
    Cuts position text.toList rest [⟨wordKind text.toList, text, position⟩] := by
  cases same : text.toList with
  | nil => exact absurd (String.toList_eq_nil_iff.1 same) nonempty
  | cons c cs =>
    rw [same] at run
    have first := run c List.mem_cons_self
    -- A character of a word is no blank, and so a token begins with it.
    have solid : isBlank c = false := by
      simp only [isWordChar, Bool.and_eq_true, Bool.not_eq_true'] at first
      exact first.1.1
    obtain ⟨taken, dropped⟩ := takeWhile_append_of_endsWord (fun d mem => run d (List.mem_cons_of_mem c mem)) ends
    have cut := lexeme_of_isWordChar first position (cs ++ rest)
    rw [taken, dropped] at cut
    have token := Cuts.of_lexeme solid cut rfl
    rwa [show String.ofList (c :: cs) = text by rw [← same, String.ofList_toList]] at token

/-- A word is a token where it ends. -/
theorem cuts_word {position : Nat} {text : String} {rest : List Char} (h : IsWord text) (ends : EndsWord rest) :
    Cuts position text.toList rest [⟨.word, text, position⟩] := by
  obtain ⟨nonempty, plain, run⟩ := h
  -- It is a word and no conjunction.
  have kind : wordKind text.toList = .word := by rw [wordKind, String.ofList_toList, plain]
  rw [← kind]
  exact cuts_run position nonempty run ends

theorem cuts_conjunction (position : Nat) (c : Conjunction) {rest : List Char} (ends : EndsWord rest) :
    Cuts position c.word.toList rest [⟨.conjunction c, c.word, position⟩] := by
  cases c with
  | and =>
    have run : ∀ d ∈ "and".toList, isWordChar d = true := List.all_eq_true.1 (by decide)
    exact cuts_run position (by decide) run ends
  | or =>
    have run : ∀ d ∈ "or".toList, isWordChar d = true := List.all_eq_true.1 (by decide)
    exact cuts_run position (by decide) run ends

/-- A token that is a word by its kind is one by its text. -/
theorem isWord_of_lexeme {position : Nat} {c : Char} {cs : List Char} {l : Lexeme} (solid : isBlank c = false)
    (h : lexeme position c cs = .ok l) (kind : l.kind = .word) : IsWord (String.ofList l.text) := by
  -- The cases are those of the lexer, and all but the last give a token of another kind.
  unfold lexeme at h
  split at h
  · -- an opening parenthesis
    cases h
    cases kind
  split at h
  · -- a closing parenthesis
    cases h
    cases kind
  split at h
  · -- a quote
    split at h
    · next m found =>
      cases h
      rw [kind_of_quotedTail? found] at kind
      cases kind
    · cases h
  split at h
  · -- the beginning of a comparator
    dsimp only at h
    split at h
    · cases h
      cases kind
    · cases h
  next noReserved =>
  split at h
  · cases h
  next noControl =>
  -- a run of word characters, which may still be a conjunction
  cases h
  refine ⟨by simp, ?_, ?_⟩
  · unfold wordKind at kind
    split at kind
    · cases kind
    · assumption
  · rw [String.toList_ofList, List.forall_mem_cons]
    refine ⟨by simp [isWordChar, solid, noReserved, noControl], fun d mem => ?_⟩
    exact List.all_eq_true.1 List.all_takeWhile d mem

/-! ## Literals -/

/-- What stands between two quotes is a token, whatever follows it. -/
theorem cuts_quoted (position : Nat) {written text : List Char} (inside : Unescapes written text) (rest : List Char) :
    Cuts position ('"' :: (written ++ ['"'])) rest [⟨.quoted, String.ofList text, position⟩] := by
  have cut : lexeme position '"' (written ++ ['"'] ++ rest) =
      .ok ⟨.quoted, '"' :: (written ++ ['"']), text, rest⟩ := by
    rw [List.append_assoc, List.singleton_append]
    unfold lexeme
    rw [if_neg (by decide), if_neg (by decide), if_pos rfl, quotedTail?_of_unescapes inside]
  exact Cuts.of_lexeme (by decide) cut rfl

/-- A quoted text is a token with that text. -/
theorem cuts_quote (position : Nat) (text : String) (rest : List Char) :
    Cuts position (quote text).toList rest [⟨.quoted, text, position⟩] := by
  have token := cuts_quoted position (unescapes_escape text.toList) rest
  rw [String.ofList_toList] at token
  rw [quote, String.toList_ofList]
  exact token

/-- A literal that is a word is written bare. -/
theorem renderLiteral_of_isWord {literal : String} (word : IsWord literal) : renderLiteral literal = literal := by
  rw [renderLiteral, needsQuotes, decide_eq_true word]
  rfl

theorem renderLiteral_of_not_isWord {literal : String} (other : ¬IsWord literal) :
    renderLiteral literal = quote literal := by
  rw [renderLiteral, needsQuotes, decide_eq_false other]
  rfl

/-- A literal is a token with its text, bare or between quotes, where a word may end. -/
theorem cuts_literal (position : Nat) (literal : String) {rest : List Char} (ends : EndsWord rest) :
    ∃ kind, (kind = .word ∨ kind = .quoted) ∧
      Cuts position (renderLiteral literal).toList rest [⟨kind, literal, position⟩] := by
  by_cases word : IsWord literal
  · refine ⟨.word, .inl rfl, ?_⟩
    rw [renderLiteral_of_isWord word]
    exact cuts_word word ends
  · refine ⟨.quoted, .inr rfl, ?_⟩
    rw [renderLiteral_of_not_isWord word]
    exact cuts_quote position literal rest

end SurveyFlow
