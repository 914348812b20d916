import SurveyFlow.Proofs.Condition.Cutting

/-!
# The beginnings of a text

Cutting looks at most one character ahead: a token is cut off the same way before any other text that begins with
the same character, or with a blank (`lexeme_append`). So for each beginning of the tokens of a text there is a
beginning of the text that is cut into just these, whatever follows it behind a blank (`cuts_take`).
-/

namespace SurveyFlow

/-- No token goes on into these characters. -/
def EndsToken (rest : List Char) : Prop :=
  ∀ c ∈ rest.head?, isBlank c = true

theorem endsToken_nil : EndsToken [] := nofun

/-- Where no token goes on, no word does. -/
theorem EndsToken.endsWord {rest : List Char} (h : EndsToken rest) : EndsWord rest := by
  intro c mem
  simp [isWordChar, h c mem]

/-- The second text looks like the first one to whoever cuts a token off before it. -/
def LooksLike (rest' rest : List Char) : Prop :=
  rest'.head? = rest.head? ∨ EndsToken rest'

/-- A word that ends before one of the texts ends before the other. -/
theorem LooksLike.endsWord {rest' rest : List Char} (h : LooksLike rest' rest) (ends : EndsWord rest) :
    EndsWord rest' := by
  rcases h with same | blank
  · intro c mem
    rw [same] at mem
    exact ends c mem
  · exact blank.endsWord

/-! ## One token before another text -/

/-- A quoted text ends with its quote, whatever follows. -/
theorem quotedTail?_append {cs : List Char} {l : Lexeme} (h : quotedTail? cs = some l) (rest : List Char) :
    quotedTail? (l.span ++ rest) = some { l with rest } := by
  obtain ⟨written, inside, same⟩ := unescapes_of_quotedTail? h
  rw [same, List.append_assoc, List.singleton_append]
  exact quotedTail?_of_unescapes inside rest

/-- Behind a run of word characters a word ends. -/
theorem endsWord_dropWhile (cs : List Char) : EndsWord (cs.dropWhile isWordChar) := by
  intro c mem
  have stop := List.head?_dropWhile_not isWordChar cs
  rw [Option.mem_def.1 mem] at stop
  exact stop

/-- A comparator of one character is not followed by an equals sign, before which it would be another one. -/
theorem head?_ne_of_looksLike {rest' rest : List Char} (h : LooksLike rest' rest) (single : ∀ cs, rest ≠ '=' :: cs) :
    ∀ cs, rest' ≠ '=' :: cs := by
  rintro cs rfl
  rcases h with same | blank
  · cases rest with
    | nil => cases same
    | cons d ds =>
      cases same
      exact single ds rfl
  · have impossible : isBlank '=' = true := blank '=' rfl
    exact absurd impossible (by decide)

/-- **Cutting looks one character ahead.** A token is cut off the same way, wherever it stands, before a text that
looks like the one that followed it. -/
theorem lexeme_append {position : Nat} {c : Char} {cs : List Char} {l : Lexeme} (h : lexeme position c cs = .ok l)
    (position' : Nat) {rest : List Char} (next : LooksLike rest l.rest) :
    ∃ more, l.span = c :: more ∧ lexeme position' c (more ++ rest) = .ok { l with rest } := by
  unfold lexeme at h ⊢
  -- The cases are those of the lexer; in each of them the same one is found before the other text.
  split at h
  · next opens =>
    cases h
    exact ⟨[], rfl, if_pos opens⟩
  next noOpen =>
  split at h
  · next closes =>
    cases h
    exact ⟨[], rfl, (if_neg noOpen).trans (if_pos closes)⟩
  next noClose =>
  split at h
  · next quotes =>
    split at h
    · next m found =>
      cases h
      refine ⟨m.span, rfl, ?_⟩
      rw [if_neg noOpen, if_neg noClose, if_pos quotes, quotedTail?_append found]
    · cases h
  next noQuote =>
  split at h
  · next reserved =>
    split at h
    next more behind same =>
    split at h
    · next comparator found =>
      cases h
      refine ⟨more, rfl, ?_⟩
      rw [if_neg noOpen, if_neg noClose, if_neg noQuote, if_pos reserved]
      dsimp only at next
      split at same
      · cases same
        simp only [List.cons_append, List.nil_append, found]
      · next single =>
        cases same
        -- The symbol is not made longer by the other text either.
        have single' := head?_ne_of_looksLike next single
        rw [List.nil_append]
        split
        next more' behind' same' =>
        split at same'
        · exact absurd rfl (single' _)
        · cases same'
          rw [found]
    · cases h
  next noReserved =>
  split at h
  · cases h
  next noControl =>
  cases h
  refine ⟨cs.takeWhile isWordChar, rfl, ?_⟩
  -- The run of word characters ends at the same place.
  have ends : EndsWord rest := next.endsWord (endsWord_dropWhile cs)
  have run : ∀ d ∈ cs.takeWhile isWordChar, isWordChar d = true := List.all_eq_true.1 List.all_takeWhile
  obtain ⟨taken, dropped⟩ := takeWhile_append_of_endsWord run ends
  rw [if_neg noOpen, if_neg noClose, if_neg noQuote, if_neg noReserved, if_neg noControl, taken, dropped]

/-- **A token that was cut off once is cut off again** before a text that looks the same. -/
theorem cuts_of_lexeme {position : Nat} {c : Char} {cs : List Char} {l : Lexeme} (solid : isBlank c = false)
    (h : lexeme position c cs = .ok l) (position' : Nat) {rest : List Char} (next : LooksLike rest l.rest) :
    Cuts position' l.span rest [⟨l.kind, String.ofList l.text, position'⟩] := by
  obtain ⟨more, span, cut⟩ := lexeme_append h position' next
  rw [span]
  exact Cuts.of_lexeme solid cut span

/-! ## Some of the tokens -/

/-- What follows a token in a beginning of a text looks like what follows it in the text. -/
theorem looksLike_append {front back rest : List Char} (begins : front <+: back) (ends : EndsToken rest) :
    LooksLike (front ++ rest) back := by
  cases front with
  | nil => exact .inr ends
  | cons c front =>
    obtain ⟨behind, rfl⟩ := begins
    exact .inl rfl

/-- **Each beginning of the tokens is that of a beginning of the text.** It is cut into these tokens wherever no
token goes on into what follows. -/
theorem cuts_take {position : Nat} {cs : List Char} {ts : List Token} (h : tokensFrom position cs = .ok ts) {k : Nat}
    (bound : k < ts.length) :
    ∃ front, front <+: cs ∧ ∀ rest, EndsToken rest → Cuts position front rest (ts.take k) := by
  fun_induction tokensFrom position cs generalizing ts k with
  | case1 position =>
    cases h
    have none : k = 0 := Nat.lt_one_iff.1 bound
    exact ⟨[], List.nil_prefix, fun rest _ => none ▸ Cuts.nil⟩
  | case2 position c cs blank ih =>
    obtain ⟨front, begins, cut⟩ := ih h bound
    refine ⟨c :: front, List.cons_prefix_cons.2 ⟨rfl, begins⟩, fun rest ends => ?_⟩
    exact (Cuts.blank blank).append (cut rest ends)
  | case3 position c cs solid e failed => cases h
  | case4 position c cs solid l found ih =>
    obtain ⟨us, others, rfl⟩ := exists_of_map_eq_ok h
    cases k with
    | zero => exact ⟨[], List.nil_prefix, fun rest _ => Cuts.nil⟩
    | succ k =>
      obtain ⟨front, begins, cut⟩ := ih others (Nat.lt_of_succ_lt_succ bound)
      refine ⟨l.span ++ front, ?_, fun rest ends => ?_⟩
      · rw [← lexeme_span found]
        exact (List.prefix_append_right_inj l.span).2 begins
      · have solid : isBlank c = false := Bool.eq_false_iff.2 solid
        -- What follows the first token is the rest of the beginning, or a blank behind it.
        have first := cuts_of_lexeme solid found position (looksLike_append begins ends)
        exact first.append (cut rest ends)

/-! ## The end marker -/

/-- No characters are cut off as the end. -/
theorem kind_of_lexeme {position : Nat} {c : Char} {cs : List Char} {l : Lexeme} (h : lexeme position c cs = .ok l) :
    l.kind ≠ .endOfInput := by
  unfold lexeme at h
  -- The cases are those of the lexer.
  split at h
  · cases h
    nofun
  split at h
  · cases h
    nofun
  split at h
  · split at h
    · next m found =>
      cases h
      rw [kind_of_quotedTail? found]
      nofun
    · cases h
  split at h
  · dsimp only at h
    split at h
    · cases h
      nofun
    · cases h
  split at h
  · cases h
  · cases h
    dsimp only
    unfold wordKind
    split <;> nofun

/-- The tokens of a text end with the only marker of the end, which stands behind the last character. -/
theorem marked_of_tokensFrom {position : Nat} {cs : List Char} {ts : List Token} (h : tokensFrom position cs = .ok ts) :
    ∃ body, ts = body ++ [Token.endAt (position + utf8Width cs)] ∧ ∀ t ∈ body, t.kind ≠ .endOfInput := by
  fun_induction tokensFrom position cs generalizing ts with
  | case1 position =>
    cases h
    exact ⟨[], rfl, nofun⟩
  | case2 position c cs blank ih =>
    rw [utf8Width_cons, ← Nat.add_assoc]
    exact ih h
  | case3 position c cs solid e failed => cases h
  | case4 position c cs solid l found ih =>
    obtain ⟨us, others, rfl⟩ := exists_of_map_eq_ok h
    obtain ⟨body, rfl, plain⟩ := ih others
    -- The width of the text is that of the token and of what is behind it.
    have whole : utf8Width (c :: cs) = utf8Width l.span + utf8Width l.rest := by
      rw [← lexeme_span found, utf8Width_append]
    rw [whole, ← Nat.add_assoc]
    exact ⟨_ :: body, rfl, List.forall_mem_cons.2 ⟨kind_of_lexeme found, plain⟩⟩

end SurveyFlow
