import SurveyFlow.Condition.Token
import SurveyFlow.Condition.Error

/-!
# Conditions: cutting text into tokens

`tokenize` reads the text from left to right: blanks separate, a parenthesis or a comparator is a token of
its own, a quote opens a text that the next unescaped quote closes, and anything else begins a word, which
reaches to the next blank, control or reserved character. Blanks are asked for before control characters,
so a tab or a line break separates and any other control character is an error.

Each token is cut off as a `Lexeme`, which keeps the characters it was cut from; `lexeme_span` says that
nothing is lost at a cut.
-/

namespace SurveyFlow

/-- A token cut off the front of a text: the characters it was written with, its own text, and what
follows it. -/
structure Lexeme where
  kind : TokenKind
  span : List Char
  text : List Char
  rest : List Char
deriving DecidableEq

/-! ## Quoted texts

Inside quotes a backslash keeps the character after it as it is, whatever that character is. -/

/-- The quoted token whose characters after the opening quote are at the front of the list, without that
quote in its span; nothing if no quote closes. -/
def quotedTail? : List Char → Option Lexeme
  | [] => none
  | '"' :: rest => some ⟨.quoted, ['"'], [], rest⟩
  | '\\' :: c :: rest =>
    (quotedTail? rest).map fun l => { l with span := '\\' :: c :: l.span, text := c :: l.text }
  | '\\' :: [] => none
  | c :: rest => (quotedTail? rest).map fun l => { l with span := c :: l.span, text := c :: l.text }

/-- The cut after the closing quote loses nothing. -/
theorem quotedTail?_span {cs : List Char} {l : Lexeme} (h : quotedTail? cs = some l) :
    l.span ++ l.rest = cs := by
  fun_induction quotedTail? cs generalizing l with
  | case1 => simp at h
  | case2 rest => simp only [Option.some.injEq] at h; simp [← h]
  | case3 c rest ih =>
    obtain ⟨m, found, rfl⟩ := Option.map_eq_some_iff.1 h
    simp [ih found]
  | case4 => simp at h
  | case5 c rest _ _ _ ih =>
    obtain ⟨m, found, rfl⟩ := Option.map_eq_some_iff.1 h
    simp [ih found]

/-! ## One token -/

/-- The comparator that begins with `c`, told whether an equals sign follows. -/
def comparatorOf? : Char → Bool → Option Comparator
  | '=', true => some .eq
  | '!', true => some .notEq
  | '<', true => some .lte
  | '>', true => some .gte
  | '<', false => some .lt
  | '>', false => some .gt
  | _, _ => none

/-- The kind of a word. -/
def wordKind (word : List Char) : TokenKind :=
  match Conjunction.ofWord? (String.ofList word) with
  | some conjunction => .conjunction conjunction
  | none => .word

/-- Cuts the first token off a text that begins with the character `c`, no blank, at byte `position`. -/
def lexeme (position : Nat) (c : Char) (cs : List Char) : Except LexicalError Lexeme :=
  if c = '(' then .ok ⟨.openParen, [c], [c], cs⟩
  else if c = ')' then .ok ⟨.closeParen, [c], [c], cs⟩
  else if c = '"' then
    match quotedTail? cs with
    | some l => .ok { l with span := c :: l.span }
    | none => .error (.unterminatedQuote position)
  else if isReserved c then
    let (more, rest) := match cs with
      | '=' :: rest => (['='], rest)
      | _ => ([], cs)
    match comparatorOf? c (more ≠ []) with
    | some comparator => .ok ⟨.comparator comparator, c :: more, comparator.symbol.toList, rest⟩
    | none => .error (.unrecognizedCharacter position c)
  else if isControl c then .error (.unrecognizedCharacter position c)
  else
    let word := c :: cs.takeWhile isWordChar
    .ok ⟨wordKind word, word, word, cs.dropWhile isWordChar⟩

/-- The cut after a token loses nothing. -/
theorem lexeme_span {position : Nat} {c : Char} {cs : List Char} {l : Lexeme}
    (h : lexeme position c cs = .ok l) : l.span ++ l.rest = c :: cs := by
  unfold lexeme at h
  split at h
  · cases h; rfl
  split at h
  · cases h; rfl
  split at h
  · split at h
    · next m found => cases h; simp [quotedTail?_span found]
    · cases h
  split at h
  · -- A comparator takes the equals sign behind it, if there is one.
    split at h
    next more rest same =>
    split at h
    · cases h
      split at same <;> cases same <;> rfl
    · cases h
  split at h
  · cases h
  · cases h; simp [List.takeWhile_append_dropWhile]

/-- A token has at least one character. -/
theorem lexeme_span_ne_nil {position : Nat} {c : Char} {cs : List Char} {l : Lexeme}
    (h : lexeme position c cs = .ok l) : l.span ≠ [] := by
  unfold lexeme at h
  repeat' split at h
  all_goals first | (cases h; done) | (cases h; simp)

/-- What follows a token is shorter than the text that it was cut from. -/
theorem length_rest_lexeme {position : Nat} {c : Char} {cs : List Char} {l : Lexeme}
    (h : lexeme position c cs = .ok l) : l.rest.length < (c :: cs).length := by
  have whole := congrArg List.length (lexeme_span h)
  have nonempty := List.length_pos_iff.2 (lexeme_span_ne_nil h)
  rw [List.length_append] at whole
  omega

/-! ## All tokens -/

/-- The tokens of a text that begins at byte `position`. -/
def tokensFrom (position : Nat) : List Char → Except LexicalError (List Token)
  | [] => .ok [Token.endAt position]
  | c :: cs =>
    if isBlank c then tokensFrom (position + c.utf8Size) cs
    else match _h : lexeme position c cs with
      | .error e => .error e
      | .ok l =>
        (tokensFrom (position + utf8Width l.span) l.rest).map
          (⟨l.kind, String.ofList l.text, position⟩ :: ·)
termination_by cs => cs.length
decreasing_by
  · simp
  · exact length_rest_lexeme _h

/-- Cuts condition text into tokens. The last one, and only it, marks the end of the input. -/
def tokenize (text : String) : Except LexicalError (List Token) :=
  tokensFrom 0 text.toList

end SurveyFlow
