import SurveyFlow.Condition.Evaluation
import SurveyFlow.Proofs.Condition.Layout
import SurveyFlow.Proofs.Condition.Parsing

/-!
# What a sentence is written as

A text says the same wherever it stands, as only errors tell of positions. `Sentence.WrittenAs` relates a sentence to
the characters that are cut, at any byte and before anything that does not go on with their last word, into tokens that
the grammar gives to the sentence. What groups and chains are written as comes from their parts
(`Clause.writtenAs_group`, `Clause.writtenAs_link`), and a text is read as the sentence within the limits that is
written as it (`parseCondition_eq_ok_iff_writtenAs`).
-/

namespace SurveyFlow

/-! ## Tokens without their positions -/

/-- What a token says wherever it stands. -/
def Token.face (t : Token) : TokenKind × String :=
  (t.kind, t.text)

theorem Token.kind_of_face {t u : Token} (h : t.face = u.face) : t.kind = u.kind :=
  congrArg Prod.fst h

theorem Token.text_of_face {t u : Token} (h : t.face = u.face) : t.text = u.text :=
  congrArg Prod.snd h

/-- The tokens of a comparison may stand elsewhere. -/
theorem Expression.Yields.of_face {e : Expression} {ts us : List Token} (h : e.Yields ts)
    (same : us.map Token.face = ts.map Token.face) : e.Yields us := by
  cases h with
  | @intro name comparator literal named ident compared kind text =>
    obtain ⟨name', us, rfl, sameName, rest⟩ := List.map_eq_cons_iff.1 same
    obtain ⟨comparator', us, rfl, sameComparator, rest⟩ := List.map_eq_cons_iff.1 rest
    obtain ⟨literal', us, rfl, sameLiteral, rest⟩ := List.map_eq_cons_iff.1 rest
    rw [List.map_eq_nil_iff.1 rest]
    rw [← Token.kind_of_face sameName] at named
    rw [← Token.text_of_face sameName] at ident
    rw [← Token.kind_of_face sameComparator] at compared
    rw [← Token.kind_of_face sameLiteral] at kind
    rw [← Token.text_of_face sameLiteral] at text
    exact .intro named ident compared kind text

/-- The grammar does not ask where a token stands. -/
theorem Sentence.Yields.of_face {s : Sentence} {ts us : List Token} (h : s.Yields ts)
    (same : us.map Token.face = ts.map Token.face) : s.Yields us := by
  induction h generalizing us with
  | simple written => exact .simple (written.of_face same)
  | grouped opens _ closes ih =>
    -- The other tokens fall into the same parts.
    rw [List.map_append] at same
    obtain ⟨front, back, rfl, sameFront, sameBack⟩ := List.map_eq_append_iff.1 same
    obtain ⟨opening, inner, rfl, sameOpening, sameInner⟩ := List.map_eq_cons_iff.1 sameFront
    obtain ⟨closing, none, rfl, sameClosing, rest⟩ := List.map_eq_cons_iff.1 sameBack
    rw [List.map_eq_nil_iff.1 rest]
    exact .grouped ((Token.kind_of_face sameOpening).trans opens) (ih sameInner)
      ((Token.kind_of_face sameClosing).trans closes)
  | simpleThen written joins _ ih =>
    rw [List.map_append] at same
    obtain ⟨front, back, rfl, sameFront, sameBack⟩ := List.map_eq_append_iff.1 same
    obtain ⟨joint, rest, rfl, sameJoint, sameRest⟩ := List.map_eq_cons_iff.1 sameBack
    exact .simpleThen (written.of_face sameFront) ((Token.kind_of_face sameJoint).trans joins) (ih sameRest)
  | groupedThen opens _ closes joins _ ihInner ih =>
    rw [List.map_append] at same
    obtain ⟨front, back, rfl, sameFront, sameBack⟩ := List.map_eq_append_iff.1 same
    obtain ⟨opening, inner, rfl, sameOpening, sameInner⟩ := List.map_eq_cons_iff.1 sameFront
    obtain ⟨closing, back, rfl, sameClosing, sameBack⟩ := List.map_eq_cons_iff.1 sameBack
    obtain ⟨joint, rest, rfl, sameJoint, sameRest⟩ := List.map_eq_cons_iff.1 sameBack
    exact .groupedThen ((Token.kind_of_face sameOpening).trans opens) (ihInner sameInner)
      ((Token.kind_of_face sameClosing).trans closes) ((Token.kind_of_face sameJoint).trans joins) (ih sameRest)

/-! ## The last token of a sentence -/

theorem Expression.Yields.plain {e : Expression} {ts : List Token} (h : e.Yields ts) :
    ∀ t ∈ ts, t.kind ≠ .endOfInput := by
  cases h with
  | intro named _ compared kind _ =>
    intro t mem
    simp only [List.mem_cons, List.not_mem_nil, or_false] at mem
    rcases mem with rfl | rfl | rfl
    · rw [named]
      nofun
    · rw [compared]
      nofun
    · rcases kind with kind | kind
      · rw [kind]
        nofun
      · rw [kind]
        nofun

/-- No token of a sentence marks the end of the input. -/
theorem Sentence.Yields.plain {s : Sentence} {ts : List Token} (h : s.Yields ts) :
    ∀ t ∈ ts, t.kind ≠ .endOfInput := by
  induction h with
  | simple written => exact written.plain
  | grouped opens _ closes ih =>
    simp only [List.forall_mem_append, List.forall_mem_cons]
    exact ⟨⟨by simp [opens], ih⟩, by simp [closes]⟩
  | simpleThen written joins _ ih =>
    simp only [List.forall_mem_append, List.forall_mem_cons]
    exact ⟨written.plain, by simp [joins], ih⟩
  | groupedThen opens _ closes joins _ ihInner ih =>
    simp only [List.forall_mem_append, List.forall_mem_cons]
    exact ⟨⟨by simp [opens], ihInner⟩, by simp [closes], by simp [joins], ih⟩

/-- A sentence ends with a literal or with a parenthesis. -/
theorem Sentence.Yields.last {s : Sentence} {ts : List Token} (h : s.Yields ts) :
    ∃ front last, ts = front ++ [last] ∧ (last.kind = .word ∨ last.kind = .quoted ∨ last.kind = .closeParen) := by
  induction h with
  | simple written =>
    cases written with
    | @intro name comparator literal _ _ _ kind _ =>
      exact ⟨[name, comparator], literal, rfl, kind.elim .inl fun quoted => .inr (.inl quoted)⟩
  | grouped _ _ closes _ => exact ⟨_, _, rfl, .inr (.inr closes)⟩
  | @simpleThen _ _ _ joint ts _ _ _ _ ih =>
    obtain ⟨front, last, rfl, kind⟩ := ih
    exact ⟨ts ++ joint :: front, last, by simp, kind⟩
  | @groupedThen _ _ _ opening closing joint ts _ _ _ _ _ _ _ ih =>
    obtain ⟨front, last, rfl, kind⟩ := ih
    exact ⟨opening :: ts ++ closing :: joint :: front, last, by simp, kind⟩

/-- Only a word goes on behind a sentence. -/
theorem Sentence.Yields.endsBefore {s : Sentence} {ts : List Token} (h : s.Yields ts) {rest : List Char}
    (ends : EndsWord rest) : ∀ t ∈ ts.getLast?, t.kind.EndsBefore rest := by
  obtain ⟨front, last, rfl, kind⟩ := h.last
  rw [List.getLast?_concat]
  rintro t ⟨⟩
  rcases kind with kind | kind | kind
  · rw [kind]
    exact ends
  · rw [kind]
    trivial
  · rw [kind]
    trivial

/-! ## A text in another place -/

/-- A token that ends before a text ends before a longer one, too, if it ends before what is added to nothing. -/
theorem TokenKind.EndsBefore.append {kind : TokenKind} {cs rest : List Char} (h : kind.EndsBefore cs)
    (ends : cs = [] → kind.EndsBefore rest) : kind.EndsBefore (cs ++ rest) := by
  cases cs with
  | nil => exact ends rfl
  | cons c cs =>
    -- What a token goes on into is told by the first character.
    have same : (c :: cs ++ rest).head? = (c :: cs).head? := rfl
    unfold TokenKind.EndsBefore EndsWord at h ⊢
    rw [same]
    exact h

/-- The end of the input is not written. -/
theorem TokenKind.Spells.plain {kind : TokenKind} {span text : List Char} (h : kind.Spells span text) :
    kind ≠ .endOfInput := by
  cases h <;> nofun

/-- **A text has the same tokens wherever it stands**, before whatever the last of them does not go on into. -/
theorem cuts_elsewhere {position : Nat} {cs : List Char} {ts : List Token} (h : LaidOut position cs ts)
    (position' : Nat) {rest : List Char} (ends : ∀ t ∈ (content ts).getLast?, t.kind.EndsBefore rest) :
    ∃ us, us.map Token.face = (content ts).map Token.face ∧ Cuts position' cs rest us := by
  induction h generalizing position' with
  | ending blank => exact ⟨[], rfl, cuts_gap position' blank rest⟩
  | @token position gap span behind text kind ts blank spells endsThere others ih =>
    rw [content_cons spells.plain] at ends ⊢
    have endsHere : kind.EndsBefore (behind ++ rest) := by
      refine endsThere.append fun nothing => ?_
      -- With nothing behind it the token is the last one.
      subst nothing
      have only := tokensFrom_of_laidOut others
      rw [tokensFrom] at only
      cases only
      exact ends _ rfl
    -- The last of the other tokens is the last of all.
    have endsLater : ∀ t ∈ (content ts).getLast?, t.kind.EndsBefore rest := by
      intro t mem
      refine ends t ?_
      rw [List.getLast?_cons, mem]
      rfl
    obtain ⟨us, same, cut⟩ := ih (position' + utf8Width gap + utf8Width span) endsLater
    refine ⟨⟨kind, String.ofList text, position' + utf8Width gap⟩ :: us, ?_, ?_⟩
    · rw [List.map_cons, List.map_cons, same]
      rfl
    · exact (cuts_gap position' blank _).append ((cuts_of_spells spells endsHere).append cut)

/-! ## What clauses and sentences are written as -/

/-- The characters are cut into tokens that the grammar gives to the clause, wherever they stand and whatever follows
them, if a word ends there. -/
def Clause.WrittenAs (clause : Clause) (cs : List Char) : Prop :=
  ∀ (position : Nat) {rest : List Char}, EndsWord rest → ∃ ts, clause.Yields ts ∧ Cuts position cs rest ts

/-- The characters are cut into tokens that the grammar gives to the sentence, wherever they stand and whatever follows
them, if a word ends there. -/
def Sentence.WrittenAs (s : Sentence) (cs : List Char) : Prop :=
  ∀ (position : Nat) {rest : List Char}, EndsWord rest → ∃ ts, s.Yields ts ∧ Cuts position cs rest ts

namespace Clause

/-- A group is written as its sentence between two parentheses. -/
theorem writtenAs_group {s : Sentence} {cs : List Char} (h : s.WrittenAs cs) :
    (group s).WrittenAs (['('] ++ (cs ++ [')'])) := by
  intro position rest ends
  have stop : EndsWord ([')'] ++ rest) := endsWord_cons (by decide)
  obtain ⟨ts, written, inside⟩ := h (position + utf8Width ['(']) stop
  exact ⟨_, .group rfl written rfl, (cuts_openParen position _).append (inside.append (cuts_closeParen _ rest))⟩

/-- A chain of one clause is written as the clause. -/
theorem writtenAs_alone {clause : Clause} {cs : List Char} (h : clause.WrittenAs cs) : clause.alone.WrittenAs cs := by
  intro position rest ends
  obtain ⟨ts, written, cut⟩ := h position ends
  exact ⟨ts, yields_alone written, cut⟩

/-- A longer chain is written as its first clause and its rest, with a conjunction between two blanks. -/
theorem writtenAs_link {clause : Clause} {c : Conjunction} {rest : Sentence} {cs ds : List Char}
    (h : clause.WrittenAs cs) (after : rest.WrittenAs ds) :
    (clause.link c rest).WrittenAs (cs ++ ([' '] ++ (c.word.toList ++ ([' '] ++ ds)))) := by
  intro position behind ends
  -- The blanks around the conjunction end what stands before them.
  have stop : EndsWord ([' '] ++ (c.word.toList ++ ([' '] ++ ds)) ++ behind) := endsWord_cons (by decide)
  have stop' : EndsWord ([' '] ++ ds ++ behind) := endsWord_cons (by decide)
  obtain ⟨ts, written, first⟩ := h position stop
  obtain ⟨us, writtenAfter, others⟩ := after
    (position + utf8Width cs + utf8Width [' '] + utf8Width c.word.toList + utf8Width [' ']) ends
  have joint := cuts_conjunction (position + utf8Width cs + utf8Width [' ']) c stop'
  exact ⟨_, yields_link written rfl writtenAfter,
    first.append ((Cuts.blank (by decide)).append (joint.append ((Cuts.blank (by decide)).append others)))⟩

end Clause

/-! ## What is read -/

/-- To read a text is to cut it into tokens and to parse them. -/
theorem parseCondition_eq_ok_iff {text : String} {s : Sentence} :
    parseCondition text = .ok s ↔ ∃ ts, tokenize text = .ok ts ∧ parse ts = .ok s := by
  unfold parseCondition
  constructor
  · intro h
    split at h
    · cases h
    · next ts found =>
      split at h
      · cases h
      · next s' parsed =>
        cases h
        exact ⟨ts, found, parsed⟩
  · rintro ⟨ts, found, parsed⟩
    rw [found]
    dsimp only
    rw [parsed]

/-- A text that a sentence is written as is cut into tokens that the grammar gives to the sentence. -/
theorem tokenize_of_writtenAs {text : String} {s : Sentence} (h : s.WrittenAs text.toList) :
    ∃ ts, tokenize text = .ok ts ∧ s.Yields (content ts) := by
  -- The text of a condition stands at the first byte, with nothing behind it.
  obtain ⟨ts, yields, cut⟩ := h 0 endsWord_nil
  unfold Cuts at cut
  rw [List.append_nil, tokensFrom] at cut
  refine ⟨_, cut, ?_⟩
  rw [content_append_marker yields.plain rfl]
  exact yields

/-- **A text is read as what it is written as.** -/
theorem parseCondition_eq_ok_iff_writtenAs {text : String} {s : Sentence} :
    parseCondition text = .ok s ↔ s.WrittenAs text.toList ∧ s.WithinLimits := by
  rw [parseCondition_eq_ok_iff]
  constructor
  · rintro ⟨ts, tokens, parsed⟩
    obtain ⟨written, limits⟩ := parse_eq_ok_iff_content.1 parsed
    refine ⟨fun position rest ends => ?_, limits⟩
    -- The tokens of the whole text are found again elsewhere, but for their positions.
    obtain ⟨us, same, cut⟩ := cuts_elsewhere (laidOut_of_tokensFrom tokens) position (written.endsBefore ends)
    exact ⟨us, written.of_face same, cut⟩
  · rintro ⟨written, limits⟩
    obtain ⟨ts, cut, yields⟩ := tokenize_of_writtenAs written
    exact ⟨ts, cut, parse_eq_ok_iff_content.2 ⟨yields, limits⟩⟩

end SurveyFlow
