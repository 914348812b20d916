import SurveyFlow.Proofs.Condition.Reading

/-!
# Parsing is exact

`parse` accepts the lists of tokens that the grammar gives to some sentence within the limits, and returns
that sentence (`parse_eq_ok_iff_content`). No list is given to two sentences, whatever their size
(`Sentence.Yields.unique`): a clause is told by its tokens up to where it ends, and a chain by the first
token behind it that is no conjunction.
-/

namespace SurveyFlow

/-! ## One list, one sentence -/

/-- A chain ends before these tokens. -/
def EndsChain (ts : List Token) : Prop :=
  ∀ t ∈ ts.head?, ∀ c, t.kind ≠ .conjunction c

theorem endsChain_nil : EndsChain [] := nofun

/-- A chain ends before a closing parenthesis. -/
theorem endsChain_closing {closing : Token} {ts : List Token} (closes : closing.kind = .closeParen) :
    EndsChain (closing :: ts) := by
  intro t mem c
  cases mem
  rw [closes]
  nofun

theorem not_endsChain_cons {joint : Token} {c : Conjunction} {ts : List Token}
    (joins : joint.kind = .conjunction c) : ¬EndsChain (joint :: ts) :=
  fun ends => ends joint rfl c joins

/-- Nothing that begins with the tokens `ts` is a clause other than this one. -/
def Clause.Determined (clause : Clause) (ts : List Token) : Prop :=
  ∀ ⦃clause' : Clause⦄ ⦃ts' us us' : List Token⦄, clause'.Yields ts' → ts ++ us = ts' ++ us' →
    clause = clause' ∧ us = us'

/-- Nothing that begins with the tokens `ts` and ends its chain there is a sentence other than this one. -/
def Sentence.Determined (s : Sentence) (ts : List Token) : Prop :=
  ∀ ⦃s' : Sentence⦄ ⦃ts' us us' : List Token⦄, s'.Yields ts' → EndsChain us → EndsChain us' →
    ts ++ us = ts' ++ us' → s = s' ∧ us = us'

/-- A comparison is determined by its three tokens. -/
theorem Clause.determined_comparison {e : Expression} {ts : List Token} (h : e.Yields ts) :
    (Clause.comparison e).Determined ts := by
  intro clause' ts' us us' other same
  cases h with
  | intro named ident compared kind text =>
    cases other with
    | comparison h' =>
      cases h' with
      | intro named' ident' compared' kind' text' =>
        -- Three tokens on both sides, and they are the same three.
        simp only [List.cons_append, List.nil_append, List.cons.injEq] at same
        obtain ⟨rfl, rfl, rfl, rfl⟩ := same
        rw [compared, TokenKind.comparator.injEq] at compared'
        refine ⟨congrArg Clause.comparison ?_, rfl⟩
        rw [Expression.mk.injEq]
        exact ⟨ident.symm.trans ident', compared', text.symm.trans text'⟩
    | group opens _ _ =>
      rw [(List.cons.inj same).1, opens] at named
      cases named

/-- A group is determined by its tokens, as the sentence in it ends its chain at the closing parenthesis. -/
theorem Clause.determined_group {s : Sentence} {opening closing : Token} {ts : List Token}
    (opens : opening.kind = .openParen) (closes : closing.kind = .closeParen) (ih : s.Determined ts) :
    (Clause.group s).Determined (opening :: ts ++ [closing]) := by
  intro clause' ts' us us' other same
  cases other with
  | comparison h' =>
    cases h' with
    | intro named _ _ _ _ =>
      rw [← (List.cons.inj same).1, opens] at named
      cases named
  | @group s' opening' closing' ts' opens' inside' closes' =>
    simp only [List.cons_append, List.append_assoc, List.nil_append, List.cons.injEq] at same
    -- Both sentences end their chains at a closing parenthesis, so they are the same one and end at the same place.
    obtain ⟨rfl, after⟩ := ih inside' (endsChain_closing closes) (endsChain_closing closes') same.2
    exact ⟨rfl, (List.cons.inj after).2⟩

/-- A chain of one clause is determined as the clause is. -/
theorem Clause.determined_alone {clause : Clause} {ts : List Token} (h : clause.Determined ts) :
    clause.alone.Determined ts := by
  intro s' ts' us us' other ends _ same
  rcases other.clauses with ⟨clause', rfl, written⟩ | ⟨clause', c, rest, joint, vs, ws, _, rfl, written, joins, _⟩
  · obtain ⟨rfl, after⟩ := h written same
    exact ⟨rfl, after⟩
  · -- A longer chain would go on with a conjunction where this one ends.
    rw [List.append_assoc] at same
    obtain ⟨_, rfl⟩ := h written same
    exact absurd ends (not_endsChain_cons joins)

/-- A longer chain is determined as its first clause and its rest are. -/
theorem Clause.determined_link {clause : Clause} {c : Conjunction} {rest : Sentence} {joint : Token}
    {ts vs : List Token} (joins : joint.kind = .conjunction c) (h : clause.Determined ts)
    (ih : rest.Determined vs) : (clause.link c rest).Determined (ts ++ joint :: vs) := by
  intro s' ts' us us' other ends ends' same
  rw [List.append_assoc, List.cons_append] at same
  rcases other.clauses with
    ⟨clause', _, written⟩ | ⟨clause', c', rest', joint', ts', vs', rfl, rfl, written, joins', after'⟩
  · -- A chain of one clause would end where this one has a conjunction.
    obtain ⟨_, rfl⟩ := h written same
    exact absurd ends' (not_endsChain_cons joins)
  · rw [List.append_assoc, List.cons_append] at same
    obtain ⟨rfl, behind⟩ := h written same
    -- The conjunction is the same, and behind it the rests begin.
    obtain ⟨rfl, tails⟩ := List.cons.inj behind
    rw [joins, TokenKind.conjunction.injEq] at joins'
    obtain ⟨rfl, after⟩ := ih after' ends ends' tails
    rw [joins']
    exact ⟨rfl, after⟩

/-- The tokens of a sentence determine it. Induction on the grammar, the rest of a chain and the sentence in
a group being determined already. -/
theorem Sentence.Yields.determined {s : Sentence} {ts : List Token} (h : s.Yields ts) : s.Determined ts := by
  induction h with
  | simple written => exact Clause.determined_alone (Clause.determined_comparison written)
  | grouped opens _ closes ih => exact Clause.determined_alone (Clause.determined_group opens closes ih)
  | simpleThen written joins _ ih => exact Clause.determined_link joins (Clause.determined_comparison written) ih
  | groupedThen opens _ closes joins _ ihInner ih =>
    have := Clause.determined_link joins (Clause.determined_group opens closes ihInner) ih
    rwa [List.append_assoc, List.singleton_append] at this

/-- **The grammar is unambiguous.** A list of tokens is given to at most one sentence. -/
theorem Sentence.Yields.unique {s s' : Sentence} {ts : List Token} (h : s.Yields ts) (h' : s'.Yields ts) :
    s = s' := by
  have same : ts ++ [] = ts ++ [] := rfl
  exact (h.determined h' endsChain_nil endsChain_nil same).1

/-! ## Acceptance -/

/-- A reading ends well with the last clause of a chain and no open group. -/
theorem Reading.finish_eq_ok_iff {r : Reading} {marker : Token} {s : Sentence} :
    r.finish marker = .ok s ↔ ∃ last chain, r = ⟨.link last, chain, []⟩ ∧ chain.close last = s := by
  obtain ⟨next, chain, around⟩ := r
  constructor
  · intro h
    -- Only a clause with no group open around it can be the last one.
    cases next with
    | link last =>
      cases around with
      | nil => exact ⟨last, chain, rfl, Except.ok.inj h⟩
      | cons outer around => cases h
    | clause => cases h
    | comparator identifier => cases h
    | literal identifier c => cases h
    | nothing => cases h
  · rintro ⟨last, chain', same, rfl⟩
    cases same
    rfl

/-- To parse is to run over the tokens before the end, and to finish. -/
theorem parse_eq_ok_iff_run {tokens : List Token} {s : Sentence} :
    parse tokens = .ok s ↔
      ∃ last chain, Reading.start.run (content tokens) = .ok ⟨.link last, chain, []⟩ ∧ chain.close last = s := by
  have unfolded : parse tokens = Reading.start.run (content tokens) >>= fun r => r.finish (ending tokens) := rfl
  rw [unfolded]
  constructor
  · intro h
    -- The run over the tokens is the same on both sides; it is the finish that is taken apart.
    cases found : Reading.start.run (content tokens) with
    | error e =>
      rw [found] at h
      cases h
    | ok r =>
      rw [found] at h
      obtain ⟨last, chain, rfl, closed⟩ := Reading.finish_eq_ok_iff.1 h
      exact ⟨last, chain, rfl, closed⟩
  · rintro ⟨last, chain, found, closed⟩
    rw [found]
    exact congrArg Except.ok closed

/-- **What is parsed is in the grammar.** The tokens before the end are those of the sentence, in order. -/
theorem yields_of_parse {tokens : List Token} {s : Sentence} (h : parse tokens = .ok s) :
    s.Yields (content tokens) := by
  obtain ⟨last, chain, found, rfl⟩ := parse_eq_ok_iff_run.1 h
  obtain ⟨outside, inside, current, split, around, links, now⟩ := Reading.reads_run Reading.reads_start found
  -- No group is open, so the tokens are those of the chain and of its last clause.
  cases around
  cases now with
  | link written =>
    rw [List.nil_append, List.nil_append] at split
    rw [split, OpenChain.close_eq]
    exact OpenChain.yields_closeWith links (Clause.yields_alone written)

/-- **What is parsed is within the limits.** -/
theorem withinLimits_of_parse {tokens : List Token} {s : Sentence} (h : parse tokens = .ok s) :
    s.WithinLimits := by
  obtain ⟨last, chain, found, rfl⟩ := parse_eq_ok_iff_run.1 h
  obtain ⟨_, links, now⟩ := Reading.fits_run Reading.fits_start found
  -- At the top no group is open, so the bound is that of the whole sentence.
  obtain ⟨deep, _, chains⟩ := Reading.fits_close links now
  exact ⟨by simpa using deep, chains⟩

/-- **Parsing is exact.** The sentence of a list of tokens is the one within the limits that the grammar
gives the list to. -/
theorem parse_eq_ok_iff_content {tokens : List Token} {s : Sentence} :
    parse tokens = .ok s ↔ s.Yields (content tokens) ∧ s.WithinLimits := by
  constructor
  · intro h
    exact ⟨yields_of_parse h, withinLimits_of_parse h⟩
  · rintro ⟨written, deep, chains⟩
    -- The chain at the top is within the limit as those inside are.
    have long := Sentence.links_le_of_chainsWithin chains
    obtain ⟨last, chain, found, closed⟩ :=
      @Reading.run_of_yields s _ written [] [] (by simpa using deep) (by simpa using long) chains
    exact parse_eq_ok_iff_run.2 ⟨last, chain, found, closed⟩

/-- Tokens that mark no end come first before the end. -/
theorem content_append {before : List Token} (plain : ∀ t ∈ before, t.kind ≠ .endOfInput) (us : List Token) :
    content (before ++ us) = before ++ content us :=
  List.takeWhile_append_of_pos fun t mem => decide_eq_true (plain t mem)

theorem content_cons {t : Token} (kind : t.kind ≠ .endOfInput) (us : List Token) :
    content (t :: us) = t :: content us :=
  List.takeWhile_cons_of_pos (decide_eq_true kind)

theorem content_of_marker {t : Token} (kind : t.kind = .endOfInput) (us : List Token) : content (t :: us) = [] :=
  List.takeWhile_cons_of_neg (by simp [kind])

/-- The tokens before the end, where the end is marked once and last. -/
theorem content_append_marker {body : List Token} {marker : Token} (plain : ∀ t ∈ body, t.kind ≠ .endOfInput)
    (ends : marker.kind = .endOfInput) : content (body ++ [marker]) = body := by
  rw [content_append plain, content_of_marker ends, List.append_nil]

/-- Where tokens end that have no end marker: behind the last one. Positions are counted in 64 bits. -/
def endPosition (tokens : List Token) : Nat :=
  match tokens.getLast? with
  | some last => (last.position + last.text.utf8ByteSize) % bitBound 64
  | none => 0

/-- The end is where the first marker is, or where the tokens end that have none. -/
theorem ending_eq_endAt (tokens : List Token) :
    ending tokens =
      Token.endAt (((tokens.find? fun t => t.kind = .endOfInput).map Token.position).getD (endPosition tokens)) := by
  unfold ending endPosition
  cases tokens.find? (fun t => t.kind = .endOfInput) with
  | some marker => rfl
  | none => cases tokens.getLast? <;> rfl

theorem find?_marker_of_plain {before : List Token} (plain : ∀ t ∈ before, t.kind ≠ .endOfInput) :
    (before.find? fun t => t.kind = .endOfInput) = none := by
  rw [List.find?_eq_none]
  exact fun t mem => by simpa using plain t mem

/-- Tokens without a marker are run over to the last one. -/
theorem parse_of_plain {tokens : List Token} (plain : ∀ t ∈ tokens, t.kind ≠ .endOfInput) :
    parse tokens = Reading.start.run tokens >>= fun r => r.finish (Token.endAt (endPosition tokens)) := by
  have whole : content tokens = tokens := by simpa [content] using content_append plain []
  rw [parse, ending_eq_endAt, find?_marker_of_plain plain, whole]
  rfl

/-- Tokens with a marker are run over up to the first one. -/
theorem parse_of_marker {before : List Token} (plain : ∀ t ∈ before, t.kind ≠ .endOfInput) {marker : Token}
    (ends : marker.kind = .endOfInput) (after : List Token) :
    parse (before ++ marker :: after) =
      Reading.start.run before >>= fun r => r.finish (Token.endAt marker.position) := by
  rw [parse, ending_eq_endAt, content_append plain, content_of_marker ends, List.append_nil, List.find?_append,
    find?_marker_of_plain plain, List.find?_cons_of_pos (by simpa using ends)]
  rfl

/-- **The parser accepts exactly its grammar.** A list of tokens that is marked once, at its end, is parsed as
the sentence within the limits that it is written from, and there is one such sentence at most. -/
theorem parse_marked_eq_ok_iff {body : List Token} {marker : Token} (plain : ∀ t ∈ body, t.kind ≠ .endOfInput)
    (ends : marker.kind = .endOfInput) :
    (∀ s, parse (body ++ [marker]) = .ok s ↔ s.Yields body ∧ s.WithinLimits) ∧
      ∀ s s' : Sentence, s.Yields body → s'.Yields body → s = s' := by
  refine ⟨fun s => ?_, fun s s' h h' => h.unique h'⟩
  rw [parse_eq_ok_iff_content, content_append_marker plain ends]

/-- `(a == 1 or b == 2) and c != 3`, where the group is the first clause and the chain nests to the right. -/
theorem parse_marked_group_then_comparison :
    parse ([⟨.openParen, "(", 0⟩, ⟨.word, "a", 1⟩, ⟨.comparator .eq, "==", 3⟩, ⟨.word, "1", 6⟩,
      ⟨.conjunction .or, "or", 8⟩, ⟨.word, "b", 11⟩, ⟨.comparator .eq, "==", 13⟩, ⟨.quoted, "2", 16⟩,
      ⟨.closeParen, ")", 19⟩, ⟨.conjunction .and, "and", 21⟩, ⟨.word, "c", 25⟩, ⟨.comparator .notEq, "!=", 27⟩,
      ⟨.word, "3", 30⟩] ++ [⟨.endOfInput, "", 31⟩]) =
      .ok (.groupedThen (.simpleThen ⟨"a", .eq, "1"⟩ .or (.simple ⟨"b", .eq, "2"⟩)) .and
        (.simple ⟨"c", .notEq, "3"⟩)) := by
  refine ((parse_marked_eq_ok_iff (by decide) rfl).1 _).2 ⟨?_, ?_⟩
  · have a : Expression.Yields ⟨"a", .eq, "1"⟩ [⟨.word, "a", 1⟩, ⟨.comparator .eq, "==", 3⟩, ⟨.word, "1", 6⟩] :=
      .intro rfl rfl rfl (.inl rfl) rfl
    have b : Expression.Yields ⟨"b", .eq, "2"⟩
        [⟨.word, "b", 11⟩, ⟨.comparator .eq, "==", 13⟩, ⟨.quoted, "2", 16⟩] :=
      .intro rfl rfl rfl (.inr rfl) rfl
    have c : Expression.Yields ⟨"c", .notEq, "3"⟩
        [⟨.word, "c", 25⟩, ⟨.comparator .notEq, "!=", 27⟩, ⟨.word, "3", 30⟩] :=
      .intro rfl rfl rfl (.inl rfl) rfl
    have inner := @Sentence.Yields.simpleThen _ .or _ ⟨.conjunction .or, "or", 8⟩ _ _ a rfl (.simple b)
    exact @Sentence.Yields.groupedThen _ .and _ ⟨.openParen, "(", 0⟩ ⟨.closeParen, ")", 19⟩
      ⟨.conjunction .and, "and", 21⟩ _ _ rfl inner rfl rfl (.simple c)
  · refine ⟨by decide, ?_⟩
    simp [Sentence.ChainsWithin, Sentence.links, maxChain]

end SurveyFlow
