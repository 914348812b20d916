import SurveyFlow.Proofs.Condition.Written

/-!
# Writing and reading a sentence

A sentence is read back from its canonical text exactly if it is well-formed
(`parseCondition_render_eq_ok_iff`): it is written as that text (`Sentence.writtenAs_render`), and whatever is read from
any text is well-formed (`wellFormed_of_parseCondition`).
-/

namespace SurveyFlow

/-! ## The text of a chain

Like its tokens, the text of a sentence is that of its first clause and of the rest of its chain. -/

def Clause.render : Clause → String
  | comparison e => e.render
  | group s => "(" ++ s.render ++ ")"

/-- A longer chain is its first clause, a conjunction between blanks, and its rest. -/
theorem Clause.render_link (clause : Clause) (c : Conjunction) (rest : Sentence) :
    (clause.link c rest).render.toList =
      clause.render.toList ++ ([' '] ++ (c.word.toList ++ ([' '] ++ rest.render.toList))) := by
  cases clause <;> simp [link, render, Sentence.render, String.toList_append]

/-! ## The tokens of the text -/

/-- A comparison is written as its three parts, if its identifier is a word. -/
theorem Clause.writtenAs_comparison {e : Expression} (word : IsWord e.identifier) :
    (comparison e).WrittenAs e.render.toList := by
  intro position rest ends
  -- The blanks are what keeps the identifier and the comparator from running on.
  have spaced : e.render.toList = e.identifier.toList ++ ([' '] ++
      (e.comparator.symbol.toList ++ ([' '] ++ (renderLiteral e.literal).toList))) := by
    simp [Expression.render, String.toList_append]
  obtain ⟨kind, isLiteral, literal⟩ := cuts_literal _ e.literal ends
  rw [spaced]
  have single : ([' '] ++ (renderLiteral e.literal).toList ++ rest).head? ≠ some '=' := by simp
  have comparator := endsBefore_comparator single e.comparator
  refine ⟨_, .comparison ?_, (cuts_word word (endsWord_cons (by decide))).append ((Cuts.blank (by decide)).append
    ((cuts_comparator _ e.comparator comparator).append ((Cuts.blank (by decide)).append literal)))⟩
  exact .intro rfl rfl rfl isLiteral rfl

/-- A group is written as its text, if its sentence is. -/
theorem Clause.writtenAs_render_group {s : Sentence} (h : s.WrittenAs s.render.toList) :
    (group s).WrittenAs (group s).render.toList := by
  have bracketed : (group s).render.toList = ['('] ++ (s.render.toList ++ [')']) := by
    simp [render, String.toList_append]
  rw [bracketed]
  exact writtenAs_group h

/-- **A sentence is written as its canonical text**, if its identifiers are words. -/
theorem Sentence.writtenAs_render {s : Sentence} (words : ∀ i ∈ s.identifiers, IsWord i) :
    s.WrittenAs s.render.toList := by
  induction s with
  | simple e => exact Clause.writtenAs_alone (Clause.writtenAs_comparison (words e.identifier List.mem_cons_self))
  | grouped s ih => exact Clause.writtenAs_alone (Clause.writtenAs_render_group (ih words))
  | simpleThen e c rest ih =>
    have first := Clause.writtenAs_comparison (words e.identifier List.mem_cons_self)
    have others := ih fun i mem => words i (List.mem_cons_of_mem _ mem)
    exact (Clause.render_link (.comparison e) c rest).symm ▸ Clause.writtenAs_link first others
  | groupedThen s c rest ihInner ih =>
    rw [identifiers, expressions, List.map_append, List.forall_mem_append] at words
    have first := Clause.writtenAs_render_group (ihInner words.1)
    exact (Clause.render_link (.group s) c rest).symm ▸ Clause.writtenAs_link first (ih words.2)

/-! ## What is read is well-formed -/

/-- The identifier of a comparison is the text of a word. -/
theorem Expression.Yields.word {e : Expression} {ts : List Token} (h : e.Yields ts)
    (words : ∀ t ∈ ts, t.kind = .word → IsWord t.text) : IsWord e.identifier := by
  cases h with
  | intro named ident _ _ _ =>
    rw [← ident]
    exact words _ List.mem_cons_self named

/-- The identifiers of a sentence are the texts of words among its tokens. -/
theorem Sentence.Yields.words {s : Sentence} {ts : List Token} (h : s.Yields ts)
    (words : ∀ t ∈ ts, t.kind = .word → IsWord t.text) : ∀ i ∈ s.identifiers, IsWord i := by
  induction h with
  | simple written =>
    rw [identifiers, expressions, List.map_singleton, List.forall_mem_singleton]
    exact written.word words
  | grouped _ _ _ ih =>
    rw [List.forall_mem_append, List.forall_mem_cons] at words
    exact ih words.1.2
  | simpleThen written _ _ ih =>
    rw [List.forall_mem_append, List.forall_mem_cons] at words
    rw [identifiers, expressions, List.map_cons, List.forall_mem_cons]
    exact ⟨written.word words.1, ih words.2.2⟩
  | groupedThen _ _ _ _ _ ihInner ih =>
    rw [List.forall_mem_append, List.forall_mem_cons, List.forall_mem_cons, List.forall_mem_cons] at words
    rw [identifiers, expressions, List.map_append, List.forall_mem_append]
    exact ⟨ihInner words.1.2, ih words.2.2.2⟩

/-- The tokens of a text that are words by their kind are words by their text. -/
theorem isWord_of_tokensFrom {position : Nat} {cs : List Char} {ts : List Token}
    (h : tokensFrom position cs = .ok ts) : ∀ t ∈ ts, t.kind = .word → IsWord t.text := by
  fun_induction tokensFrom position cs generalizing ts with
  | case1 position =>
    cases h
    intro t mem kind
    rw [List.mem_singleton.1 mem] at kind
    cases kind
  | case2 position c cs blank ih => exact ih h
  | case3 position c cs solid e found => cases h
  | case4 position c cs solid l found ih =>
    cases rest : tokensFrom (position + utf8Width l.span) l.rest with
    | error e =>
      rw [rest] at h
      cases h
    | ok us =>
      rw [rest] at h
      cases h
      -- The kind of the first token was decided with its text; the others were cut from what is behind it.
      intro t mem kind
      rcases List.mem_cons.1 mem with rfl | inRest
      · exact isWord_of_lexeme (by simpa using solid) found kind
      · exact ih rest t inRest kind

/-- Whatever is read from a text is well-formed. -/
theorem wellFormed_of_parseCondition {text : String} {s : Sentence} (h : parseCondition text = .ok s) :
    s.WellFormed := by
  obtain ⟨ts, found, parsed⟩ := parseCondition_eq_ok_iff.1 h
  -- What is parsed is a beginning of what was cut.
  have words : ∀ t ∈ content ts, t.kind = .word → IsWord t.text :=
    fun t mem => isWord_of_tokensFrom found t ((List.takeWhile_sublist _).subset mem)
  exact ⟨(yields_of_parse parsed).words words, withinLimits_of_parse parsed⟩

/-- The canonical text of a well-formed sentence is read as that sentence. -/
theorem parseCondition_render {s : Sentence} (h : s.WellFormed) : parseCondition s.render = .ok s :=
  parseCondition_eq_ok_iff_writtenAs.2 ⟨Sentence.writtenAs_render h.1, h.2⟩

/-- **Rendering and reading are inverse exactly on the well-formed sentences**, and only such sentences are
ever read. -/
theorem parseCondition_render_eq_ok_iff :
    (∀ s : Sentence, parseCondition s.render = .ok s ↔ s.WellFormed) ∧
      ∀ (text : String) (s : Sentence), parseCondition text = .ok s → s.WellFormed :=
  ⟨fun _ => ⟨wellFormed_of_parseCondition, parseCondition_render⟩, fun _ _ => wellFormed_of_parseCondition⟩

/-- A group, a literal with quotes in it, and a literal that is a word of the grammar. -/
theorem parseCondition_render_quoted_literals :
    let s : Sentence := .groupedThen (.simple ⟨"a", .eq, "x \"y\""⟩) .and (.simple ⟨"b", .notEq, "or"⟩)
    s.render = "(a == \"x \\\"y\\\"\") and b != \"or\"" ∧ parseCondition s.render = .ok s ∧ s.WellFormed := by
  intro s
  have text : s.render = "(a == \"x \\\"y\\\"\") and b != \"or\"" := by decide +kernel
  have words : ∀ i ∈ s.identifiers, IsWord i := by decide +kernel
  have limits : s.WithinLimits := by
    refine ⟨by decide, ?_⟩
    simp [s, Sentence.ChainsWithin, Sentence.links, maxChain]
  have read : parseCondition s.render = .ok s := (parseCondition_render_eq_ok_iff.1 s).2 ⟨words, limits⟩
  exact ⟨text, read, parseCondition_render_eq_ok_iff.2 s.render s read⟩

end SurveyFlow
