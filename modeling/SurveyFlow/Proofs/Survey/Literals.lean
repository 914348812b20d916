import SurveyFlow.Proofs.Survey.WellFormed

/-!
# Literals beside answers

A literal is looked at three times: by the check of the definition, before there are answers; beside each answer, by the
type of the answer; and, if it was uploaded, as an answer itself. The three agree:

* **`checkLiteral_foretells_compare`** — what the check says of a comparison is what becomes of it with every answer of
  the prompt's type;
* **`decode_agrees_with_coerceLiteral`** — a text is the same value as an answer and as a literal, or neither.
-/

namespace SurveyFlow

/-! ## The check of a literal -/

theorem exists_value_of_type (type : ValueType) : ∃ value : TypedValue, value.type = type := by
  cases type with
  | number => exact ⟨.number .zero, rfl⟩
  | text => exact ⟨.text "", rfl⟩
  | choice => exact ⟨.choice "", rfl⟩
  | boolean => exact ⟨.boolean true, rfl⟩

/-- The issue and the error say the same of a comparison. -/
inductive IssueKind.Foretells : IssueKind → EvalError → Prop where
  | comparator (identifier : String) (comparator : Comparator) :
    Foretells (.invalidComparison identifier comparator) (.invalidComparison identifier comparator)
  | literal (identifier literal : String) :
    Foretells (.literalTypeMismatch identifier literal) (.literalTypeMismatch identifier literal)

/-- Every error of a literal is one that an issue can foretell. -/
theorem exists_foretells {type : ValueType} {e : Expression} {error : EvalError}
    (h : coerceLiteral type e = .error error) : ∃ kind, IssueKind.Foretells kind error := by
  rcases error_of_coerceLiteral h with rfl | rfl
  · exact ⟨_, .comparator _ _⟩
  · exact ⟨_, .literal _ _⟩

section

variable {p : Prompt} {e : Expression}

/-- The check reports a comparator or a literal exactly if it fails to be read by the type of the prompt. -/
theorem checkLiteral_eq_some_iff {kind : IssueKind} {error : EvalError} (h : kind.Foretells error) :
    p.checkLiteral e = some kind ↔ coerceLiteral p.type.valueType e = .error error := by
  unfold Prompt.checkLiteral
  cases read : coerceLiteral p.type.valueType e with
  | error error' =>
    -- Both kinds of error are passed on as they are.
    rcases error_of_coerceLiteral read with rfl | rfl
    · cases h <;> simp
    · cases h <;> simp
  | ok literal =>
    refine ⟨fun checked => ?_, nofun⟩
    dsimp only at checked
    split at checked
    · cases checked
      cases h
    · cases checked

/-- A literal that is passed, or is an unknown choice only, can be read. -/
theorem coerceLiteral_of_checkLiteral
    (h : p.checkLiteral e = none ∨ ∃ identifier literal, p.checkLiteral e = some (.unknownChoice identifier literal)) :
    ∃ literal, coerceLiteral p.type.valueType e = .ok literal := by
  cases read : coerceLiteral p.type.valueType e with
  | ok literal => exact ⟨literal, rfl⟩
  | error error =>
    obtain ⟨kind, foretells⟩ := exists_foretells read
    have checked := (checkLiteral_eq_some_iff foretells).2 read
    rcases h with nothing | ⟨identifier, literal, unknown⟩
    · cases nothing.symm.trans checked
    · cases unknown.symm.trans checked
      cases foretells

/-- An unknown choice is the key of none. -/
theorem key_ne_of_unknownChoice {identifier literal : String}
    (h : p.checkLiteral e = some (.unknownChoice identifier literal)) :
    ∀ c ∈ p.choices, c.key ≠ e.literal := by
  obtain ⟨value, read⟩ := coerceLiteral_of_checkLiteral (.inr ⟨identifier, literal, h⟩)
  unfold Prompt.checkLiteral at h
  rw [read] at h
  dsimp only at h
  split at h
  · next unknown =>
    obtain ⟨_, _, absent⟩ := unknown
    intro c mem same
    rw [hasChoice_iff.2 ⟨c, mem, same⟩] at absent
    cases absent
  · cases h

end

/-- Any text is read as a choice, where it is not compared by an order. -/
theorem coerceLiteral_choice {e : Expression} (unordered : e.comparator.isOrdering = false) :
    coerceLiteral .choice e = .ok (.choice e.literal) := by
  unfold coerceLiteral
  rw [if_neg (by simp [unordered])]

/-- **The check of a literal foretells every comparison.** It reports a comparator or a literal exactly if the
comparison fails with that error for some answer of the prompt's type, and then it fails so for all of them. Otherwise
it has a value for all of them; and if the literal is an unknown choice, no choice of the prompt is equal to it. -/
theorem checkLiteral_foretells_compare (p : Prompt) (e : Expression) :
    (∀ kind error, IssueKind.Foretells kind error →
      (p.checkLiteral e = some kind ↔ ∃ value : TypedValue, value.type = p.type.valueType ∧
        e.compare (.known (.given value)) = .error error) ∧
      (p.checkLiteral e = some kind → ∀ value : TypedValue, value.type = p.type.valueType →
        e.compare (.known (.given value)) = .error error)) ∧
    ((p.checkLiteral e = none ∨ ∃ identifier literal, p.checkLiteral e = some (.unknownChoice identifier literal)) →
      ∀ value : TypedValue, value.type = p.type.valueType → ∃ b, e.compare (.known (.given value)) = .ok b) ∧
    (∀ identifier literal, p.checkLiteral e = some (.unknownChoice identifier literal) → ∀ c ∈ p.choices,
      (e.comparator = .eq → e.compare (.known (.given (.choice c.key))) = .ok false) ∧
      (e.comparator = .notEq → e.compare (.known (.given (.choice c.key))) = .ok true)) ∧
    e.compare (.known .notDisplayed) = .ok false := by
  refine ⟨fun kind error foretells => ?errors, fun passed value typed => ?values, ?choices, rfl⟩
  -- Whether a literal can be read depends on the type only, so one answer speaks for all.
  case errors =>
    have all : p.checkLiteral e = some kind → ∀ value : TypedValue, value.type = p.type.valueType →
        e.compare (.known (.given value)) = .error error := by
      intro checked value typed
      rw [compare_eq_error_iff, typed]
      exact (checkLiteral_eq_some_iff foretells).1 checked
    refine ⟨⟨fun checked => ?_, fun ⟨value, typed, failed⟩ => ?_⟩, all⟩
    · obtain ⟨value, typed⟩ := exists_value_of_type p.type.valueType
      exact ⟨value, typed, all checked value typed⟩
    · rw [compare_eq_error_iff, typed] at failed
      exact (checkLiteral_eq_some_iff foretells).2 failed
  case values =>
    obtain ⟨literal, read⟩ := coerceLiteral_of_checkLiteral passed
    rw [compare_given, typed, read]
    exact ⟨_, rfl⟩
  -- The literal is the key of no choice, so it differs from each.
  case choices =>
    intro identifier literal unknown c mem
    have differ : (c.key == e.literal) = false := beq_eq_false_iff_ne.2 (key_ne_of_unknownChoice unknown c mem)
    refine ⟨fun eq => ?_, fun notEq => ?_⟩
    · rw [compare_given, TypedValue.type, coerceLiteral_choice (by rw [eq]; rfl), eq]
      simp only [Except.map, Comparator.holds, Comparator.holdsOfEquality, differ]
    · rw [compare_given, TypedValue.type, coerceLiteral_choice (by rw [notEq]; rfl), notEq]
      simp only [Except.map, Comparator.holds, Comparator.holdsOfEquality, differ]
      rfl

/-- A question for a colour, of which there are two. -/
def colourPrompt : Prompt :=
  ⟨"colour", .singleChoice, none, false, [⟨"r", "Red"⟩, ⟨"g", "Green"⟩]⟩

/-- Blue is not among the colours, so each of them is another; and colours have no order. -/
theorem checkLiteral_foretells_colours :
    colourPrompt.checkLiteral ⟨"colour", .eq, "b"⟩ = some (.unknownChoice "colour" "b") ∧
      (∀ c ∈ colourPrompt.choices,
        Expression.compare ⟨"colour", .eq, "b"⟩ (.known (.given (.choice c.key))) = .ok false) ∧
      colourPrompt.checkLiteral ⟨"colour", .lt, "r"⟩ = some (.invalidComparison "colour" .lt) ∧
      ∀ value : TypedValue, value.type = .choice →
        Expression.compare ⟨"colour", .lt, "r"⟩ (.known (.given value)) = .error (.invalidComparison "colour" .lt) := by
  have unknown : colourPrompt.checkLiteral ⟨"colour", .eq, "b"⟩ = some (.unknownChoice "colour" "b") := by decide
  have refused : colourPrompt.checkLiteral ⟨"colour", .lt, "r"⟩ = some (.invalidComparison "colour" .lt) := by decide
  obtain ⟨_, _, choices, _⟩ := checkLiteral_foretells_compare colourPrompt ⟨"colour", .eq, "b"⟩
  obtain ⟨errors, _⟩ := checkLiteral_foretells_compare colourPrompt ⟨"colour", .lt, "r"⟩
  refine ⟨unknown, fun c mem => (choices _ _ unknown c mem).1 rfl, refused, ?_⟩
  exact (errors _ _ (.comparator "colour" .lt)).2 refused

/-! ## A text as an answer and as a literal -/

/-- The text neither begins nor ends with a blank. -/
def Unpadded (text : String) : Prop :=
  (∀ c ∈ text.toList.head?, isBlank c = false) ∧ ∀ c ∈ text.toList.getLast?, isBlank c = false

theorem dropWhile_isBlank {cs : List Char} (solid : ∀ c ∈ cs.head?, isBlank c = false) :
    cs.dropWhile isBlank = cs := by
  cases cs with
  | nil => rfl
  | cons c cs => exact List.dropWhile_cons_of_neg (by simp [solid c rfl])

/-- A text without blanks at its ends stays as it is. -/
theorem trimBlanks_of_unpadded {text : String} (h : Unpadded text) : trimBlanks text = text := by
  have back : ∀ c ∈ text.toList.reverse.head?, isBlank c = false := by
    rw [List.head?_reverse]
    exact h.2
  rw [trimBlanks, dropWhile_isBlank h.1, dropWhile_isBlank back, List.reverse_reverse, String.ofList_toList]

/-- A text that is no sentinel is an answer. -/
theorem ofRaw_of_plain {text : String} (plain : isSentinel text = false) :
    Upload.ofRaw (some (.string text)) = .value (.string text) := by
  rw [isSentinel, Bool.or_eq_false_iff, beq_eq_false_iff_ne, beq_eq_false_iff_ne] at plain
  rw [Upload.ofRaw, if_neg plain.1, if_neg plain.2]

/-- **The two readers accept the same texts** and give them the same values, a case for each type of prompt. -/
theorem decodeValue?_string {type : PromptType} {e : Expression} (unpadded : Unpadded e.literal)
    (unordered : e.comparator.isOrdering = false) :
    decodeValue? type (.string e.literal) = (coerceLiteral type.valueType e).toOption := by
  have allowed : ∀ t : ValueType, ¬(t ≠ .number ∧ e.comparator.isOrdering = true) := by simp [unordered]
  unfold coerceLiteral
  rw [if_neg (allowed _)]
  cases type with
  -- The reader of answers cuts blanks off, of which there are none.
  | number =>
    dsimp only [decodeValue?, PromptType.valueType]
    rw [trimBlanks_of_unpadded unpadded]
    cases finiteDouble? e.literal <;> rfl
  | text => rfl
  | singleChoice => rfl
  -- The two words are read by both, and no other text is by either.
  | boolean =>
    dsimp only [PromptType.valueType]
    by_cases yes : e.literal = "true"
    · rw [yes]
      rfl
    · by_cases no : e.literal = "false"
      · rw [no]
        rfl
      · rw [if_neg yes, if_neg no]
        unfold decodeValue?
        split
        case h_7 same => exact absurd (Json.string.inj same) yes
        case h_8 same => exact absurd (Json.string.inj same) no
        case h_9 => rfl
        -- The other cases are those of other types, and of answers that are no texts.
        all_goals contradiction

section

variable {p : Prompt} {e : Expression} (plain : isSentinel e.literal = false) (unpadded : Unpadded e.literal)
  (unordered : e.comparator.isOrdering = false)

include plain unpadded unordered

/-- An answer that cannot be read has an error of its own, whatever is wrong with the literal. -/
theorem decode_string : p.decode (some (.string e.literal)) =
    ((coerceLiteral p.type.valueType e).map Answer.given).mapError fun _ => .invalidAnswer p.id p.type := by
  unfold Prompt.decode Prompt.decodeAnswer
  rw [ofRaw_of_plain plain]
  dsimp only
  rw [decodeValue?_string unpadded unordered]
  cases coerceLiteral p.type.valueType e <;> rfl

/-- A text has the same values as an answer and as a literal. -/
theorem decode_eq_ok_iff_coerceLiteral {value : TypedValue} :
    p.decode (some (.string e.literal)) = .ok (.given value) ↔ coerceLiteral p.type.valueType e = .ok value := by
  rw [decode_string plain unpadded unordered]
  cases coerceLiteral p.type.valueType e with
  | error error => exact ⟨nofun, nofun⟩
  | ok literal =>
    constructor
    · rintro ⟨⟩
      rfl
    · rintro ⟨⟩
      rfl

theorem decode_fails_iff_coerceLiteral :
    (∃ error, p.decode (some (.string e.literal)) = .error error) ↔
      ∃ error, coerceLiteral p.type.valueType e = .error error := by
  rw [decode_string plain unpadded unordered]
  cases coerceLiteral p.type.valueType e with
  | error error => exact ⟨fun _ => ⟨_, rfl⟩, fun _ => ⟨_, rfl⟩⟩
  | ok literal => exact ⟨nofun, nofun⟩

end

theorem valueType_eq_number_iff {type : PromptType} : type.valueType = .number ↔ type = .number := by
  cases type <;> simp [PromptType.valueType]

/-- An answer has the type of its prompt. -/
theorem type_of_decode {p : Prompt} {raw : Option Json} {value : TypedValue} (h : p.decode raw = .ok (.given value)) :
    value.type = p.type.valueType := by
  unfold Prompt.decode at h
  split at h
  · cases h
  · cases h
  · cases h
  · next json _ =>
    unfold Prompt.decodeAnswer at h
    cases found : decodeValue? p.type json with
    | none =>
      rw [found] at h
      cases h
    | some value' =>
      rw [found] at h
      cases h
      exact type_of_decodeValue? found

/-- A value that is no number is equal to itself. -/
theorem holds_self {value : TypedValue} (other : value.type ≠ .number) :
    Comparator.eq.holds value value = true ∧ Comparator.notEq.holds value value = false := by
  cases value with
  | number x => exact absurd rfl other
  | text _ | choice _ | boolean _ => simp [Comparator.holds, Comparator.holdsOfEquality]

/-- A literal that is read as the answer itself is equal to it. -/
theorem compare_of_coerceLiteral {e : Expression} {value : TypedValue} (other : value.type ≠ .number)
    (read : coerceLiteral value.type e = .ok value) :
    (e.comparator = .eq → e.compare (.known (.given value)) = .ok true) ∧
      (e.comparator = .notEq → e.compare (.known (.given value)) = .ok false) := by
  obtain ⟨same, differ⟩ := holds_self other
  rw [compare_given, read]
  refine ⟨fun eq => ?_, fun notEq => ?_⟩
  · rw [eq, Except.map, same]
  · rw [notEq, Except.map, differ]

/-- A choice is equal to the literal that is its key. -/
theorem compare_choice {e : Expression} (eq : e.comparator = .eq) (key : String) :
    e.compare (.known (.given (.choice key))) = .ok (decide (e.literal = key)) := by
  rw [compare_given, TypedValue.type, coerceLiteral_choice (by rw [eq]; rfl), eq, Except.map]
  simp only [Comparator.holds, Comparator.holdsOfEquality, eq_comm (a := e.literal)]
  rfl

/-- **A text is read alike as an answer and as a literal.** Unless it is a sentinel or begins or ends with a blank, it
has the same value as both, or none as either, and an answer that is no number is equal to the literal. And an integer
that is uploaded for a choice is equal to its decimal text and to nothing else. -/
theorem decode_agrees_with_coerceLiteral (p : Prompt) :
    (∀ e : Expression, isSentinel e.literal = false → Unpadded e.literal → e.comparator.isOrdering = false →
      (∀ value, p.decode (some (.string e.literal)) = .ok (.given value) ↔
        coerceLiteral p.type.valueType e = .ok value) ∧
      ((∃ error, p.decode (some (.string e.literal)) = .error error) ↔
        ∃ error, coerceLiteral p.type.valueType e = .error error) ∧
      (p.type ≠ .number → ∀ value, p.decode (some (.string e.literal)) = .ok (.given value) →
        (e.comparator = .eq → e.compare (.known (.given value)) = .ok true) ∧
        (e.comparator = .notEq → e.compare (.known (.given value)) = .ok false))) ∧
    (p.type = .singleChoice → ∀ k : Int, ∃ value, p.decode (some (.number (.integer k))) = .ok (.given value) ∧
      ∀ e : Expression, e.comparator = .eq →
        e.compare (.known (.given value)) = .ok (decide (e.literal = toString k))) := by
  constructor
  · intro e plain unpadded unordered
    have decoded : ∀ value, p.decode (some (.string e.literal)) = .ok (.given value) ↔
        coerceLiteral p.type.valueType e = .ok value :=
      fun _ => decode_eq_ok_iff_coerceLiteral plain unpadded unordered
    refine ⟨decoded, decode_fails_iff_coerceLiteral plain unpadded unordered, fun other value given => ?_⟩
    have read := (decoded value).1 given
    rw [← type_of_decode given] at read
    -- Numbers are left out, as a number may differ from itself.
    refine compare_of_coerceLiteral (fun number => other ?_) read
    rwa [type_of_decode given, valueType_eq_number_iff] at number
  · intro single k
    refine ⟨.choice (toString k), ?_, fun e eq => compare_choice eq _⟩
    unfold Prompt.decode Prompt.decodeAnswer
    rw [single]
    rfl

/-- The key of a choice may be a text or an integer, and a literal is the decimal text of the latter. -/
theorem decode_agrees_on_keys :
    ∃ p : Prompt, p.decode (some (.string "b")) = .ok (.given (.choice "b")) ∧
      Expression.compare ⟨"grade", .notEq, "b"⟩ (.known (.given (.choice "b"))) = .ok false ∧
      ∃ value, p.decode (some (.number (.integer (-7)))) = .ok (.given value) ∧
        Expression.compare ⟨"grade", .eq, "-7"⟩ (.known (.given value)) = .ok true ∧
        Expression.compare ⟨"grade", .eq, "7"⟩ (.known (.given value)) = .ok false := by
  let p : Prompt := ⟨"grade", .singleChoice, none, false, []⟩
  obtain ⟨texts, integers⟩ := decode_agrees_with_coerceLiteral p
  have unpadded : Unpadded "b" := by
    constructor
    · rintro c ⟨⟩
      decide
    · rintro c ⟨⟩
      decide
  obtain ⟨decoded, _, compared⟩ := texts ⟨"grade", .notEq, "b"⟩ (by decide) unpadded rfl
  have given : p.decode (some (.string "b")) = .ok (.given (.choice "b")) := (decoded (.choice "b")).2 rfl
  obtain ⟨value, key, literals⟩ := integers rfl (-7)
  refine ⟨p, given, (compared nofun _ given).2 rfl, value, key, ?_, ?_⟩
  · rw [literals ⟨"grade", .eq, "-7"⟩ rfl]
    rfl
  · rw [literals ⟨"grade", .eq, "7"⟩ rfl]
    rfl

end SurveyFlow
