import SurveyFlow.Proofs.Json.Values
import SurveyFlow.Proofs.Survey.Serialization
import SurveyFlow.Survey.Validation
import SurveyFlow.Survey.Walk

/-!
# Serialization as text

What is written as JSON is written down as text and read from it again. Every definition is itself then: it holds no
number, and its objects lose nothing but the order of their members (`Definition.ofText?_toJson`). A response that was
read from text is itself if and only if each of its doubles is (`Response.ofText?_toJson_eq_some_iff`): a double is
written as its shortest decimal, but a decimal is not always read as the double nearest to it (`Numeral.value?`), and so
not every double is read from its own shortest decimal.
-/

namespace SurveyFlow

/-! ## Definitions hold no numbers -/

/-- The value holds no number and is nested so deep at most. -/
structure Json.Numberless (depth : Nat) (j : Json) : Prop where
  within : j.Within depth
  none : ∀ n, ¬j.Holds n

section

variable {depth : Nat}

theorem numberless_string (s : String) : (Json.string s).Numberless depth :=
  ⟨.string s, fun _ holds => nomatch holds⟩

theorem numberless_bool (b : Bool) : (Json.bool b).Numberless depth :=
  ⟨.bool b, fun _ holds => nomatch holds⟩

theorem numberless_ofOption (text : Option String) : (Json.ofOption text).Numberless depth := by
  cases text with
  | none => exact ⟨.null, fun _ holds => nomatch holds⟩
  | some s => exact numberless_string s

/-- A list of values without numbers has none, and is one level deeper. -/
theorem numberless_array {items : List Json} (each : ∀ item ∈ items, item.Numberless depth) :
    (Json.array items).Numberless (depth + 1) where
  within := .array fun item mem => (each item mem).within
  none := by
    rintro n (_ | ⟨mem, holds⟩ | _)
    exact (each _ mem).none n holds

theorem numberless_object {members : Members} (each : ∀ m ∈ members, m.2.Numberless depth) :
    (Json.object members).Numberless (depth + 1) where
  within := .object fun m mem => (each m mem).within
  none := by
    rintro n (_ | _ | ⟨mem, holds⟩)
    exact (each _ mem).none n holds

theorem numberless_map {α : Type} {toJson : α → Json} (each : ∀ x, (toJson x).Numberless depth) (xs : List α) :
    (Json.array (xs.map toJson)).Numberless (depth + 1) :=
  numberless_array (List.forall_mem_map.2 fun x _ => each x)

theorem Choice.numberless_toJson (c : Choice) : c.toJson.Numberless (depth + 1) :=
  numberless_object (by simp [numberless_string])

theorem Prompt.numberless_toMembers (p : Prompt) : ∀ m ∈ p.toMembers, m.2.Numberless (depth + 2) := by
  have choices : (Json.array (p.choices.map Choice.toJson)).Numberless (depth + 2) :=
    numberless_map Choice.numberless_toJson p.choices
  simp [toMembers, numberless_string, numberless_ofOption, numberless_bool, choices]

theorem Prompt.numberless_toJson (p : Prompt) : p.toJson.Numberless (depth + 3) :=
  numberless_object p.numberless_toMembers

theorem RepeatableSet.numberless_toMembers (s : RepeatableSet) : ∀ m ∈ s.toMembers, m.2.Numberless (depth + 4) := by
  have prompts : (Json.array (s.prompts.map Prompt.toJson)).Numberless (depth + 4) :=
    numberless_map Prompt.numberless_toJson s.prompts
  simp [toMembers, numberless_string, numberless_ofOption, prompts]

theorem Item.numberless_toJson (item : Item) : item.toJson.Numberless (depth + 5) := by
  cases item with
  | prompt p => exact numberless_object (List.forall_mem_cons.2 ⟨numberless_string _, p.numberless_toMembers⟩)
  | set s => exact numberless_object (List.forall_mem_cons.2 ⟨numberless_string _, s.numberless_toMembers⟩)

/-- **A definition holds no number,** and is seven levels deep: its items, a set among them, the prompts of that, their
choices. -/
theorem Definition.numberless_toJson (d : Definition) : d.toJson.Numberless (depth + 7) := by
  have items : (Json.array (d.items.map Item.toJson)).Numberless (depth + 6) :=
    numberless_map Item.numberless_toJson d.items
  exact numberless_object (by simp [numberless_string, numberless_ofOption, items])

end

/-! ## Forms do not depend on the order of members -/

/-- The members of an object that is read from text. -/
def sortedRecord (members : Members) : Members :=
  Json.ofMembers (sortedMembers members)

theorem distinctKeys_sortedRecord (members : Members) : DistinctKeys (sortedRecord members) :=
  (Json.sortedKeys_ofMembers _).nodup

/-- A member is found among those in order, its own keys in order too. -/
theorem lookup_sortedRecord {members : Members} (distinct : DistinctKeys members) (key : String) :
    (sortedRecord members).lookup key = (members.lookup key).map Json.sorted := by
  have keys : ((sortedMembers members).map Prod.fst).Nodup := by
    rw [sortedMembers_eq_map, List.map_map]
    exact distinct
  rw [sortedRecord, Json.lookup_ofMembers keys, sortedMembers_eq_map, lookup_map_snd]

/-- What is known of a member is known of it in order. -/
theorem found_sortedRecord {members : Members} (distinct : DistinctKeys members) {key : String} {member : Option Json}
    (found : members.lookup key = member) : (sortedRecord members).lookup key = member.map Json.sorted :=
  found ▸ lookup_sortedRecord distinct key

/-- A text that may be missing holds no members to put in order. -/
theorem OptionalForm.sorted {text : Option String} {member : Option Json} (h : OptionalForm text member) :
    OptionalForm text (member.map Json.sorted) := by
  cases h with
  | absent => exact .absent
  | null => exact .null
  | text s => exact .text s

/-- The entries of a list stay where they are; only their own members are put in order. -/
theorem ListForm.sorted {α : Type} {form : α → Members → Prop}
    (h : ∀ x members, form x members → form x (sortedRecord members)) {xs : List α} {items : List Json}
    (entries : ListForm form xs items) : ListForm form xs (sortedItems items) := by
  induction entries with
  | nil => exact .nil
  | cons first _ ih =>
    obtain ⟨members, rfl, form⟩ := first
    exact .cons ⟨_, rfl, h _ members form⟩ ih

/-- The form of a choice looks its members up by key. -/
theorem Choice.HasForm.sorted (c : Choice) (members : Members) (h : c.HasForm members) :
    c.HasForm (sortedRecord members) where
  distinct := distinctKeys_sortedRecord members
  key := found_sortedRecord h.distinct h.key
  label := found_sortedRecord h.distinct h.label

/-- So does the form of a prompt, also below it, in the choices. -/
theorem Prompt.HasForm.sorted {p : Prompt} {members : Members} (h : p.HasForm members) :
    p.HasForm (sortedRecord members) where
  distinct := distinctKeys_sortedRecord members
  id := found_sortedRecord h.distinct h.id
  type := found_sortedRecord h.distinct h.type
  condition := by
    rw [lookup_sortedRecord h.distinct]
    exact h.condition.sorted
  skippable := h.skippable.imp (found_sortedRecord h.distinct) (And.imp_left (found_sortedRecord h.distinct))
  choices := by
    refine h.choices.imp ?_ (And.imp_left (found_sortedRecord h.distinct))
    rintro ⟨items, given, form⟩
    exact ⟨sortedItems items, found_sortedRecord h.distinct given, form.sorted Choice.HasForm.sorted⟩

/-- No kind appears from putting members in order. -/
theorem Prompt.HasInnerForm.sorted (p : Prompt) (members : Members) (h : p.HasInnerForm members) :
    p.HasInnerForm (sortedRecord members) where
  toHasForm := h.toHasForm.sorted
  untagged := found_sortedRecord h.distinct h.untagged

theorem RepeatableSet.HasForm.sorted {s : RepeatableSet} {members : Members} (h : s.HasForm members) :
    s.HasForm (sortedRecord members) where
  distinct := distinctKeys_sortedRecord members
  id := found_sortedRecord h.distinct h.id
  condition := by
    rw [lookup_sortedRecord h.distinct]
    exact h.condition.sorted
  prompts := by
    obtain ⟨items, given, form⟩ := h.prompts
    exact ⟨sortedItems items, found_sortedRecord h.distinct given, form.sorted Prompt.HasInnerForm.sorted⟩

/-- The kind of an item is found wherever it stands. -/
theorem Item.HasForm.sorted (item : Item) (members : Members) (h : item.HasForm members) :
    item.HasForm (sortedRecord members) := by
  cases h with
  | prompt kind form =>
    exact .prompt (found_sortedRecord form.distinct kind) form.sorted
  | set kind form =>
    exact .set (found_sortedRecord form.distinct kind) form.sorted

/-- **A form of a definition is one still with its members in order.** -/
theorem Definition.HasForm.sorted {d : Definition} {members : Members} (h : d.HasForm members) :
    d.HasForm (sortedRecord members) where
  distinct := distinctKeys_sortedRecord members
  id := found_sortedRecord h.distinct h.id
  title := by
    rw [lookup_sortedRecord h.distinct]
    exact h.title.sorted
  items := by
    obtain ⟨items, given, form⟩ := h.items
    exact ⟨sortedItems items, found_sortedRecord h.distinct given, form.sorted Item.HasForm.sorted⟩

/-- Reads a definition from JSON text. -/
def Definition.ofText? (text : String) : Option Definition := do
  ofJson? (← Json.ofText? text)

/-- **A definition is read back from its text.** -/
theorem Definition.ofText?_toJson (d : Definition) : ofText? d.toJson.render = some d := by
  obtain ⟨members, written, form⟩ := d.hasForm_toJson
  have plain : d.toJson.Numberless jsonDepth := d.numberless_toJson
  -- The text is read as the tree with its members in order, which is another form of the definition.
  unfold ofText?
  rw [ofText?_render, value?_written plain.within fun n holds => absurd holds (plain.none n), written]
  exact d.ofJson?_of_form (sortedRecord members) form.sorted

/-! ## Responses -/

namespace Response

/-- The answers of a response as one value. -/
def answersJson (r : Response) : Json :=
  .object r.answers

/-- The answers may be nested this deep: one level less than the response that they stand in. -/
def answersDepth : Nat := 126

/-- Nothing is passed over in what is written for a response. -/
theorem relevant?_written (r : Response) : relevant? r.toJson.written = some r.toJson.written :=
  rfl

/-- The value of a response is that of its answers beside the survey. -/
theorem value?_written (r : Response) :
    r.toJson.written.value? jsonDepth = (r.answersJson.written.value? answersDepth).map fun value =>
      .object (Json.ofMembers [("survey_id", .string r.survey), ("responses", value)]) := by
  show ((memberValues? answersDepth
    [(some "survey_id", .string (some r.survey)), (some "responses", r.answersJson.written)]).map _) = _
  -- The survey is a string and always has a value, so only the answers can fail.
  cases read : r.answersJson.written.value? answersDepth with
  | none => simp [memberValues?, Written.value?, read]
  | some value => simp [memberValues?, Written.value?, read]

/-- **A response is read from its text with the answers that are read from theirs.** -/
theorem ofText?_toJson (r : Response) :
    ofText? r.toJson.render = (r.answersJson.written.value? answersDepth).bind fun value =>
      value.asObject?.map fun answers => ⟨r.survey, answers⟩ := by
  have value := r.value?_written
  unfold ofText?
  rw [written_ofText?_render, Option.bind_eq_bind, Option.bind_some, relevant?_written, Option.bind_eq_bind,
    Option.bind_some, value]
  -- Answers without a value fail the whole; those with one are an object still.
  cases read : r.answersJson.written.value? answersDepth with
  | none => rfl
  | some value =>
    obtain ⟨answers, rfl⟩ : ∃ answers, value = .object answers := by
      obtain ⟨_, _, -, -, same⟩ := value?_object_eq_some read
      exact ⟨_, same⟩
    have distinct : (List.map Prod.fst [("survey_id", Json.string r.survey), ("responses", .object answers)]).Nodup :=
      show ["survey_id", "responses"].Nodup by decide
    exact ofJson?_of_form ⟨r.survey, answers⟩ _
      ⟨(Json.sortedKeys_ofMembers _).nodup, Json.lookup_ofMembers distinct "survey_id",
        .inl (Json.lookup_ofMembers distinct "responses")⟩

/-- A response whose answers can be those of a text is read back if and only if each of its doubles is. -/
theorem ofText?_toJson_eq_some_iff {r : Response} (within : r.answersJson.Within answersDepth)
    (canonical : r.answersJson.Canonical) :
    ofText? r.toJson.render = some r ↔
      ∀ x : Double, r.answersJson.Holds (.double x) → (JsonNumber.double x).ComesBack := by
  rw [← value?_written_eq_self_iff within canonical, ofText?_toJson]
  constructor
  · intro back
    obtain ⟨value, read, back⟩ := Option.bind_eq_some_iff.1 back
    obtain ⟨answers, object, same⟩ := Option.map_eq_some_iff.1 back
    cases value <;> cases object
    rw [read, ← same]
    rfl
  · intro read
    rw [read]
    rfl

section

variable {depth : Nat} {names : List String} {j : Json} {fields : Members}

/-- The fields of a record stand in it. -/
theorem canonical_of_fields? (within : j.Within (depth + 1)) (canonical : j.Canonical)
    (read : j.fields? names = some fields) : ∀ field ∈ fields, field.2.Within depth ∧ field.2.Canonical := by
  intro field mem
  cases j with
  | null | bool _ | number _ | string _ => cases read
  | array items =>
    cases within with | array inside =>
    cases canonical with | array each =>
    rw [Json.fields?, listedFields?] at read
    split at read
    · cases read
      have item := (List.of_mem_zip mem).2
      exact ⟨inside _ item, each _ item⟩
    · cases read
  | object members =>
    cases within with | object inside =>
    cases canonical with | object _ each =>
    rw [Json.fields?, knownFields?] at read
    split at read
    · cases read
      have member := List.mem_of_mem_filter mem
      exact ⟨inside _ member, each _ member⟩
    · cases read

end

/-- The answers of a response that is read from text are those of a text. -/
theorem canonical_of_ofText? {text : String} {r : Response} (read : ofText? text = some r) :
    r.answersJson.Within answersDepth ∧ r.answersJson.Canonical := by
  unfold ofText? at read
  obtain ⟨tree, -, read⟩ := Option.bind_eq_some_iff.1 read
  obtain ⟨relevant, -, read⟩ := Option.bind_eq_some_iff.1 read
  obtain ⟨j, value, read⟩ := Option.bind_eq_some_iff.1 read
  obtain ⟨within, canonical⟩ := canonical_of_value? relevant value
  unfold ofJson? at read
  obtain ⟨fields, known, read⟩ := Option.bind_eq_some_iff.1 read
  have each : ∀ field ∈ fields, field.2.Within answersDepth ∧ field.2.Canonical :=
    canonical_of_fields? within canonical known
  obtain ⟨survey, -, read⟩ := Option.bind_eq_some_iff.1 read
  cases survey with
  | null | bool _ | number _ | array _ | object _ => cases read
  | string id =>
    -- Answers left out are an empty object. Those that are there stand in what was read.
    cases found : fields.lookup "responses" with
    | none =>
      rw [found] at read
      cases read
      exact ⟨.object nofun, .object .nil nofun⟩
    | some value =>
      rw [found] at read
      obtain ⟨survey, -, read⟩ := Option.bind_eq_some_iff.1 read
      obtain ⟨answers, object, read⟩ := Option.bind_eq_some_iff.1 read
      cases read
      obtain ⟨before, after, split, -⟩ := List.lookup_eq_some_iff.1 found
      have field := each ("responses", value) (split ▸ List.mem_append_right _ List.mem_cons_self)
      cases value <;> cases object
      exact field

end Response

/-! ## Serialization -/

/-- **Definitions and responses survive serialization, but for doubles in text.** As trees both are read back from what
they are written as, and from every object of that form, in which the kind tells items apart and prompts in sets have
none. As text every definition is read back, and a response that was read from text is read back if and only if each of
its doubles is read from its own shortest decimal. So writing and reading again changes no issues of a definition, and
no report of a walk over answers whose doubles come back. -/
theorem survives_serialization (d : Definition) (r : Response) :
    (Definition.ofJson? d.toJson = some d ∧ Response.ofJson? r.toJson = some r) ∧
      (∃ members, d.toJson = .object members ∧ d.HasForm members) ∧
      (∃ members, r.toJson = .object members ∧ r.HasForm members) ∧
      (∀ members, d.HasForm members → Definition.ofJson? (.object members) = some d) ∧
      (∀ members, r.HasForm members → Response.ofJson? (.object members) = some r) ∧
      (Definition.ofJson? d.toJson).map validate = some (validate d) ∧
      (∀ policy cache, (do return walk policy cache (← Definition.ofJson? d.toJson) (← Response.ofJson? r.toJson)) =
        some (walk policy cache d r)) ∧
      Definition.ofText? d.toJson.render = some d ∧
      (Definition.ofText? d.toJson.render).map validate = some (validate d) ∧
      ∀ text, Response.ofText? text = some r →
        (Response.ofText? r.toJson.render = some r ↔
          ∀ x : Double, r.answersJson.Holds (.double x) → (JsonNumber.double x).ComesBack) ∧
        ((∀ x : Double, r.answersJson.Holds (.double x) → (JsonNumber.double x).ComesBack) → ∀ policy cache,
          (do return walk policy cache (← Definition.ofText? d.toJson.render) (← Response.ofText? r.toJson.render)) =
            some (walk policy cache d r)) := by
  refine ⟨⟨d.ofJson?_toJson, r.ofJson?_toJson⟩, d.hasForm_toJson, r.hasForm_toJson, d.ofJson?_of_form,
    r.ofJson?_of_form, ?_, fun policy cache => ?_, d.ofText?_toJson, ?_, fun text read => ?_⟩
  · rw [d.ofJson?_toJson, Option.map_some]
  · rw [d.ofJson?_toJson, r.ofJson?_toJson]
    rfl
  · rw [d.ofText?_toJson, Option.map_some]
  · -- For text: what was read before is canonical, so only its doubles can fail.
    obtain ⟨within, canonical⟩ := Response.canonical_of_ofText? read
    have back := Response.ofText?_toJson_eq_some_iff within canonical
    refine ⟨back, fun each policy cache => ?_⟩
    rw [d.ofText?_toJson, back.2 each]
    rfl

/-- A survey that asks for a dose, and from a threshold on for a reason. -/
def doseSurvey : Definition where
  id := "doses"
  title := none
  items := [.prompt ⟨"dose", .number, none, false, []⟩,
    .prompt ⟨"reason", .text, some "dose >= 9.033805011624533", false, []⟩]

/-- A dose of twelve and a half, which comes back. -/
def plainDose : Response where
  survey := "doses"
  answers := [("dose", .number (.double ⟨0x4029000000000000⟩)), ("reason", .string "pain")]

/-- The plain dose is read from a text, its double comes back, and so it does itself. -/
theorem survives_serialization_plainDose :
    ∃ text, Response.ofText? text = some plainDose ∧
      (∀ x : Double, plainDose.answersJson.Holds (.double x) → (JsonNumber.double x).ComesBack) ∧
      Response.ofText? plainDose.toJson.render = some plainDose := by
  have order : ["dose", "reason"].Pairwise (· < ·) := by decide
  have within : plainDose.answersJson.Within Response.answersDepth :=
    .object (List.forall_mem_cons.2 ⟨.number _, List.forall_mem_singleton.2 (.string _)⟩)
  have canonical : plainDose.answersJson.Canonical :=
    .object order (List.forall_mem_cons.2 ⟨.double _, List.forall_mem_singleton.2 (.string _)⟩)
  -- The dose is the only number among the answers.
  have back : ∀ x : Double, plainDose.answersJson.Holds (.double x) → (JsonNumber.double x).ComesBack := by
    rintro x (_ | _ | ⟨mem, holds⟩)
    rcases List.mem_cons.1 mem with rfl | mem
    · cases holds
      decide +kernel
    · cases List.mem_singleton.1 mem
      cases holds
  have accepted := (Response.ofText?_toJson_eq_some_iff within canonical).2 back
  obtain ⟨-, -, -, -, -, -, -, -, -, text⟩ := survives_serialization doseSurvey plainDose
  exact ⟨_, accepted, back, (text _ accepted).1.2 back⟩

/-- A text with a dose that is the threshold once it is read. -/
def thresholdText : String :=
  "\x7b\"survey_id\":\"doses\",\"responses\":\x7b\"dose\":9.033805011624534,\"reason\":\"pain\"\x7d\x7d"

/-- What is written for that dose, and is read as less than the threshold. -/
def rewrittenText : String :=
  "\x7b\"survey_id\":\"doses\",\"responses\":\x7b\"dose\":9.033805011624533,\"reason\":\"pain\"\x7d\x7d"

/-- The report of a walk over what is read from a text. -/
def reportOfText? (d : Definition) (text : String) : Option Report := do
  (walk .show (.new 4) d (← Response.ofText? text)).1.toOption

/-- **A response that is written and read again may have another report.** -/
theorem walk_changed_by_text :
    ∃ r again, Response.ofText? thresholdText = some r ∧ r.toJson.render = rewrittenText ∧
      Response.ofText? r.toJson.render = some again ∧
      (walk .show (.new 4) doseSurvey r).1 ≠ (walk .show (.new 4) doseSurvey again).1 := by
  -- What the dose is read as is just at the threshold; what that is written as is read as the double below.
  have written : (Response.ofText? thresholdText).map (fun r => r.toJson.render) = some rewrittenText := by
    decide +kernel
  have differs : reportOfText? doseSurvey thresholdText ≠ reportOfText? doseSurvey rewrittenText := by
    decide +kernel
  have read : (Response.ofText? rewrittenText).isSome = true := by
    decide +kernel
  obtain ⟨r, accepted, same⟩ := Option.map_eq_some_iff.1 written
  obtain ⟨again, reread⟩ := Option.isSome_iff_exists.1 read
  refine ⟨r, again, accepted, same, same ▸ reread, fun equal => differs ?_⟩
  rw [reportOfText?, reportOfText?, accepted, reread]
  exact congrArg Except.toOption equal

end SurveyFlow
