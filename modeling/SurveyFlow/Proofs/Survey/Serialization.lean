import Mathlib.Data.List.Forall2
import SurveyFlow.Survey.Form

/-!
# Serialization as JSON trees

A definition and a response are told by their JSON trees (`Definition.ofJson?_toJson`, `Response.ofJson?_toJson`), and
by any other that differs in the order of members, in members that they do not have, and in fields left out for their
defaults (`Definition.ofJson?_of_form`, `Response.ofJson?_of_form`). What such a form is (`Definition.HasForm`,
`Response.HasForm`) is said by looking members up, so neither the writer nor the reader is in it: the writer is shown to
keep to it, and the reader to take everything that does.

The reader looks fields up in a list of its own, from which unknown members are gone, and the kind of an item too
(`exists_fields_of_members`, `splitKind?_of_members`). From there each record is read field by field.
-/

namespace SurveyFlow

/-! ## Members by key -/

section

variable {α β : Type}

/-- Looking up a key goes before or after a change of the values. -/
theorem lookup_map_snd (f : α → β) (entries : List (String × α)) (key : String) :
    (entries.map fun e => (e.1, f e.2)).lookup key = (entries.lookup key).map f := by
  induction entries with
  | nil => rfl
  | cons e entries ih =>
    rw [List.map_cons, List.lookup_cons, List.lookup_cons, ih]
    split <;> rfl

/-- Entries that are dropped for their keys are not missed under a key that is kept. -/
theorem lookup_filter_fst {p : String → Bool} {key : String} (keeps : p key = true) (entries : List (String × α)) :
    (entries.filter fun e => p e.1).lookup key = entries.lookup key := by
  induction entries with
  | nil => rfl
  | cons e entries ih =>
    rw [List.filter_cons]
    by_cases kept : p e.1 = true
    · rw [if_pos kept, List.lookup_cons, List.lookup_cons, ih]
    · have differs : (key == e.1) = false := beq_eq_false_iff_ne.2 fun same => kept (same ▸ keeps)
      rw [if_neg kept, ih, List.lookup_cons, differs]

/-- Of entries with distinct keys one at most has a given key. -/
theorem filter_fst_of_lookup {entries : List (String × α)} (distinct : (entries.map Prod.fst).Nodup) {key : String}
    {value : α} (found : entries.lookup key = some value) : (entries.filter fun e => e.1 == key) = [(key, value)] := by
  induction entries with
  | nil => cases found
  | cons e entries ih =>
    rw [List.map_cons, List.nodup_cons] at distinct
    rw [List.lookup_cons] at found
    -- The first entry has the key, and no later one does; or the key is found later.
    by_cases same : key = e.1
    · rw [beq_iff_eq.2 same] at found
      have others : (entries.filter fun e => e.1 == key) = [] := by
        refine List.filter_eq_nil_iff.2 fun other mem equal => distinct.1 ?_
        rw [← same, ← beq_iff_eq.1 equal]
        exact List.mem_map_of_mem mem
      rw [List.filter_cons, if_pos (beq_iff_eq.2 same.symm), others, ← Option.some.inj found, same]
    · rw [beq_eq_false_iff_ne.2 same] at found
      have other : (e.1 == key) = false := beq_eq_false_iff_ne.2 (Ne.symm same)
      rw [List.filter_cons, other, if_neg Bool.false_ne_true, ih distinct.2 found]

/-- The fields of a record are looked up as in the members that it was written with. -/
theorem exists_knownFields (names : List String) {entries : List (String × α)}
    (distinct : (entries.map Prod.fst).Nodup) :
    ∃ fields, knownFields? names entries = some fields ∧ ∀ name ∈ names, fields.lookup name = entries.lookup name := by
  have known : ((entries.filter fun e => names.contains e.1).map Prod.fst).Nodup :=
    distinct.sublist (List.filter_sublist.map Prod.fst)
  exact ⟨_, if_pos known, fun name mem => lookup_filter_fst (List.contains_iff_mem.2 mem) entries⟩

end

/-! ## Members as data -/

theorem membersToData_eq_map (members : Members) :
    membersToData members = members.map fun m => (.text m.1, m.2.toData) := by
  induction members with
  | nil => rfl
  | cons m members ih => rw [membersToData, ih, List.map_cons]

/-- The keys of the members are distinct. -/
def DistinctKeys (members : Members) : Prop :=
  (members.map Prod.fst).Nodup

/-- The fields of a record that is read from an object. -/
theorem exists_fields_of_members (names : List String) {members : Members} (distinct : DistinctKeys members) :
    ∃ fields, (Data.map (membersToData members)).fields? names = some fields ∧
      ∀ name ∈ names, fields.lookup name = (members.lookup name).map Json.toData := by
  let entries : List (String × Data) := members.map fun m => (m.1, m.2.toData)
  have keys : (entries.map Prod.fst).Nodup := by
    rw [List.map_map]
    exact distinct
  obtain ⟨fields, read, same⟩ := exists_knownFields names keys
  refine ⟨fields, ?_, fun name mem => (same name mem).trans (lookup_map_snd Json.toData members name)⟩
  -- Every key is a text, and so stands for itself.
  have named : (membersToData members).mapM (fun e => (e.1.name? names).map fun name => (name, e.2)) =
      some (entries.map fun e => (some e.1, e.2)) := by
    rw [membersToData_eq_map, List.mapM_map, List.map_map]
    exact List.mapM_pure
  have itself : (entries.map fun e => (some e.1, e.2)).filterMap (fun e => e.1.map (·, e.2)) = entries := by
    rw [List.filterMap_map]
    exact List.filterMap_some
  unfold Data.fields?
  dsimp only
  rw [named, Option.bind_eq_bind, Option.bind_some, itself, read]

/-- The members besides the kind. -/
def withoutKind (members : Members) : Members :=
  members.filter fun m => m.1 != "kind"

theorem distinctKeys_withoutKind {members : Members} (distinct : DistinctKeys members) :
    DistinctKeys (withoutKind members) :=
  distinct.sublist (List.filter_sublist.map Prod.fst)

theorem lookup_withoutKind (members : Members) {name : String} (other : name ≠ "kind") :
    (withoutKind members).lookup name = members.lookup name :=
  lookup_filter_fst (p := fun key => key != "kind") (bne_iff_ne.2 other) members

/-- An object with a kind is split into that and its other members. -/
theorem splitKind?_of_members {members : Members} (distinct : DistinctKeys members) {kind : Json}
    (found : members.lookup "kind" = some kind) :
    splitKind? (.map (membersToData members)) = some (kind.toData, .map (membersToData (withoutKind members))) := by
  -- Exactly one entry has the key `kind`, as the names of the members are distinct.
  have tag : (membersToData members).filter (fun e => isKindKey e.1) = [(.text "kind", kind.toData)] := by
    rw [membersToData_eq_map, List.filter_map]
    show (members.filter fun m => m.1 == "kind").map _ = _
    rw [filter_fst_of_lookup distinct found]
    rfl
  have others : (membersToData members).filter (not ∘ fun e => isKindKey e.1) =
      membersToData (withoutKind members) := by
    rw [membersToData_eq_map, membersToData_eq_map, List.filter_map]
    rfl
  unfold splitKind?
  dsimp only
  rw [List.partition_eq_filter_filter, tag, others]

/-! ## Forms

An object has the form of a record if its members of those names are as they should be. The order of the members and
members of other names do not count. -/

/-- A text that may be missing: a string, or null or no member at all. -/
inductive OptionalForm : Option String → Option Json → Prop where
  | absent : OptionalForm none none
  | null : OptionalForm none (some .null)
  | text (s : String) : OptionalForm (some s) (some (.string s))

/-- The list has an entry of that form for each element, in order. -/
def ListForm {α : Type} (form : α → Members → Prop) (xs : List α) (items : List Json) : Prop :=
  List.Forall₂ (fun x item => ∃ members, item = .object members ∧ form x members) xs items

structure Choice.HasForm (c : Choice) (members : Members) : Prop where
  distinct : DistinctKeys members
  key : members.lookup "key" = some (.string c.key)
  label : members.lookup "label" = some (.string c.label)

/-- The form of a prompt. One that may not be skipped need not say so, and without choices it need not list them. -/
structure Prompt.HasForm (p : Prompt) (members : Members) : Prop where
  distinct : DistinctKeys members
  id : members.lookup "id" = some (.string p.id)
  type : members.lookup "type" = some (.string p.type.name)
  condition : OptionalForm p.condition (members.lookup "condition")
  skippable : members.lookup "skippable" = some (.bool p.skippable) ∨
    members.lookup "skippable" = none ∧ p.skippable = false
  choices : (∃ items, members.lookup "choices" = some (.array items) ∧ ListForm Choice.HasForm p.choices items) ∨
    members.lookup "choices" = none ∧ p.choices = []

/-- The form of a prompt in a set, which has no kind. -/
structure Prompt.HasInnerForm (p : Prompt) (members : Members) : Prop extends p.HasForm members where
  untagged : members.lookup "kind" = none

structure RepeatableSet.HasForm (s : RepeatableSet) (members : Members) : Prop where
  distinct : DistinctKeys members
  id : members.lookup "id" = some (.string s.id)
  condition : OptionalForm s.condition (members.lookup "condition")
  prompts : ∃ items, members.lookup "prompts" = some (.array items) ∧ ListForm Prompt.HasInnerForm s.prompts items

/-- The form of an item, which is told by its kind. -/
inductive Item.HasForm : Item → Members → Prop where
  | prompt {p : Prompt} {members : Members} : members.lookup "kind" = some (.string "prompt") → p.HasForm members →
    HasForm (.prompt p) members
  | set {s : RepeatableSet} {members : Members} : members.lookup "kind" = some (.string "repeatable_set") →
    s.HasForm members → HasForm (.set s) members

structure Definition.HasForm (d : Definition) (members : Members) : Prop where
  distinct : DistinctKeys members
  id : members.lookup "id" = some (.string d.id)
  title : OptionalForm d.title (members.lookup "title")
  items : ∃ items, members.lookup "items" = some (.array items) ∧ ListForm Item.HasForm d.items items

/-- The form of a response. Without answers it need not list them. -/
structure Response.HasForm (r : Response) (members : Members) : Prop where
  distinct : DistinctKeys members
  survey : members.lookup "survey_id" = some (.string r.survey)
  answers : members.lookup "responses" = some (.object r.answers) ∨ members.lookup "responses" = none ∧ r.answers = []

/-- The kind is no member of a prompt. -/
theorem Prompt.HasForm.of_same {p : Prompt} {members members' : Members} (h : p.HasForm members)
    (distinct : DistinctKeys members') (same : ∀ name, name ≠ "kind" → members'.lookup name = members.lookup name) :
    p.HasForm members' where
  distinct := distinct
  id := (same "id" (by decide)).trans h.id
  type := (same "type" (by decide)).trans h.type
  condition := (same "condition" (by decide)).symm ▸ h.condition
  skippable := (same "skippable" (by decide)).symm ▸ h.skippable
  choices := (same "choices" (by decide)).symm ▸ h.choices

/-- The kind is no member of a set. -/
theorem RepeatableSet.HasForm.of_same {s : RepeatableSet} {members members' : Members} (h : s.HasForm members)
    (distinct : DistinctKeys members') (same : ∀ name, name ≠ "kind" → members'.lookup name = members.lookup name) :
    s.HasForm members' where
  distinct := distinct
  id := (same "id" (by decide)).trans h.id
  condition := (same "condition" (by decide)).symm ▸ h.condition
  prompts := (same "prompts" (by decide)).symm ▸ h.prompts

/-! ## What is written has the form -/

/-- A text that is missing is written as null. -/
theorem optionalForm_ofOption (text : Option String) : OptionalForm text (some (Json.ofOption text)) := by
  cases text with
  | none => exact .null
  | some s => exact .text s

/-- What holds of each element as it is written holds of the list. -/
theorem listForm_map {α : Type} {form : α → Members → Prop} {toJson : α → Json}
    (h : ∀ x, ∃ members, toJson x = .object members ∧ form x members) (xs : List α) :
    ListForm form xs (xs.map toJson) :=
  List.forall₂_map_right_iff.2 (List.forall₂_same.2 fun x _ => h x)

/-- A choice is written in its form. -/
theorem Choice.hasForm_toJson (c : Choice) : ∃ members, c.toJson = .object members ∧ c.HasForm members :=
  ⟨_, rfl, show ["key", "label"].Nodup by decide, rfl, rfl⟩

/-- A prompt is written in its form, with all five members. -/
theorem Prompt.hasForm_toMembers (p : Prompt) : p.HasForm p.toMembers where
  distinct := show ["id", "type", "condition", "skippable", "choices"].Nodup by decide
  id := rfl
  type := rfl
  condition := optionalForm_ofOption p.condition
  skippable := .inl rfl
  choices := .inl ⟨_, rfl, listForm_map Choice.hasForm_toJson p.choices⟩

theorem Prompt.hasInnerForm_toJson (p : Prompt) : ∃ members, p.toJson = .object members ∧ p.HasInnerForm members :=
  ⟨_, rfl, p.hasForm_toMembers, rfl⟩

/-- A set is written in its form, with each prompt in it. -/
theorem RepeatableSet.hasForm_toMembers (s : RepeatableSet) : s.HasForm s.toMembers where
  distinct := show ["id", "condition", "prompts"].Nodup by decide
  id := rfl
  condition := optionalForm_ofOption s.condition
  prompts := ⟨_, rfl, listForm_map Prompt.hasInnerForm_toJson s.prompts⟩

theorem lookup_behind_kind (kind : Json) (members : Members) {name : String} (other : name ≠ "kind") :
    (("kind", kind) :: members).lookup name = members.lookup name := by
  rw [List.lookup_cons, beq_eq_false_iff_ne.2 other]

/-- An item is written as what it is, with its kind in front. -/
theorem Item.hasForm_toJson (item : Item) : ∃ members, item.toJson = .object members ∧ item.HasForm members := by
  cases item with
  | prompt p =>
    have distinct : DistinctKeys (("kind", .string promptKind) :: p.toMembers) :=
      show ["kind", "id", "type", "condition", "skippable", "choices"].Nodup by decide
    exact ⟨_, rfl, .prompt rfl (p.hasForm_toMembers.of_same distinct fun _ other => lookup_behind_kind _ _ other)⟩
  | set s =>
    have distinct : DistinctKeys (("kind", .string setKind) :: s.toMembers) :=
      show ["kind", "id", "condition", "prompts"].Nodup by decide
    exact ⟨_, rfl, .set rfl (s.hasForm_toMembers.of_same distinct fun _ other => lookup_behind_kind _ _ other)⟩

/-- **A definition is written in its form.** -/
theorem Definition.hasForm_toJson (d : Definition) : ∃ members, d.toJson = .object members ∧ d.HasForm members :=
  ⟨_, rfl, show ["id", "title", "items"].Nodup by decide, rfl, optionalForm_ofOption d.title, _, rfl,
    listForm_map Item.hasForm_toJson d.items⟩

/-- **A response is written in its form.** -/
theorem Response.hasForm_toJson (r : Response) : ∃ members, r.toJson = .object members ∧ r.HasForm members :=
  ⟨_, rfl, show ["survey_id", "responses"].Nodup by decide, rfl, .inl rfl⟩

/-! ## What has the form is read -/

/-- A missing text may be read from null or from no member. -/
theorem asOptionalText?_of_form {text : Option String} {member : Option Json} (h : OptionalForm text member) :
    Data.asOptionalText? (member.map Json.toData) = some text := by
  cases h <;> rfl

/-- A list is read if each of its entries is. -/
theorem mapM_of_listForm {α : Type} {form : α → Members → Prop} {read : Data → Option α}
    (h : ∀ x members, form x members → read (.map (membersToData members)) = some x) {xs : List α} {items : List Json}
    (entries : ListForm form xs items) : (itemsToData items).mapM read = some xs := by
  induction entries with
  | nil => rfl
  | @cons x item xs items first _ ih =>
    obtain ⟨members, rfl, form⟩ := first
    rw [itemsToData, List.mapM_cons, ih, Json.toData, h x members form]
    rfl

/-- A choice is read from any form of it. -/
theorem Choice.ofData?_of_form (c : Choice) (members : Members) (h : c.HasForm members) :
    ofData? (.map (membersToData members)) = some c := by
  obtain ⟨fields, read, same⟩ := exists_fields_of_members ["key", "label"] h.distinct
  have key := same "key" (by decide)
  have label := same "label" (by decide)
  rw [h.key] at key
  rw [h.label] at label
  unfold ofData?
  rw [read]
  simp [key, label, Json.toData, Data.asText?]

/-- Each type of prompts is read from its name. -/
theorem PromptType.ofData?_name (inItem : Bool) (type : PromptType) : ofData? inItem (.text type.name) = some type := by
  cases type <;> rfl

/-- A prompt is read wherever it stands. -/
theorem Prompt.ofData?_of_form (inItem : Bool) (p : Prompt) (members : Members) (h : p.HasForm members) :
    ofData? inItem (.map (membersToData members)) = some p := by
  obtain ⟨fields, read, same⟩ :=
    exists_fields_of_members ["id", "type", "condition", "skippable", "choices"] h.distinct
  -- Each field is what the form says of the member of that name.
  have id : fields.lookup "id" = some (.text p.id) := by
    rw [same "id" (by decide), h.id]
    rfl
  have type : fields.lookup "type" = some (.text p.type.name) := by
    rw [same "type" (by decide), h.type]
    rfl
  have condition : Data.asOptionalText? (fields.lookup "condition") = some p.condition := by
    rw [same "condition" (by decide), asOptionalText?_of_form h.condition]
  have skippable : fields.lookup "skippable" = some (.bool p.skippable) ∨
      fields.lookup "skippable" = none ∧ p.skippable = false := by
    rw [same "skippable" (by decide)]
    exact h.skippable.imp (fun given => by rw [given]; rfl) (And.imp_left fun left => by rw [left]; rfl)
  have choices : (∃ items, fields.lookup "choices" = some (.list items) ∧ items.mapM Choice.ofData? = some p.choices) ∨
      fields.lookup "choices" = none ∧ p.choices = [] := by
    rw [same "choices" (by decide)]
    refine h.choices.imp ?_ (And.imp_left fun left => by rw [left]; rfl)
    rintro ⟨items, given, form⟩
    exact ⟨itemsToData items, by rw [given]; rfl, mapM_of_listForm Choice.ofData?_of_form form⟩
  obtain ⟨promptId, promptType, promptCondition, promptSkippable, promptChoices⟩ := p
  unfold ofData?
  rw [read]
  -- Both optional fields are given, or left out for their defaults.
  rcases skippable with given | ⟨left, rfl⟩
  · rcases choices with ⟨items, listed, each⟩ | ⟨none, rfl⟩
    · simp [given, listed, each, id, type, condition, Data.asText?, Data.asBool?, Data.asList?, PromptType.ofData?_name]
    · simp [given, none, id, type, condition, Data.asText?, Data.asBool?, PromptType.ofData?_name]
  · rcases choices with ⟨items, listed, each⟩ | ⟨none, rfl⟩
    · simp [left, listed, each, id, type, condition, Data.asText?, Data.asList?, PromptType.ofData?_name]
    · simp [left, none, id, type, condition, Data.asText?, PromptType.ofData?_name]

/-- A set is read from any form of it, if its prompts are. -/
theorem RepeatableSet.ofData?_of_form (s : RepeatableSet) (members : Members) (h : s.HasForm members) :
    ofData? (.map (membersToData members)) = some s := by
  obtain ⟨fields, read, same⟩ := exists_fields_of_members ["id", "condition", "prompts"] h.distinct
  obtain ⟨items, listed, form⟩ := h.prompts
  have id : fields.lookup "id" = some (.text s.id) := by
    rw [same "id" (by decide), h.id]
    rfl
  have condition : Data.asOptionalText? (fields.lookup "condition") = some s.condition := by
    rw [same "condition" (by decide), asOptionalText?_of_form h.condition]
  have prompts : fields.lookup "prompts" = some (.list (itemsToData items)) := by
    rw [same "prompts" (by decide), listed]
    rfl
  have each : (itemsToData items).mapM (Prompt.ofData? true) = some s.prompts :=
    mapM_of_listForm (fun p members inner => p.ofData?_of_form true members inner.toHasForm) form
  unfold ofData?
  rw [read]
  simp [id, condition, prompts, each, Data.asText?, Data.asList?]

/-- An item is read as what its kind says. -/
theorem Item.ofData?_of_form (item : Item) (members : Members) (h : item.HasForm members) :
    ofData? (.map (membersToData members)) = some item := by
  unfold ofData?
  cases h with
  -- The reader sees the members without the kind; they still have the form.
  | @prompt p members tag form =>
    have inner : p.HasForm (withoutKind members) :=
      form.of_same (distinctKeys_withoutKind form.distinct) fun _ other => lookup_withoutKind members other
    rw [splitKind?_of_members form.distinct tag]
    simp [Json.toData, Data.asText?, promptKind, p.ofData?_of_form true _ inner]
  | @set s members tag form =>
    have inner : s.HasForm (withoutKind members) :=
      form.of_same (distinctKeys_withoutKind form.distinct) fun _ other => lookup_withoutKind members other
    rw [splitKind?_of_members form.distinct tag]
    simp [Json.toData, Data.asText?, promptKind, setKind, s.ofData?_of_form _ inner]

/-- **A definition is read from any form of it,** field by field. -/
theorem Definition.ofJson?_of_form (d : Definition) (members : Members) (h : d.HasForm members) :
    ofJson? (.object members) = some d := by
  obtain ⟨fields, read, same⟩ := exists_fields_of_members fieldNames h.distinct
  obtain ⟨items, listed, form⟩ := h.items
  have id : fields.lookup "id" = some (.text d.id) := by
    rw [same "id" (by decide), h.id]
    rfl
  have title : Data.asOptionalText? (fields.lookup "title") = some d.title := by
    rw [same "title" (by decide), asOptionalText?_of_form h.title]
  have entries : fields.lookup "items" = some (.list (itemsToData items)) := by
    rw [same "items" (by decide), listed]
    rfl
  have each : (itemsToData items).mapM Item.ofData? = some d.items := mapM_of_listForm Item.ofData?_of_form form
  unfold ofJson? ofData?
  rw [Json.toData, read]
  simp [id, title, entries, each, Data.asText?, Data.asList?]

/-- **A response is read from any form of it.** Its answers are taken as they are. -/
theorem Response.ofJson?_of_form (r : Response) (members : Members) (h : r.HasForm members) :
    ofJson? (.object members) = some r := by
  obtain ⟨fields, known, same⟩ := exists_knownFields fieldNames h.distinct
  have read : (Json.object members).fields? fieldNames = some fields := known
  have survey : fields.lookup "survey_id" = some (.string r.survey) := (same "survey_id" (by decide)).trans h.survey
  have answers : fields.lookup "responses" = some (.object r.answers) ∨
      fields.lookup "responses" = none ∧ r.answers = [] := by
    rw [same "responses" (by decide)]
    exact h.answers
  obtain ⟨responseSurvey, responseAnswers⟩ := r
  unfold ofJson?
  rw [read]
  -- Without answers, or with the object of them.
  rcases answers with given | ⟨left, rfl⟩
  · simp [survey, given, Json.asObject?]
  · simp [survey, left]

/-- A definition comes back from its tree. -/
theorem Definition.ofJson?_toJson (d : Definition) : ofJson? d.toJson = some d := by
  obtain ⟨members, written, form⟩ := d.hasForm_toJson
  rw [written, d.ofJson?_of_form members form]

/-- A response comes back from its tree. -/
theorem Response.ofJson?_toJson (r : Response) : ofJson? r.toJson = some r := by
  obtain ⟨members, written, form⟩ := r.hasForm_toJson
  rw [written, r.ofJson?_of_form members form]

end SurveyFlow
