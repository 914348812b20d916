import SurveyFlow.Proofs.Survey.Literals
import SurveyFlow.Settings

/-!
# Overrides of the settings

An override is a text for one field. What it means is settled by its characters: the name of a policy in any case
(`MeansPolicy`), or digits after an optional plus (`MeansUnsigned`), with any blanks around them. The readers accept
just these texts (`ofName?_trimBlanks_eq_some_iff`, `unsigned?_trimBlanks_eq_some_iff`).

A field is then what its text means, or what it was if there is no text (`Overridden`). The policy comes first, so a
capacity that cannot be read leaves the new policy behind, and a policy that cannot be read leaves everything as it was
(`Settings.override_cases`).
-/

namespace SurveyFlow

/-! ## What a text means -/

/-- The text is these characters with blanks around them. -/
def Pads (text : String) (core : List Char) : Prop :=
  ∃ front back, (∀ c ∈ front, isBlank c = true) ∧ (∀ c ∈ back, isBlank c = true) ∧ text.toList = front ++ core ++ back

/-- The text is the name of the policy, in any case. -/
def MeansPolicy (text : String) (policy : Policy) : Prop :=
  ∃ name, Pads text name ∧ name.map Char.toLower = policy.name.toList

/-- The text is the number in decimal digits, with or without a plus, and the number fits 64 bits. -/
def MeansUnsigned (text : String) (n : Nat) : Prop :=
  ∃ sign digits, Pads text (sign ++ digits) ∧ (sign = [] ∨ sign = ['+']) ∧ digits ≠ [] ∧
    (∀ c ∈ digits, c.isDigit = true) ∧ n = Nat.ofDigitChars 10 digits 0 ∧ n < bitBound 64

/-! ## Trimming -/

/-- What is left of a text after trimming has blanks around it. -/
theorem pads_trimBlanks (text : String) : Pads text (trimBlanks text).toList := by
  refine ⟨text.toList.takeWhile isBlank, ((text.toList.dropWhile isBlank).reverse.takeWhile isBlank).reverse,
    ?_, ?_, ?_⟩
  · exact List.all_eq_true.1 List.all_takeWhile
  · intro c mem
    exact List.all_eq_true.1 List.all_takeWhile c (List.mem_reverse.1 mem)
  · rw [trimBlanks, String.toList_ofList, List.append_assoc, ← List.reverse_append, List.takeWhile_append_dropWhile,
      List.reverse_reverse, List.takeWhile_append_dropWhile]

/-- Around characters that are no blanks, trimming takes off just the blanks. -/
theorem toList_trimBlanks_of_pads {text : String} {core : List Char} (pads : Pads text core)
    (solid : ∀ c ∈ core, isBlank c = false) (nonempty : core ≠ []) : (trimBlanks text).toList = core := by
  obtain ⟨front, back, frontBlank, backBlank, split⟩ := pads
  have begins : ∀ c ∈ (core ++ back).head?, isBlank c = false := by
    rw [List.head?_append_of_ne_nil _ nonempty]
    exact fun c first => solid c (List.mem_of_mem_head? first)
  have ends : ∀ c ∈ core.reverse.head?, isBlank c = false :=
    fun c last => solid c (List.mem_reverse.1 (List.mem_of_mem_head? last))
  have backBlank' : ∀ c ∈ back.reverse, isBlank c = true := fun c mem => backBlank c (List.mem_reverse.1 mem)
  rw [trimBlanks, split, List.append_assoc, List.dropWhile_append_of_pos frontBlank, dropWhile_isBlank begins,
    List.reverse_append, List.dropWhile_append_of_pos backBlank', dropWhile_isBlank ends, List.reverse_reverse,
    String.toList_ofList]

/-! ## Reading a policy -/

/-- A blank has no case. -/
theorem toLower_of_isBlank {c : Char} (blank : isBlank c = true) : c.toLower = c := by
  refine dif_neg fun ⟨low, high⟩ => ?_
  have low : 65 ≤ c.toNat := UInt32.le_iff_toNat_le.1 low
  have high : c.toNat ≤ 90 := UInt32.le_iff_toNat_le.1 high
  simp [isBlank, blankRanges] at blank
  omega

theorem Policy.isBlank_of_mem_name {p : Policy} {c : Char} (mem : c ∈ p.name.toList) : isBlank c = false := by
  have solid : p.name.toList.all (fun c => !isBlank c) = true := by cases p <;> decide +kernel
  simpa using List.all_eq_true.1 solid c mem

/-- A policy is read from its name only. -/
theorem Policy.ofName?_eq_some_iff {name : String} {p : Policy} : Policy.ofName? name = some p ↔ name = p.name := by
  constructor
  · intro found
    unfold Policy.ofName? at found
    split at found
    · next same => cases found; exact same
    · split at found
      · next same => cases found; exact same
      · cases found
  · rintro rfl
    cases p <;> rfl

/-- **The policy that is read is the one that the text means.** -/
theorem ofName?_trimBlanks_eq_some_iff {text : String} {p : Policy} :
    Policy.ofName? ((trimBlanks text).map Char.toLower) = some p ↔ MeansPolicy text p := by
  rw [Policy.ofName?_eq_some_iff, ← String.toList_inj, String.toList_map]
  constructor
  · intro same
    exact ⟨_, pads_trimBlanks text, same⟩
  · rintro ⟨name, pads, same⟩
    -- Lower case makes no blank of anything else, so the name itself has none.
    have solid : ∀ c ∈ name, isBlank c = false := by
      intro c mem
      refine Bool.eq_false_iff.2 fun blank => ?_
      have lower : c.toLower ∈ p.name.toList := same ▸ List.mem_map_of_mem mem
      rw [toLower_of_isBlank blank] at lower
      rw [Policy.isBlank_of_mem_name lower] at blank
      cases blank
    have nonempty : name ≠ [] := by
      rintro rfl
      cases p <;> cases same
    rw [toList_trimBlanks_of_pads pads solid nonempty, same]

/-! ## Reading a capacity -/

theorem isBlank_of_isDigit {c : Char} (digit : c.isDigit = true) : isBlank c = false := by
  refine Bool.eq_false_iff.2 fun blank => ?_
  have bounds : 48 ≤ c.toNat ∧ c.toNat ≤ 57 := Char.isDigit_iff_toNat.1 digit
  simp [isBlank, blankRanges] at blank
  omega

/-- A number that is read is digits after an optional plus. -/
theorem unsigned?_eq_some_iff {text : String} {n : Nat} :
    unsigned? text = some n ↔ ∃ sign digits, text.toList = sign ++ digits ∧ (sign = [] ∨ sign = ['+']) ∧ digits ≠ [] ∧
      (∀ c ∈ digits, c.isDigit = true) ∧ n = Nat.ofDigitChars 10 digits 0 ∧ n < bitBound 64 := by
  unfold unsigned?
  extract_lets unsigned
  constructor
  · intro read
    split at read
    · next ok =>
      obtain ⟨nonempty, all, small⟩ := ok
      have whole : ∃ sign, text.toList = sign ++ unsigned ∧ (sign = [] ∨ sign = ['+']) := by
        unfold unsigned
        split
        · next rest plus => exact ⟨['+'], plus, .inr rfl⟩
        · exact ⟨[], rfl, .inl rfl⟩
      obtain ⟨sign, whole, plus⟩ := whole
      cases read
      exact ⟨sign, unsigned, whole, plus, nonempty, List.all_eq_true.1 all, rfl, small⟩
    · cases read
  · rintro ⟨sign, digits, whole, plus, nonempty, all, rfl, small⟩
    -- The sign is taken off, and digits do not begin with one.
    have same : unsigned = digits := by
      unfold unsigned
      rcases plus with rfl | rfl
      · split
        · next rest sign =>
          have first : '+' ∈ [] ++ digits := whole ▸ sign ▸ List.mem_cons_self
          cases all '+' first
        · exact whole
      · rw [whole]
        rfl
    simp only [same]
    exact if_pos ⟨nonempty, List.all_eq_true.2 all, small⟩

/-- **The number that is read is the one that the text means.** -/
theorem unsigned?_trimBlanks_eq_some_iff {text : String} {n : Nat} :
    unsigned? (trimBlanks text) = some n ↔ MeansUnsigned text n := by
  rw [unsigned?_eq_some_iff]
  constructor
  · rintro ⟨sign, digits, split, rest⟩
    exact ⟨sign, digits, split ▸ pads_trimBlanks text, rest⟩
  · rintro ⟨sign, digits, pads, plus, nonempty, all, rest⟩
    -- A plus and digits are no blanks, so trimming leaves just them.
    have solid : ∀ c ∈ sign ++ digits, isBlank c = false := by
      intro c mem
      rcases List.mem_append.1 mem with first | mem
      · rcases plus with rfl | rfl
        · cases first
        · rw [List.mem_singleton.1 first]
          decide
      · exact isBlank_of_isDigit (all c mem)
    have trimmed := toList_trimBlanks_of_pads pads solid (List.append_ne_nil_of_right_ne_nil sign nonempty)
    exact ⟨sign, digits, trimmed, plus, nonempty, all, rest⟩

/-! ## One meaning

So the value that a text means is one value. -/

/-- A text means one policy at most. -/
theorem MeansPolicy.unique {text : String} {p q : Policy} (hp : MeansPolicy text p) (hq : MeansPolicy text q) : p = q :=
  Option.some.inj ((ofName?_trimBlanks_eq_some_iff.2 hp).symm.trans (ofName?_trimBlanks_eq_some_iff.2 hq))

theorem MeansUnsigned.unique {text : String} {m n : Nat} (hm : MeansUnsigned text m) (hn : MeansUnsigned text n) :
    m = n :=
  Option.some.inj ((unsigned?_trimBlanks_eq_some_iff.2 hm).symm.trans (unsigned?_trimBlanks_eq_some_iff.2 hn))

/-! ## Fields -/

/-- What a field with the value `before` is after an override: what the text means, or the same without a text. -/
inductive Overridden {α : Type} (Means : String → α → Prop) (before : α) : Option String → α → Prop where
  | absent : Overridden Means before none before
  | given {text : String} {after : α} : Means text after → Overridden Means before (some text) after

/-- A text is given, and it means nothing. -/
def Meaningless {α : Type} (Means : String → α → Prop) (given : Option String) : Prop :=
  ∃ text, given = some text ∧ ∀ value, ¬Means text value

section

variable {α : Type} {Means : String → α → Prop} {before after : α} {given : Option String}

/-- The same text may override its own result. -/
theorem Overridden.again (h : Overridden Means before given after) : Overridden Means after given after := by
  cases h with
  | absent => exact .absent
  | given meant => exact .given meant

/-- A text that has overridden a field means something. -/
theorem Overridden.not_meaningless (h : Overridden Means before given after) : ¬Meaningless Means given := by
  rintro ⟨text, rfl, meaningless⟩
  cases h with
  | given meant => exact meaningless after meant

/-- Where a reader settles what texts mean, a field is overridden or the text means nothing. -/
theorem overridden_or_meaningless {read : String → Option α} (reads : ∀ {text a}, read text = some a ↔ Means text a)
    (before : α) (given : Option String) :
    (∃ after, Overridden Means before given after) ∨ Meaningless Means given := by
  cases given with
  | none => exact .inl ⟨before, .absent⟩
  | some text =>
    cases found : read text with
    | some a => exact .inl ⟨a, .given (reads.1 found)⟩
    | none =>
      refine .inr ⟨text, rfl, fun a meant => ?_⟩
      rw [reads.2 meant] at found
      cases found

end

namespace Settings

variable {s : Settings} {given : Option String} {text : String}

/-- A policy that is meant takes the place of the old one. -/
theorem overridePolicy_of_overridden {p : Policy} (h : Overridden MeansPolicy s.onError given p) :
    s.overridePolicy given = .ok { s with onError := p } := by
  cases h with
  | absent => rfl
  | given meant =>
    rw [overridePolicy, Policy.ofText, ofName?_trimBlanks_eq_some_iff.2 meant]
    rfl

/-- A text without a policy is named in the error, in lower case. -/
theorem overridePolicy_of_meaningless (meaningless : ∀ p, ¬MeansPolicy text p) :
    s.overridePolicy (some text) = .error (.unknownPolicy ((trimBlanks text).map Char.toLower)) := by
  have unread : Policy.ofName? ((trimBlanks text).map Char.toLower) = none :=
    Option.eq_none_iff_forall_ne_some.2 fun p read => meaningless p (ofName?_trimBlanks_eq_some_iff.1 read)
  rw [overridePolicy, Policy.ofText, unread]
  rfl

/-- A capacity that is meant takes the place of the old one. -/
theorem overrideCapacity_of_overridden {n : Nat} (h : Overridden MeansUnsigned s.cacheCapacity given n) :
    s.overrideCapacity given = .ok { s with cacheCapacity := n } := by
  cases h with
  | absent => rfl
  | given meant =>
    unfold overrideCapacity
    dsimp only
    rw [unsigned?_trimBlanks_eq_some_iff.2 meant]

/-- A text without a number is named in the error, beside the variable. -/
theorem overrideCapacity_of_meaningless (meaningless : ∀ n, ¬MeansUnsigned text n) :
    s.overrideCapacity (some text) = .error (.badCapacity capacityVariable text) := by
  have unread : unsigned? (trimBlanks text) = none :=
    Option.eq_none_iff_forall_ne_some.2 fun n read => meaningless n (unsigned?_trimBlanks_eq_some_iff.1 read)
  unfold overrideCapacity
  dsimp only
  rw [unread]

/-! ## Both fields -/

/-- If both fields are overridden, overriding ends well. -/
theorem override_of_overridden {lookup : String → Option String} {p : Policy} {n : Nat}
    (policy : Overridden MeansPolicy s.onError (lookup policyVariable) p)
    (capacity : Overridden MeansUnsigned s.cacheCapacity (lookup capacityVariable) n) :
    s.override lookup = (⟨p, n⟩, none) := by
  have next : Settings.overrideCapacity { s with onError := p } (lookup capacityVariable) = .ok ⟨p, n⟩ :=
    overrideCapacity_of_overridden capacity
  rw [override, overridePolicy_of_overridden policy]
  dsimp only
  rw [next]

variable (s) (lookup : String → Option String)

/-- How overriding ends: with both fields overridden, with the capacity unread, or with the policy unread. -/
theorem override_cases :
    (∃ p n, Overridden MeansPolicy s.onError (lookup policyVariable) p ∧
      Overridden MeansUnsigned s.cacheCapacity (lookup capacityVariable) n ∧ s.override lookup = (⟨p, n⟩, none)) ∨
    (∃ p text, Overridden MeansPolicy s.onError (lookup policyVariable) p ∧ lookup capacityVariable = some text ∧
      (∀ n, ¬MeansUnsigned text n) ∧
      s.override lookup = (⟨p, s.cacheCapacity⟩, some (.badCapacity capacityVariable text))) ∨
    ∃ text, lookup policyVariable = some text ∧ (∀ p, ¬MeansPolicy text p) ∧
      s.override lookup = (s, some (.unknownPolicy ((trimBlanks text).map Char.toLower))) := by
  -- The policy first. Only if it can be read is the capacity looked at.
  rcases overridden_or_meaningless ofName?_trimBlanks_eq_some_iff s.onError (lookup policyVariable) with
    ⟨p, policy⟩ | ⟨text, given, meaningless⟩
  · rcases overridden_or_meaningless unsigned?_trimBlanks_eq_some_iff s.cacheCapacity (lookup capacityVariable) with
      ⟨n, capacity⟩ | ⟨text, given, meaningless⟩
    · refine .inl ⟨p, n, policy, capacity, ?_⟩
      exact override_of_overridden policy capacity
    · refine .inr (.inl ⟨p, text, policy, given, meaningless, ?_⟩)
      rw [override, overridePolicy_of_overridden policy, given]
      dsimp only
      rw [overrideCapacity_of_meaningless meaningless]
  · refine .inr (.inr ⟨text, given, meaningless, ?_⟩)
    rw [override, given, overridePolicy_of_meaningless meaningless]

/-- **Overrides are layered field by field.** They fail just when a text means nothing. If they do not, each field is
what its text means or what it was, and overriding again changes nothing. If they do, the capacity is what it was, and
the policy is overridden if its text means one. -/
theorem override_layers_fields :
    ((s.override lookup).2 ≠ none ↔
      Meaningless MeansPolicy (lookup policyVariable) ∨ Meaningless MeansUnsigned (lookup capacityVariable)) ∧
    ((s.override lookup).2 = none →
      Overridden MeansPolicy s.onError (lookup policyVariable) (s.override lookup).1.onError ∧
      Overridden MeansUnsigned s.cacheCapacity (lookup capacityVariable) (s.override lookup).1.cacheCapacity ∧
      (s.override lookup).1.override lookup = ((s.override lookup).1, none)) ∧
    ((s.override lookup).2 ≠ none →
      (s.override lookup).1.cacheCapacity = s.cacheCapacity ∧
      (Meaningless MeansPolicy (lookup policyVariable) → (s.override lookup).1.onError = s.onError) ∧
      (¬Meaningless MeansPolicy (lookup policyVariable) →
        Overridden MeansPolicy s.onError (lookup policyVariable) (s.override lookup).1.onError)) := by
  -- Each of the three ends settles all parts of the statement.
  rcases s.override_cases lookup with
    ⟨p, n, policy, capacity, ends⟩ | ⟨p, text, policy, given, meaningless, ends⟩ | ⟨text, given, meaningless, ends⟩
  · rw [ends]
    refine ⟨⟨absurd rfl, ?_⟩, fun _ => ⟨policy, capacity, ?_⟩, absurd rfl⟩
    · rintro (noPolicy | noCapacity)
      · exact absurd noPolicy policy.not_meaningless
      · exact absurd noCapacity capacity.not_meaningless
    · exact override_of_overridden policy.again capacity.again
  · rw [ends]
    refine ⟨⟨fun _ => .inr ⟨text, given, meaningless⟩, fun _ => nofun⟩, nofun, fun _ => ⟨rfl, ?_, fun _ => policy⟩⟩
    exact fun noPolicy => absurd noPolicy policy.not_meaningless
  · rw [ends]
    have noPolicy : Meaningless MeansPolicy (lookup policyVariable) := ⟨text, given, meaningless⟩
    exact ⟨⟨fun _ => .inl noPolicy, fun _ => nofun⟩, nofun, fun _ => ⟨rfl, fun _ => rfl, absurd noPolicy⟩⟩

/-- Variables with a padded policy in mixed case, and this capacity. -/
def hidingVariables (capacity name : String) : Option String :=
  [(policyVariable, "\u00A0HiDe\n"), (capacityVariable, capacity)].lookup name

/-- A plus and leading zeros are read. The first number that does not fit 64 bits is not: the policy has changed by
then, and the capacity has not. -/
theorem override_layers_fields_hiding :
    ((default.override (hidingVariables " +007")).2 = none ∧
      (default.override (hidingVariables " +007")).1 = ⟨.hide, 7⟩ ∧
      (default.override (hidingVariables " +007")).1.override (hidingVariables " +007") =
        ((default.override (hidingVariables " +007")).1, none)) ∧
    (default.override (hidingVariables "18446744073709551616")).2 ≠ none ∧
      (default.override (hidingVariables "18446744073709551616")).1.cacheCapacity = 1024 ∧
      MeansPolicy "\u00A0HiDe\n" (default.override (hidingVariables "18446744073709551616")).1.onError := by
  have passes : (default.override (hidingVariables " +007")).2 = none := by decide +kernel
  have fields : (default.override (hidingVariables " +007")).1 = ⟨.hide, 7⟩ := by decide +kernel
  have fails : (default.override (hidingVariables "18446744073709551616")).2 ≠ none := by decide +kernel
  obtain ⟨-, success, -⟩ := default.override_layers_fields (hidingVariables " +007")
  obtain ⟨-, -, again⟩ := success passes
  obtain ⟨-, -, failure⟩ := default.override_layers_fields (hidingVariables "18446744073709551616")
  obtain ⟨capacity, -, policy⟩ := failure fails
  have meant : MeansPolicy "\u00A0HiDe\n" .hide :=
    ⟨"HiDe".toList, ⟨['\u00A0'], ['\n'], List.forall_mem_singleton.2 rfl, List.forall_mem_singleton.2 rfl, rfl⟩, rfl⟩
  have overridden := policy fun ⟨text, given, meaningless⟩ => by
    cases given
    exact meaningless .hide meant
  refine ⟨⟨passes, fields, again⟩, fails, capacity, ?_⟩
  cases overridden with
  | given meant => exact meant

end Settings

end SurveyFlow
