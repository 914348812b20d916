import Mathlib.Data.String.Basic
import SurveyFlow.Proofs.Json.Reading

/-!
# JSON values as text

Every value that is read from text is canonical: its objects have their keys in order, its integers fit 64 bits, and
it is nested no deeper than is allowed (`canonical_of_value?`). Written and read again such a value is itself if and
only if each double in it is (`value?_written_eq_self_iff`); there are doubles that are not (`JsonNumber.ComesBack`).

Any other value without such doubles is read back with its keys in order (`value?_written`).
-/

namespace SurveyFlow

/-! ## Keys in order -/

/-- The keys are in order, and so distinct. -/
def SortedKeys (members : Members) : Prop :=
  (members.map Prod.fst).Pairwise (· < ·)

theorem SortedKeys.nodup {members : Members} (h : SortedKeys members) : (members.map Prod.fst).Nodup :=
  List.Pairwise.imp (fun lt => ne_of_lt lt) h

/-- A member with another key is passed over. -/
theorem lookup_cons_of_ne {α : Type} {key other : String} (differs : other ≠ key) (value : α)
    (entries : List (String × α)) : ((key, value) :: entries).lookup other = entries.lookup other := by
  rw [List.lookup_cons, beq_eq_false_iff_ne.2 differs]

namespace Json

/-- A member that is put in is found under its key, and hides an older one. -/
theorem lookup_insertMember (key other : String) (value : Json) (members : Members) :
    (insertMember key value members).lookup other = if other = key then some value else members.lookup other := by
  -- Induction on the members in front of the place of the new one, whose keys all differ from its key.
  induction members with
  | nil =>
    by_cases same : other = key
    · rw [same, if_pos rfl]
      exact List.lookup_cons_self
    · rw [if_neg same]
      exact lookup_cons_of_ne same value []
  | cons m members ih =>
    obtain ⟨k, v⟩ := m
    rw [insertMember]
    by_cases same : other = key
    · subst same
      rw [if_pos rfl]
      split
      · exact List.lookup_cons_self
      split
      · exact List.lookup_cons_self
      · next _ differs => rw [lookup_cons_of_ne differs, ih, if_pos rfl]
    · rw [if_neg same]
      split
      · exact lookup_cons_of_ne same value _
      split
      · next _ equal => rw [lookup_cons_of_ne same, lookup_cons_of_ne (equal ▸ same)]
      · rw [List.lookup_cons, List.lookup_cons, ih, if_neg same]

/-- A member of an object is one that was inserted last or was there before. -/
theorem mem_insertMember {m : String × Json} {key : String} {value : Json} {members : Members}
    (mem : m ∈ insertMember key value members) : m = (key, value) ∨ m ∈ members := by
  induction members with
  | nil => exact .inl (List.mem_singleton.1 mem)
  | cons first members ih =>
    rw [insertMember] at mem
    split at mem
    · exact List.mem_cons.1 mem
    split at mem
    · exact (List.mem_cons.1 mem).imp_right (List.mem_cons_of_mem _)
    · rcases List.mem_cons.1 mem with rfl | later
      · exact .inr List.mem_cons_self
      · exact (ih later).imp_right (List.mem_cons_of_mem _)

/-- The keys of an object with one more member. -/
theorem mem_keys_insertMember {key k : String} {value : Json} {members : Members}
    (mem : k ∈ (insertMember key value members).map Prod.fst) : k = key ∨ k ∈ members.map Prod.fst := by
  obtain ⟨m, inserted, rfl⟩ := List.mem_map.1 mem
  rcases mem_insertMember inserted with rfl | before
  · exact .inl rfl
  · exact .inr (List.mem_map_of_mem before)

/-- A member is put in where its key belongs. Induction on the members in front of that place. -/
theorem sortedKeys_insertMember {members : Members} (h : SortedKeys members) (key : String) (value : Json) :
    SortedKeys (insertMember key value members) := by
  unfold SortedKeys at h ⊢
  induction members with
  | nil => exact List.pairwise_singleton _ _
  | cons m members ih =>
    obtain ⟨first, rest⟩ := List.pairwise_cons.1 h
    rw [insertMember]
    split
    · -- It goes in front of the first member.
      next below =>
      refine List.pairwise_cons.2 ⟨fun k mem => ?_, h⟩
      rcases List.mem_cons.1 mem with rfl | later
      · exact below
      · exact String.lt_trans below (first k later)
    split
    · -- It takes the place of the first member.
      next _ same =>
      refine List.pairwise_cons.2 ⟨fun k mem => ?_, rest⟩
      rw [same]
      exact first k mem
    · -- It goes further back, behind a key that is less.
      next notBelow differs =>
      refine List.pairwise_cons.2 ⟨fun k mem => ?_, ih rest⟩
      rcases mem_keys_insertMember mem with rfl | old
      · exact lt_of_le_of_ne (not_lt.1 notBelow) (Ne.symm differs)
      · exact first k old

/-- A member with a key behind all others goes to the end. -/
theorem insertMember_of_last {members : Members} {key : String} (last : ∀ k ∈ members.map Prod.fst, k < key)
    (value : Json) : insertMember key value members = members ++ [(key, value)] := by
  induction members with
  | nil => rfl
  | cons m members ih =>
    have before : m.1 < key := last m.1 List.mem_cons_self
    rw [insertMember, if_neg (String.lt_asymm before), if_neg fun same => String.lt_irrefl _ (same ▸ before),
      ih fun k mem => last k (List.mem_cons_of_mem _ mem)]
    rfl

theorem sortedKeys_foldl {start : Members} (h : SortedKeys start) (written : Members) :
    SortedKeys (written.foldl (fun members (key, value) => insertMember key value members) start) := by
  induction written generalizing start with
  | nil => exact h
  | cons m written ih => exact ih (sortedKeys_insertMember h m.1 m.2)

/-- **The members of an object are in order,** however they were written. -/
theorem sortedKeys_ofMembers (written : Members) : SortedKeys (ofMembers written) :=
  sortedKeys_foldl (show SortedKeys [] from List.Pairwise.nil) written

/-- Members that are in order stay as they are. -/
theorem ofMembers_of_sortedKeys {members : Members} (h : SortedKeys members) : ofMembers members = members := by
  suffices appended : ∀ start : Members, SortedKeys (start ++ members) →
      members.foldl (fun members (key, value) => insertMember key value members) start = start ++ members from
    appended [] h
  clear h
  induction members with
  | nil => exact fun start _ => (List.append_nil start).symm
  | cons m members ih =>
    intro start sorted
    -- Whatever was put in before has a lesser key, so each member goes to the end.
    have last : ∀ k ∈ start.map Prod.fst, k < m.1 := by
      unfold SortedKeys at sorted
      rw [List.map_append, List.pairwise_append] at sorted
      exact fun k mem => sorted.2.2 k mem m.1 List.mem_cons_self
    rw [List.foldl_cons]
    dsimp only
    rw [insertMember_of_last last, ih _ (by rwa [List.append_assoc]), List.append_assoc]
    rfl

/-- The last of the members with a key is kept. -/
theorem lookup_foldl_insertMember (written start : Members) (distinct : (written.map Prod.fst).Nodup) (key : String) :
    (written.foldl (fun members (key, value) => insertMember key value members) start).lookup key =
      (written.lookup key).or (start.lookup key) := by
  induction written generalizing start with
  | nil => rfl
  | cons m written ih =>
    obtain ⟨k, v⟩ := m
    obtain ⟨other, distinct⟩ := List.nodup_cons.1 distinct
    rw [List.foldl_cons, ih _ distinct, lookup_insertMember]
    by_cases same : key = k
    · subst same
      have none : written.lookup key = none := by
        refine List.lookup_eq_none_iff.2 fun entry mem => bne_iff_ne.2 fun equal => other ?_
        exact List.mem_map.2 ⟨entry, mem, equal.symm⟩
      rw [none, if_pos rfl, List.lookup_cons_self]
      rfl
    · rw [if_neg same, lookup_cons_of_ne same]

/-- With distinct keys every member is found as it was written. -/
theorem lookup_ofMembers {written : Members} (distinct : (written.map Prod.fst).Nodup) (key : String) :
    (ofMembers written).lookup key = written.lookup key :=
  (lookup_foldl_insertMember written [] distinct key).trans (Option.or_none)

end Json

/-! ## Values that a text can have -/

/-- The value is nested so deep at most. -/
inductive Json.Within : Nat → Json → Prop where
  | null {depth : Nat} : Within depth .null
  | bool {depth : Nat} (b : Bool) : Within depth (.bool b)
  | number {depth : Nat} (n : JsonNumber) : Within depth (.number n)
  | string {depth : Nat} (s : String) : Within depth (.string s)
  | array {depth : Nat} {items : List Json} : (∀ item ∈ items, Within depth item) → Within (depth + 1) (.array items)
  | object {depth : Nat} {members : Members} :
    (∀ m ∈ members, Within depth m.2) → Within (depth + 1) (.object members)

/-- The keys of every object are in order, and every integer fits 64 bits. -/
inductive Json.Canonical : Json → Prop where
  | null : Canonical .null
  | bool (b : Bool) : Canonical (.bool b)
  | integer {n : Int} : IsInteger64 n → Canonical (.number (.integer n))
  | double (x : Double) : Canonical (.number (.double x))
  | string (s : String) : Canonical (.string s)
  | array {items : List Json} : (∀ item ∈ items, Canonical item) → Canonical (.array items)
  | object {members : Members} : SortedKeys members → (∀ m ∈ members, Canonical m.2) → Canonical (.object members)

/-- No member comes from nowhere. -/
theorem mem_of_mem_ofMembers {m : String × Json} {written : Members} (mem : m ∈ Json.ofMembers written) :
    m ∈ written := by
  suffices either : ∀ start : Members,
      m ∈ written.foldl (fun members (key, value) => Json.insertMember key value members) start →
        m ∈ start ∨ m ∈ written from
    (either [] mem).resolve_left List.not_mem_nil
  clear mem
  induction written with
  | nil => exact fun start mem => .inl mem
  | cons first written ih =>
    intro start mem
    rcases ih _ mem with inserted | later
    · rcases Json.mem_insertMember inserted with rfl | before
      · exact .inr List.mem_cons_self
      · exact .inl before
    · exact .inr (List.mem_cons_of_mem _ later)

/-- An integer that is read fits 64 bits. -/
theorem canonical_of_numeral {digits : Numeral} {n : JsonNumber} (read : digits.value? = some n) :
    (Json.number n).Canonical := by
  unfold Numeral.value? at read
  dsimp only at read
  -- Digits alone that fit are an integer; anything else is a double.
  by_cases fits : digits.fraction = [] ∧ digits.exponent = none ∧ (takeDigits 0 digits.whole).2 = [] ∧
      (takeDigits 0 digits.whole).1 ≤ (if digits.negative = true then bitBound 63 else bitBound 64 - 1) ∧
      (!(digits.negative && (takeDigits 0 digits.whole).1 == 0)) = true
  · rw [if_pos fits] at read
    obtain ⟨-, -, -, limit, -⟩ := fits
    rw [← Option.some.inj read]
    refine .integer ?_
    have signed : bitBound 63 < bitBound 64 := by decide
    unfold IsInteger64
    split at limit
    · next negative => rw [if_pos negative]; omega
    · next negative => rw [if_neg negative]; omega
  · rw [if_neg fits] at read
    obtain ⟨x, -, rfl⟩ := Option.map_eq_some_iff.1 read
    exact .double _

section

variable {depth : Nat}

/-- An array has a value only below the limit of the depth, and its items have theirs one level deeper. -/
theorem value?_array_eq_some {items : List Written} {j : Json} (read : (Written.array items).value? depth = some j) :
    ∃ inner values, depth = inner + 1 ∧ itemValues? inner items = some values ∧ j = .array values := by
  rw [Written.value?] at read
  split at read
  · cases read
  · next positive =>
    obtain ⟨inner, rfl⟩ := Nat.exists_eq_succ_of_ne_zero positive
    obtain ⟨values, each, rfl⟩ := Option.map_eq_some_iff.1 read
    exact ⟨inner, values, rfl, each, rfl⟩

/-- An object too, and puts its members in order. -/
theorem value?_object_eq_some {members : List (Option String × Written)} {j : Json}
    (read : (Written.object members).value? depth = some j) :
    ∃ inner values, depth = inner + 1 ∧ memberValues? inner members = some values ∧
      j = .object (Json.ofMembers values) := by
  rw [Written.value?] at read
  split at read
  · cases read
  · next positive =>
    obtain ⟨inner, rfl⟩ := Nat.exists_eq_succ_of_ne_zero positive
    obtain ⟨values, each, rfl⟩ := Option.map_eq_some_iff.1 read
    exact ⟨inner, values, rfl, each, rfl⟩

/-- Items have values if the first one has and the others have. -/
theorem itemValues?_cons_eq_some {item : Written} {items : List Written} {values : List Json}
    (read : itemValues? depth (item :: items) = some values) :
    ∃ value rest, item.value? depth = some value ∧ itemValues? depth items = some rest ∧ values = value :: rest := by
  rw [itemValues?] at read
  obtain ⟨value, first, read⟩ := Option.bind_eq_some_iff.1 read
  obtain ⟨rest, others, read⟩ := Option.bind_eq_some_iff.1 read
  exact ⟨value, rest, first, others, (Option.some.inj read).symm⟩

/-- Members need keys besides that are text. -/
theorem memberValues?_cons_eq_some {key : Option String} {member : Written} {members : List (Option String × Written)}
    {values : Members} (read : memberValues? depth ((key, member) :: members) = some values) :
    ∃ name value rest, key = some name ∧ member.value? depth = some value ∧
      memberValues? depth members = some rest ∧ values = (name, value) :: rest := by
  rw [memberValues?] at read
  obtain ⟨name, named, read⟩ := Option.bind_eq_some_iff.1 read
  obtain ⟨value, first, read⟩ := Option.bind_eq_some_iff.1 read
  obtain ⟨rest, others, read⟩ := Option.bind_eq_some_iff.1 read
  exact ⟨name, value, rest, named, first, others, (Option.some.inj read).symm⟩

end

mutual

/-- **What is read is canonical, and nested no deeper than is allowed.** -/
theorem canonical_of_value? (tree : Written) {depth : Nat} {j : Json} (read : tree.value? depth = some j) :
    j.Within depth ∧ j.Canonical := by
  cases tree with
  | null =>
    cases read
    exact ⟨.null, .null⟩
  | bool b =>
    cases read
    exact ⟨.bool b, .bool b⟩
  | number digits =>
    rw [Written.value?] at read
    obtain ⟨n, value, rfl⟩ := Option.map_eq_some_iff.1 read
    exact ⟨.number n, canonical_of_numeral value⟩
  | string text =>
    rw [Written.value?] at read
    obtain ⟨s, -, rfl⟩ := Option.map_eq_some_iff.1 read
    exact ⟨.string s, .string s⟩
  | array items =>
    obtain ⟨inner, values, rfl, each, rfl⟩ := value?_array_eq_some read
    have inside := canonical_of_itemValues? items each
    exact ⟨.array fun item mem => (inside item mem).1, .array fun item mem => (inside item mem).2⟩
  | object members =>
    obtain ⟨inner, values, rfl, each, rfl⟩ := value?_object_eq_some read
    have inside := canonical_of_memberValues? members each
    exact ⟨.object fun m mem => (inside m (mem_of_mem_ofMembers mem)).1,
      .object (Json.sortedKeys_ofMembers values) fun m mem => (inside m (mem_of_mem_ofMembers mem)).2⟩

/-- So is each item of an array. -/
theorem canonical_of_itemValues? (items : List Written) {depth : Nat} {values : List Json}
    (read : itemValues? depth items = some values) : ∀ item ∈ values, item.Within depth ∧ item.Canonical := by
  cases items with
  | nil =>
    cases read
    exact nofun
  | cons item items =>
    obtain ⟨value, rest, first, others, rfl⟩ := itemValues?_cons_eq_some read
    exact List.forall_mem_cons.2 ⟨canonical_of_value? item first, canonical_of_itemValues? items others⟩

/-- And each member of an object, whichever of the members with its key is kept. -/
theorem canonical_of_memberValues? (members : List (Option String × Written)) {depth : Nat} {values : Members}
    (read : memberValues? depth members = some values) : ∀ m ∈ values, m.2.Within depth ∧ m.2.Canonical := by
  cases members with
  | nil =>
    cases read
    exact nofun
  | cons m members =>
    obtain ⟨key, member⟩ := m
    obtain ⟨name, value, rest, -, first, others, rfl⟩ := memberValues?_cons_eq_some read
    exact List.forall_mem_cons.2 ⟨canonical_of_value? member first, canonical_of_memberValues? members others⟩

end

/-! ## The value of the written tree -/

mutual

/-- The value with the keys of its objects in order. -/
def Json.sorted : Json → Json
  | .null => .null
  | .bool b => .bool b
  | .number n => .number n
  | .string s => .string s
  | .array items => .array (sortedItems items)
  | .object members => .object (Json.ofMembers (sortedMembers members))

/-- The items of an array with their keys in order. -/
def sortedItems : List Json → List Json
  | [] => []
  | item :: items => item.sorted :: sortedItems items

/-- The members of an object, each with its own keys in order. -/
def sortedMembers : Members → Members
  | [] => []
  | (key, value) :: members => (key, value.sorted) :: sortedMembers members

end

theorem sortedItems_eq_map (items : List Json) : sortedItems items = items.map Json.sorted := by
  induction items with
  | nil => rfl
  | cons item items ih => rw [sortedItems, ih, List.map_cons]

theorem sortedMembers_eq_map (members : Members) : sortedMembers members = members.map fun m => (m.1, m.2.sorted) := by
  induction members with
  | nil => rfl
  | cons m members ih => rw [sortedMembers, ih, List.map_cons]

/-- **A canonical value is in order already.** -/
theorem Json.Canonical.sorted_eq {j : Json} (canonical : j.Canonical) : j.sorted = j := by
  induction canonical with
  | null | bool _ | integer _ | double _ | string _ => rfl
  | @array items _ ih =>
    have each : items.map sorted = items := (List.map_congr_left ih).trans (List.map_id' items)
    rw [sorted, sortedItems_eq_map, each]
  | @object members order _ ih =>
    have each : (members.map fun m => (m.1, m.2.sorted)) = members := by
      refine (List.map_congr_left (g := id) fun m mem => ?_).trans (List.map_id members)
      exact Prod.ext rfl (ih m mem)
    rw [sorted, sortedMembers_eq_map, each, ofMembers_of_sortedKeys order]

/-- The number stands somewhere in the value. -/
inductive Json.Holds (n : JsonNumber) : Json → Prop where
  | number : Holds n (.number n)
  | item {item : Json} {items : List Json} : item ∈ items → Holds n item → Holds n (.array items)
  | member {m : String × Json} {members : Members} : m ∈ members → Holds n m.2 → Holds n (.object members)

/-- What is written for the number is read as the number. -/
def JsonNumber.ComesBack (n : JsonNumber) : Prop :=
  Json.ofText? n.render = some (.number n)

/-- The text of a value is read to its end, as its tree. -/
theorem written_ofText?_render (j : Json) : Written.ofText? j.render = some j.written := by
  have given : Cut.Gives (written? j.render.toList) j.written [] := by
    have := written?_render j (show EndsNumber [] from nofun)
    rwa [List.append_nil] at this
  obtain ⟨shorter, read⟩ := given
  unfold Written.ofText?
  rw [read]
  rfl

/-- What is read from the text of a value is the value of its tree. -/
theorem ofText?_render (j : Json) : Json.ofText? j.render = j.written.value? jsonDepth := by
  rw [Json.ofText?, written_ofText?_render]
  rfl

/-- The value of a number does not depend on the depth at which it stands. -/
theorem JsonNumber.comesBack_iff (n : JsonNumber) (depth : Nat) :
    n.ComesBack ↔ (Json.number n).written.value? depth = some (.number n) := by
  have same : (Json.number n).written.value? jsonDepth = (Json.number n).written.value? depth := by
    rw [Json.written]
    split
    · rw [Written.value?, Written.value?]
    · rw [Written.value?, Written.value?]
  rw [← same, ← ofText?_render]
  exact Iff.rfl

/-- Whether a number comes back is seen from its numeral. -/
theorem JsonNumber.comesBack_iff_numeral (n : JsonNumber) :
    n.ComesBack ↔ n.isWritable = true ∧ n.numeral.value? = some n := by
  rw [n.comesBack_iff 0, Json.written]
  split
  · next writable =>
    rw [Written.value?]
    constructor
    · intro read
      obtain ⟨m, value, same⟩ := Option.map_eq_some_iff.1 read
      cases same
      exact ⟨writable, value⟩
    · rintro ⟨-, value⟩
      rw [value]
      rfl
  · next unwritable =>
    refine iff_of_false (fun read => ?_) fun both => unwritable both.1
    cases read

instance (n : JsonNumber) : Decidable n.ComesBack :=
  decidable_of_iff _ n.comesBack_iff_numeral.symm

/-- An integer of 64 bits comes back. -/
theorem comesBack_integer {n : Int} (fits : IsInteger64 n) : (JsonNumber.integer n).ComesBack :=
  (JsonNumber.integer n).comesBack_iff_numeral.2 ⟨rfl, value?_numeral_integer fits⟩

/-- A tenth comes back. -/
example : (JsonNumber.double ⟨0x3FB999999999999A⟩).ComesBack := by
  decide +kernel

/-- The double that is written as `9.033805011624533` does not come back. -/
example : ¬(JsonNumber.double ⟨4621275198165269646⟩).ComesBack := by
  decide +kernel

/-- Items that are read in order make an array that is. -/
theorem itemValues?_written {depth : Nat} {items : List Json}
    (each : ∀ item ∈ items, item.written.value? depth = some item.sorted) :
    itemValues? depth (writtenItems items) = some (sortedItems items) := by
  induction items with
  | nil => rfl
  | cons item items ih =>
    obtain ⟨first, others⟩ := List.forall_mem_cons.1 each
    rw [writtenItems, itemValues?, first, ih others]
    rfl

/-- So do members, with the keys that they had. -/
theorem memberValues?_written {depth : Nat} {members : Members}
    (each : ∀ m ∈ members, m.2.written.value? depth = some m.2.sorted) :
    memberValues? depth (writtenMembers members) = some (sortedMembers members) := by
  induction members with
  | nil => rfl
  | cons m members ih =>
    obtain ⟨first, others⟩ := List.forall_mem_cons.1 each
    rw [writtenMembers, memberValues?, first, ih others]
    rfl

/-- **A value whose numbers come back is read with its keys in order.** -/
theorem value?_written {depth : Nat} {j : Json} (within : j.Within depth) (back : ∀ n, j.Holds n → n.ComesBack) :
    j.written.value? depth = some j.sorted := by
  induction within with
  | null | bool _ | string _ => rfl
  | number n => exact (n.comesBack_iff _).1 (back n .number)
  | @array depth items _ ih =>
    have each := itemValues?_written fun item mem => ih item mem fun n holds => back n (.item mem holds)
    rw [Json.written, Written.value?, if_neg (Nat.succ_ne_zero depth), Nat.add_sub_cancel, each]
    rfl
  | @object depth members _ ih =>
    have each := memberValues?_written fun m mem => ih m mem fun n holds => back n (.member mem holds)
    rw [Json.written, Written.value?, if_neg (Nat.succ_ne_zero depth), Nat.add_sub_cancel, each]
    rfl

/-! ## Values that are read back -/

/-- Of items that are read back each is. -/
theorem value?_of_itemValues? {depth : Nat} {items : List Json}
    (read : itemValues? depth (writtenItems items) = some items) :
    ∀ item ∈ items, item.written.value? depth = some item := by
  induction items with
  | nil => exact nofun
  | cons item items ih =>
    obtain ⟨value, rest, first, others, same⟩ := itemValues?_cons_eq_some read
    cases same
    exact List.forall_mem_cons.2 ⟨first, ih others⟩

/-- Of members that are read back each is. -/
theorem value?_of_memberValues? {depth : Nat} {members : Members}
    (read : memberValues? depth (writtenMembers members) = some members) :
    ∀ m ∈ members, m.2.written.value? depth = some m.2 := by
  induction members with
  | nil => exact nofun
  | cons m members ih =>
    obtain ⟨name, value, rest, -, first, others, same⟩ := memberValues?_cons_eq_some read
    cases same
    exact List.forall_mem_cons.2 ⟨first, ih others⟩

/-- The keys are read as they were written. -/
theorem keys_of_memberValues? {depth : Nat} {members values : Members}
    (read : memberValues? depth (writtenMembers members) = some values) :
    values.map Prod.fst = members.map Prod.fst := by
  induction members generalizing values with
  | nil =>
    cases read
    rfl
  | cons m members ih =>
    obtain ⟨name, value, rest, named, -, others, rfl⟩ := memberValues?_cons_eq_some read
    cases named
    rw [List.map_cons, List.map_cons, ih others]

/-- In a canonical value that is read back every number comes back. -/
theorem comesBack_of_value?_written {n : JsonNumber} {j : Json} (holds : j.Holds n) (canonical : j.Canonical)
    {depth : Nat} (read : j.written.value? depth = some j) : n.ComesBack := by
  -- Down to the number, one level of the value at a time.
  induction holds generalizing depth with
  | number => exact (n.comesBack_iff depth).2 read
  | item mem _ ih =>
    cases canonical with | array each =>
    obtain ⟨inner, values, -, inside, same⟩ := value?_array_eq_some read
    cases same
    exact ih (each _ mem) (value?_of_itemValues? inside _ mem)
  | @member _ members mem _ ih =>
    cases canonical with | object order each =>
    obtain ⟨inner, values, -, inside, same⟩ := value?_object_eq_some read
    -- The keys are in order already, so that the members are read in the order in which they are kept.
    have sorted : SortedKeys values := by
      unfold SortedKeys
      rwa [keys_of_memberValues? inside]
    rw [Json.ofMembers_of_sortedKeys sorted] at same
    cases same
    exact ih (each _ mem) (value?_of_memberValues? inside _ mem)

/-- An integer in a canonical value fits 64 bits. -/
theorem Json.Holds.isInteger64 {n : Int} {j : Json} (holds : j.Holds (.integer n)) (canonical : j.Canonical) :
    IsInteger64 n := by
  induction holds with
  | number =>
    cases canonical with | integer fits => exact fits
  | item mem _ ih =>
    cases canonical with | array each => exact ih (each _ mem)
  | member mem _ ih =>
    cases canonical with | object _ each => exact ih (each _ mem)

/-- **A canonical value is read back if and only if each of its doubles is.** -/
theorem value?_written_eq_self_iff {depth : Nat} {j : Json} (within : j.Within depth) (canonical : j.Canonical) :
    j.written.value? depth = some j ↔ ∀ x : Double, j.Holds (.double x) → (JsonNumber.double x).ComesBack := by
  refine ⟨fun read x holds => comesBack_of_value?_written holds canonical read, fun back => ?_⟩
  rw [value?_written within, canonical.sorted_eq]
  intro n holds
  -- Integers of a canonical value come back by themselves.
  cases n with
  | integer n => exact comesBack_integer (holds.isInteger64 canonical)
  | double x => exact back x holds

end SurveyFlow
