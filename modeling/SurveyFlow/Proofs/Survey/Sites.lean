import SurveyFlow.Proofs.Survey.Places
import SurveyFlow.Proofs.Survey.References

/-!
# The sites of a survey

A site is a place where a condition may stand: an item with the items around it, or a prompt of a set with the prompts
of the set around it. The check of a survey goes from site to site and keeps the prompts before each of them in sight
(`checkItems_eq_flatMap_sites`). Every site has an id of its own if the ids of the survey are distinct, and the issues
with this id are then those of its condition (`issues_of_site`).
-/

namespace SurveyFlow

/-! ## Splitting a list at each of its elements -/

/-- The elements of a list with what stands before and behind them, the list itself standing behind `before`. -/
def splitsFrom {α : Type} (before : List α) : List α → List (List α × α × List α)
  | [] => []
  | x :: xs => (before, x, xs) :: splitsFrom (before ++ [x]) xs

/-- A split of the rest of a list, with what stands before it. -/
theorem mem_splitsFrom_iff {α : Type} {before xs b a : List α} {x : α} :
    (b, x, a) ∈ splitsFrom before xs ↔ ∃ between, b = before ++ between ∧ xs = between ++ x :: a := by
  induction xs generalizing before with
  | nil => simp [splitsFrom]
  | cons y ys ih =>
    rw [splitsFrom, List.mem_cons, ih]
    constructor
    · rintro (here | ⟨between, rfl, rfl⟩)
      · cases here
        exact ⟨[], (List.append_nil _).symm, rfl⟩
      · exact ⟨y :: between, List.append_assoc _ _ _, rfl⟩
    · rintro ⟨between, rfl, whole⟩
      cases between with
      | nil =>
        cases whole
        exact .inl (by rw [List.append_nil])
      | cons z between =>
        cases whole
        exact .inr ⟨between, List.append_cons before y between, rfl⟩

/-- A list is split at each of its elements, and in no other way. -/
theorem mem_splits_iff {α : Type} {xs b a : List α} {x : α} : (b, x, a) ∈ splitsFrom [] xs ↔ xs = b ++ x :: a := by
  rw [mem_splitsFrom_iff]
  constructor
  · rintro ⟨between, rfl, whole⟩
    exact whole
  · intro whole
    exact ⟨b, rfl, whole⟩

theorem elements_splitsFrom {α : Type} (before xs : List α) : (splitsFrom before xs).map (·.2.1) = xs := by
  induction xs generalizing before with
  | nil => rfl
  | cons x xs ih => exact List.cons_eq_cons.2 ⟨rfl, ih _⟩

/-! ## Sites -/

/-- A place for a condition. -/
inductive Site where
  /-- That of an item, between the items before and behind it. -/
  | item (before : List Item) (item : Item) (after : List Item)
  /-- That of a prompt in a set, between the items around the set and the prompts around it in the set. -/
  | inside (before : List Item) (set : RepeatableSet) (after : List Item) (first : List Prompt) (prompt : Prompt)
    (rest : List Prompt)

namespace Site

/-- The site is one of the survey's. -/
def In (d : Definition) : Site → Prop
  | item before x after => d.items = before ++ x :: after
  | inside before s after first p rest => d.items = before ++ .set s :: after ∧ s.prompts = first ++ p :: rest

def id : Site → String
  | item _ x _ => x.id
  | inside _ _ _ _ p _ => p.id

def condition : Site → Option String
  | item _ x _ => x.condition
  | inside _ _ _ _ p _ => p.condition

/-- What the check keeps in sight when it comes to the site. -/
def visible : Site → Visible
  | item before _ _ => ⟨before.filterMap Item.asPrompt?, [], none⟩
  | inside before s _ first _ _ => ⟨before.filterMap Item.asPrompt?, first, some s.id⟩

def check (d : Definition) (x : Site) : List Issue :=
  x.visible.check d x.id x.condition

end Site

def sitesInside (before : List Item) (s : RepeatableSet) (after : List Item) : List Site :=
  (splitsFrom [] s.prompts).map fun (first, p, rest) => .inside before s after first p rest

/-- The sites of an item: its own, and those of its prompts if it is a set. -/
def sitesAt (before : List Item) (x : Item) (after : List Item) : List Site :=
  .item before x after :: match x with
    | .prompt _ => []
    | .set s => sitesInside before s after

def Definition.sites (d : Definition) : List Site :=
  (splitsFrom [] d.items).flatMap fun (before, x, after) => sitesAt before x after

/-- The sites that are listed are those of the survey. -/
theorem mem_sites_iff {d : Definition} {x : Site} : x ∈ d.sites ↔ x.In d := by
  constructor
  · intro mem
    obtain ⟨⟨before, y, after⟩, split, mem⟩ := List.mem_flatMap.1 mem
    have split := mem_splits_iff.1 split
    rcases List.mem_cons.1 mem with rfl | mem
    · exact split
    · cases y with
      | prompt p => cases mem
      | set s =>
        obtain ⟨⟨first, p, rest⟩, inner, rfl⟩ := List.mem_map.1 mem
        exact ⟨split, mem_splits_iff.1 inner⟩
  · intro there
    -- Every split of the items is listed, and within a set every split of its prompts.
    cases x with
    | item before y after => exact List.mem_flatMap.2 ⟨(before, y, after), mem_splits_iff.2 there, List.mem_cons_self⟩
    | inside before s after first p rest =>
      obtain ⟨split, inner⟩ := there
      refine List.mem_flatMap.2 ⟨(before, .set s, after), mem_splits_iff.2 split, List.mem_cons_of_mem _ ?_⟩
      exact List.mem_map.2 ⟨(first, p, rest), mem_splits_iff.2 inner, rfl⟩

/-- Every id is that of a site. -/
theorem ids_sites (d : Definition) : d.sites.map Site.id = d.ids := by
  have own : ∀ before x after, (sitesAt before x after).map Site.id = x.ids := by
    intro before x after
    cases x with
    | prompt p => rfl
    | set s =>
      refine List.cons_eq_cons.2 ⟨rfl, ?_⟩
      have prompts := congrArg (List.map Prompt.id) (elements_splitsFrom [] s.prompts)
      rw [List.map_map] at prompts
      dsimp only
      rw [sitesInside, List.map_map]
      exact prompts
  rw [Definition.sites, List.map_flatMap]
  simp only [own]
  rw [Definition.ids, ← List.flatMap_map, elements_splitsFrom]

/-! ## The check goes from site to site -/

/-- The prompts of a set are checked one by one, with those before them in sight. -/
theorem checkInner_eq_flatMap_splits (d : Definition) (outer : List Prompt) (set : String)
    (inner prompts : List Prompt) :
    checkInner d outer set inner prompts =
      (splitsFrom inner prompts).flatMap fun (first, p, _) =>
        Visible.check d ⟨outer, first, some set⟩ p.id p.condition := by
  induction prompts generalizing inner with
  | nil => rfl
  | cons p prompts ih => rw [checkInner, splitsFrom, List.flatMap_cons, ih]

theorem check_sitesInside (d : Definition) (before : List Item) (s : RepeatableSet) (after : List Item) :
    (sitesInside before s after).flatMap (Site.check d) =
      checkInner d (before.filterMap Item.asPrompt?) s.id [] s.prompts := by
  rw [checkInner_eq_flatMap_splits, sitesInside, List.flatMap_map]
  rfl

/-- The issues of items are those of their sites. Induction on the items, those before them being passed. -/
theorem checkItems_eq_flatMap_splits (d : Definition) (before items : List Item) :
    checkItems d (before.filterMap Item.asPrompt?) items =
      (splitsFrom before items).flatMap fun (before, x, after) => (sitesAt before x after).flatMap (Site.check d) := by
  induction items generalizing before with
  | nil => rfl
  | cons x items ih =>
    have others := ih (before ++ [x])
    rw [List.filterMap_append] at others
    cases x with
    | prompt p =>
      rw [checkItems, splitsFrom, List.flatMap_cons, ← others]
      dsimp only [sitesAt]
      rw [List.flatMap_singleton]
      rfl
    | set s =>
      -- The set is no prompt, so nothing more is in sight behind it.
      have outside : [Item.set s].filterMap Item.asPrompt? = [] := rfl
      rw [outside, List.append_nil] at others
      rw [checkItems, splitsFrom, List.flatMap_cons, ← others]
      dsimp only [sitesAt]
      rw [List.flatMap_cons, check_sitesInside]
      rfl

/-- **The check of a survey is that of its sites.** -/
theorem checkItems_eq_flatMap_sites (d : Definition) : checkItems d [] d.items = d.sites.flatMap (Site.check d) := by
  rw [Definition.sites, List.flatMap_assoc]
  exact checkItems_eq_flatMap_splits d [] d.items

/-! ## The issues of one site -/

/-- What is collected under distinct keys, each element adding under its own, is found again by the key. -/
theorem filter_flatMap_of_nodup {α β : Type} {key : α → String} {tag : β → String} {f : α → List β}
    (own : ∀ x, ∀ y ∈ f x, tag y = key x) {xs : List α} (distinct : (xs.map key).Nodup) {x : α} (mem : x ∈ xs) :
    (xs.flatMap f).filter (fun y => tag y == key x) = f x := by
  have foreign : ∀ z, key z ≠ key x → (f z).filter (fun y => tag y == key x) = [] := by
    intro z differ
    rw [List.filter_eq_nil_iff]
    intro y inside
    rw [own z y inside, beq_iff_eq]
    exact differ
  induction xs with
  | nil => cases mem
  | cons z xs ih =>
    obtain ⟨new, distinct⟩ := List.nodup_cons.1 distinct
    rw [List.flatMap_cons, List.filter_append]
    -- Only the element itself adds anything under its key.
    rcases List.mem_cons.1 mem with rfl | mem
    · have here : (f x).filter (fun y => tag y == key x) = f x :=
        List.filter_eq_self.2 fun y inside => beq_iff_eq.2 (own x y inside)
      have later : (xs.flatMap f).filter (fun y => tag y == key x) = [] := by
        rw [List.filter_flatMap, List.flatMap_eq_nil_iff]
        exact fun z inside => foreign z fun same => new (List.mem_map.2 ⟨z, inside, same⟩)
      rw [here, later, List.append_nil]
    · have differ : key z ≠ key x := fun same => new (List.mem_map.2 ⟨x, mem, same.symm⟩)
      rw [foreign z differ, ih distinct mem]
      rfl

/-- **The issues with the id of a site are those of its condition,** if the ids are distinct. -/
theorem issues_of_site {d : Definition} (distinct : d.ids.Nodup) {x : Site} (there : x.In d) :
    (validate d).filter (fun issue => issue.item == x.id) = x.check d := by
  rw [validate_of_nodup distinct, checkItems_eq_flatMap_sites]
  have own : ∀ y : Site, ∀ issue ∈ y.check d, issue.item = y.id :=
    fun y => about_check d y.visible y.id y.condition
  rw [← ids_sites] at distinct
  exact filter_flatMap_of_nodup own distinct (mem_sites_iff.2 there)

/-- A survey has no issues exactly if its ids are distinct and no condition has any. -/
theorem validate_eq_nil_iff_check {d : Definition} :
    validate d = [] ↔ d.ids.Nodup ∧ ∀ x : Site, x.In d → x.check d = [] := by
  constructor
  · intro valid
    have distinct : d.ids.Nodup := nodup_ids_of_validate (by simp [valid])
    refine ⟨distinct, fun x there => ?_⟩
    rw [← issues_of_site distinct there, valid]
    rfl
  · rintro ⟨distinct, silent⟩
    rw [validate_of_nodup distinct, checkItems_eq_flatMap_sites, List.flatMap_eq_nil_iff]
    exact fun x mem => silent x (mem_sites_iff.1 mem)

/-! ## What stands around a site -/

namespace Site

/-- The prompt stands before the site, at the top level or in the set of the site. -/
def Sees : Site → Prompt → Prop
  | item before _ _, q => .prompt q ∈ before
  | inside before _ _ first _ _, q => .prompt q ∈ before ∨ q ∈ first

/-- The prompt stands at the site or behind it, at the top level or in the set of the site. -/
def Precedes : Site → Prompt → Prop
  | item _ x after, q => .prompt q ∈ x :: after
  | inside _ _ after _ p rest, q => .prompt q ∈ after ∨ q ∈ p :: rest

/-- The site is that of a prompt in the set. -/
def Within : Site → RepeatableSet → Prop
  | item _ _ _, _ => False
  | inside _ t _ _ _ _, s => t = s

/-- The prompt stands at the top level or in the set of the site, on whichever side. -/
def Near (d : Definition) (x : Site) (p : Prompt) : Prop :=
  .prompt p ∈ d.items ∨ ∃ s, .set s ∈ d.items ∧ x.Within s ∧ p ∈ s.prompts

end Site

/-- The prompts at the top level are the items that are prompts. -/
theorem mem_filterMap_asPrompt? {items : List Item} {p : Prompt} :
    p ∈ items.filterMap Item.asPrompt? ↔ .prompt p ∈ items := by
  rw [List.mem_filterMap]
  constructor
  · rintro ⟨item, mem, same⟩
    cases item with
    | prompt q =>
      cases same
      exact mem
    | set _ => cases same
  · exact fun mem => ⟨_, mem, rfl⟩

theorem id_mem_of_prompt {items : List Item} {p : Prompt} (mem : .prompt p ∈ items) : p.id ∈ items.flatMap Item.ids :=
  List.mem_flatMap.2 ⟨_, mem, List.mem_singleton_self p.id⟩

section Around

variable {d : Definition} {x : Site}

/-- The ids before an inner site and behind it, without those of other items. -/
theorem ids_of_inside {before after : List Item} {s : RepeatableSet} {first rest : List Prompt} {p : Prompt}
    (there : (Site.inside before s after first p rest).In d) :
    d.ids = before.flatMap Item.ids ++ (s.id :: (first.map Prompt.id ++ (p :: rest).map Prompt.id) ++
      after.flatMap Item.ids) := by
  obtain ⟨split, inner⟩ := there
  rw [ids_of_split split, Item.ids, inner, List.map_append]

/-- No prompt before a site has the id of one at the site or behind it. -/
theorem id_ne_of_precedes (distinct : d.ids.Nodup) (there : x.In d) {p q : Prompt} (sees : x.Sees p)
    (later : x.Precedes q) : p.id ≠ q.id := by
  cases x with
  | item before y after =>
    have split : d.items = before ++ y :: after := there
    rw [Definition.ids, split, List.flatMap_append] at distinct
    exact (List.nodup_append.1 distinct).2.2 _ (id_mem_of_prompt sees) _ (id_mem_of_prompt later)
  | inside before s after first r rest =>
    rw [ids_of_inside there] at distinct
    obtain ⟨_, distinct, apart⟩ := List.nodup_append.1 distinct
    obtain ⟨inSet, _, apartSet⟩ := List.nodup_append.1 distinct
    have apartInner := (List.nodup_append.1 (List.nodup_cons.1 inSet).2).2.2
    -- The two prompts stand in different pieces of the list of all ids.
    rcases sees with sees | sees
    · rcases later with later | later
      · exact apart _ (id_mem_of_prompt sees) _ (List.mem_append_right _ (id_mem_of_prompt later))
      · refine apart _ (id_mem_of_prompt sees) _ (List.mem_append_left _ (List.mem_cons_of_mem _ ?_))
        exact List.mem_append_right _ (List.mem_map_of_mem later)
    · have own := List.mem_map_of_mem (f := Prompt.id) sees
      rcases later with later | later
      · exact apartSet _ (List.mem_cons_of_mem _ (List.mem_append_left _ own)) _ (id_mem_of_prompt later)
      · exact apartInner _ own _ (List.mem_map_of_mem later)

/-- What stands before a site is what the check has in sight there. -/
theorem sees_iff {p : Prompt} : x.Sees p ↔ p ∈ x.visible.inner ++ x.visible.outer := by
  rw [List.mem_append]
  cases x with
  | item before y after =>
    show .prompt p ∈ before ↔ p ∈ [] ∨ p ∈ before.filterMap Item.asPrompt?
    rw [mem_filterMap_asPrompt?]
    exact (or_iff_right List.not_mem_nil).symm
  | inside before s after first r rest =>
    show .prompt p ∈ before ∨ p ∈ first ↔ p ∈ first ∨ p ∈ before.filterMap Item.asPrompt?
    rw [mem_filterMap_asPrompt?, or_comm]

/-- What is in sight has distinct ids. -/
theorem nodup_visible (distinct : d.ids.Nodup) (there : x.In d) :
    ((x.visible.inner ++ x.visible.outer).map Prompt.id).Nodup := by
  rw [List.map_append, List.nodup_append_comm]
  cases x with
  | item before y after =>
    have split : d.items = before ++ y :: after := there
    rw [Definition.ids, split, List.flatMap_append] at distinct
    exact distinct.sublist ((sublist_ids_of_prompts before).append (List.nil_sublist _))
  | inside before s after first p rest =>
    rw [ids_of_inside there] at distinct
    refine distinct.sublist ((sublist_ids_of_prompts before).append ?_)
    have own : (first.map Prompt.id).Sublist (first.map Prompt.id ++ (p :: rest).map Prompt.id) :=
      List.sublist_append_left _ _
    exact (own.cons s.id).trans (List.sublist_append_left _ _)

/-- A name stands for the prompt before the site that has it. -/
theorem find?_eq_some_iff_sees (distinct : d.ids.Nodup) (there : x.In d) {i : String} {p : Prompt} :
    x.visible.find? i = some p ↔ x.Sees p ∧ p.id = i := by
  have search : x.visible.find? i = (x.visible.inner ++ x.visible.outer).find? fun p => p.id == i := by
    rw [List.find?_append]
    unfold Visible.find?
    cases x.visible.inner.find? fun p => p.id == i <;> rfl
  rw [search, sees_iff]
  constructor
  · intro found
    exact ⟨List.mem_of_find?_eq_some found, beq_iff_eq.1 (List.find?_some (p := fun q : Prompt => q.id == i) found)⟩
  · rintro ⟨mem, rfl⟩
    exact find?_eq_some_of_nodup (nodup_visible distinct there) mem fun _ => beq_iff_eq

/-- A name stands for nothing if no prompt before the site has it. -/
theorem find?_eq_none_iff_sees (distinct : d.ids.Nodup) (there : x.In d) {i : String} :
    x.visible.find? i = none ↔ ∀ p, x.Sees p → p.id ≠ i := by
  rw [Option.eq_none_iff_forall_ne_some]
  constructor
  · intro absent p sees named
    exact absent p ((find?_eq_some_iff_sees distinct there).2 ⟨sees, named⟩)
  · intro unseen p found
    obtain ⟨sees, named⟩ := (find?_eq_some_iff_sees distinct there).1 found
    exact unseen p sees named

/-- A prompt at the top level, or in the set of a site, stands before the site or not before it. -/
theorem near_iff (there : x.In d) {p : Prompt} : x.Near d p ↔ x.Sees p ∨ x.Precedes p := by
  cases x with
  | item before y after =>
    have split : d.items = before ++ y :: after := there
    rw [Site.Near, split, List.mem_append]
    exact or_iff_left fun ⟨_, _, inside, _⟩ => inside
  | inside before s after first q rest =>
    obtain ⟨split, inner⟩ := there
    have set : .set s ∈ d.items := by
      rw [split]
      exact List.mem_append_right _ List.mem_cons_self
    have top : .prompt p ∈ d.items ↔ .prompt p ∈ before ∨ .prompt p ∈ after := by simp [split]
    have own : p ∈ s.prompts ↔ p ∈ first ∨ p ∈ q :: rest := by rw [inner, List.mem_append]
    constructor
    · rintro (mem | ⟨_, _, rfl, mem⟩)
      · exact (top.1 mem).imp .inl .inl
      · exact (own.1 mem).imp .inr .inr
    · rintro ((mem | mem) | (mem | mem))
      · exact .inl (top.2 (.inl mem))
      · exact .inr ⟨s, set, rfl, own.2 (.inl mem)⟩
      · exact .inl (top.2 (.inr mem))
      · exact .inr ⟨s, set, rfl, own.2 (.inr mem)⟩

end Around

end SurveyFlow
