import SurveyFlow.Proofs.Condition.Comparisons

/-!
# What an evaluation asks for

Which identifier an evaluation asks for next depends on the answers that it has had, and on nothing else
(`Evaluation.BeginsLike`). So two contexts are asked for the same identifiers up to and with the first one that they
answer differently, and where there is none the evaluations are the same (`evaluate_depends_on_lookups`).
-/

namespace SurveyFlow

/-- The second evaluation asks for the identifiers of the first one, as long as those before them have the property. -/
def Evaluation.BeginsLike (P : String → Prop) (v' v : Evaluation) : Prop :=
  ∀ asked next, asked ++ [next] <+: v.lookups → (∀ i ∈ asked, P i) → asked ++ [next] <+: v'.lookups

/-- A chain begins with the lookups of its first clause. -/
theorem lookups_prefix_followedBy (first : Evaluation) (c : Conjunction) (rest : Evaluation) :
    first.lookups <+: (first.followedBy c rest).lookups := by
  cases ends : first.ends c with
  | true => exact ⟨[], by rw [List.append_nil, Evaluation.followedBy_of_ends ends]⟩
  | false =>
    rw [Evaluation.followedBy_of_open ends]
    exact List.prefix_append first.lookups rest.lookups

/-- A chain asks alike as its first clause does, and as its rest does behind the whole of that clause. -/
theorem beginsLike_followedBy {P : String → Prop} {c : Conjunction} {first first' rest rest' : Evaluation}
    (h : first'.BeginsLike P first) (same : (∀ i ∈ first.lookups, P i) → first = first')
    (hRest : rest'.BeginsLike P rest) : (first'.followedBy c rest').BeginsLike P (first.followedBy c rest) := by
  intro asked next begins agree
  have inFirst : asked ++ [next] <+: first.lookups → asked ++ [next] <+: (first'.followedBy c rest').lookups :=
    fun begins => (h asked next begins agree).trans (lookups_prefix_followedBy first' c rest')
  cases ends : first.ends c with
  | true =>
    rw [Evaluation.followedBy_of_ends ends] at begins
    exact inFirst begins
  | false =>
    rw [Evaluation.followedBy_of_open ends] at begins
    rcases List.prefix_or_prefix_of_prefix begins (List.prefix_append first.lookups rest.lookups) with short | long
    · exact inFirst short
    rcases List.prefix_concat_iff.1 long with whole | earlier
    · exact inFirst (whole ▸ List.prefix_rfl)
    · -- The first clause has been asked for before, so it has the same value in both chains.
      obtain ⟨behind, rfl⟩ := earlier
      obtain ⟨agreeFirst, agreeBehind⟩ := List.forall_mem_append.1 agree
      rw [← same agreeFirst, Evaluation.followedBy_of_open ends]
      rw [List.append_assoc] at begins ⊢
      have others := (List.prefix_append_right_inj first.lookups).1 begins
      exact (List.prefix_append_right_inj first.lookups).2 (hRest behind next others agreeBehind)

/-- **The answers decide what is asked next.** Induction on the sentence. -/
theorem evaluate_beginsLike (ctx ctx' : Context) (s : Sentence) :
    (s.evaluate ctx').BeginsLike (fun i => ctx i = ctx' i) (s.evaluate ctx) := by
  have comparison : ∀ x : Expression, (x.evaluate ctx').BeginsLike (fun i => ctx i = ctx' i) (x.evaluate ctx) :=
    fun x asked next begins _ => begins
  have same : ∀ s : Sentence, (∀ i ∈ (s.value ctx).lookups, ctx i = ctx' i) → s.value ctx = s.value ctx' := by
    intro s agree
    rw [← s.evaluate_eq_value ctx] at agree ⊢
    rw [← s.evaluate_eq_value ctx']
    exact evaluate_eq_of_lookups agree
  rw [Sentence.evaluate_eq_value, Sentence.evaluate_eq_value]
  induction s with
  | simple x => exact comparison x
  | grouped s ih => exact ih
  | simpleThen x c rest ih => exact beginsLike_followedBy (comparison x) (same (.simple x)) ih
  | groupedThen s c rest ihInner ih => exact beginsLike_followedBy ihInner (same s) ih

/-- **Only what is asked for counts, as soon as it is asked for.** A context that answers what an evaluation asks for
gives that evaluation, whatever else it answers; and if it answers what has been asked for so far, it is asked for the
same identifier next. -/
theorem evaluate_depends_on_lookups (ctx ctx' : Context) (s : Sentence) :
    ((∀ i ∈ (s.evaluate ctx).lookups, ctx' i = ctx i) → s.evaluate ctx' = s.evaluate ctx) ∧
      ∀ asked next, asked ++ [next] <+: (s.evaluate ctx).lookups → (∀ i ∈ asked, ctx' i = ctx i) →
        asked ++ [next] <+: (s.evaluate ctx').lookups := by
  refine ⟨fun agree => ?_, fun asked next begins agree => ?_⟩
  · exact (evaluate_eq_of_lookups fun i mem => (agree i mem).symm).symm
  · exact evaluate_beginsLike ctx ctx' s asked next begins fun i mem => (agree i mem).symm

/-- Those who stay at home are not asked for their way, so it does not matter that it cannot be looked up. Those who do
not are asked for it next, whether it can be looked up or not. -/
theorem evaluate_depends_on_home :
    let home : Expression := ⟨"home", .eq, "true"⟩
    let way : Expression := ⟨"way", .eq, "bus"⟩
    let answers (atHome : Bool) (way : Except String Resolution) : Context := fun i =>
      if i = "home" then .ok (.known (.given (.boolean atHome))) else if i = "way" then way else .ok .unknown
    let bus : Except String Resolution := .ok (.known (.given (.choice "bus")))
    let s : Sentence := .groupedThen (.simple home) .or (.grouped (.simpleThen way .and (.simple home)))
    let stays := answers true bus
    let staysOffline := answers true (.error "offline")
    let leaves := answers false bus
    let leavesOffline := answers false (.error "offline")
    ((∀ i ∈ (s.evaluate stays).lookups, staysOffline i = stays i) ∧ s.evaluate staysOffline = s.evaluate stays ∧
      s.evaluate stays = ⟨.ok true, ["home"]⟩) ∧
    (∀ i ∈ ["home"], leavesOffline i = leaves i) ∧ ["home", "way"] <+: (s.evaluate leavesOffline).lookups ∧
      s.evaluate leaves = ⟨.ok false, ["home", "way", "home"]⟩ ∧
      s.evaluate leavesOffline = ⟨.error (.contextFailure "offline"), ["home", "way"]⟩ := by
  intro home way answers bus s stays staysOffline leaves leavesOffline
  have agree : ∀ i ∈ (s.evaluate stays).lookups, staysOffline i = stays i := List.forall_mem_singleton.2 rfl
  have agreeSoFar : ∀ i ∈ ["home"], leavesOffline i = leaves i := List.forall_mem_singleton.2 rfl
  obtain ⟨same, -⟩ := evaluate_depends_on_lookups stays staysOffline s
  obtain ⟨-, next⟩ := evaluate_depends_on_lookups leaves leavesOffline s
  exact ⟨⟨agree, same agree, rfl⟩, agreeSoFar, next ["home"] "way" ⟨["home"], rfl⟩ agreeSoFar, rfl, rfl⟩

end SurveyFlow
