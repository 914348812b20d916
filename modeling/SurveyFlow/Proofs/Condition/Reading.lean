import SurveyFlow.Proofs.Condition.Chain

/-!
# What a reading has read

The reader takes one token at a time (`Reading.step`). `Reading.Takes` lists the seven ways in which it takes
a token, and every fact about its runs is proved over these:

* **`reads_run`** — a reading says which tokens it has taken (`Reading.Reads`), none lost and none twice;
* **`fits_run`** — what it holds keeps to the limits of depth and length (`Reading.Fits`);
* **`run_of_yields`** — the tokens of a sentence within the limits are taken to their end.
-/

namespace SurveyFlow

namespace Reading

/-! ## One token -/

/-- The ways in which a reading takes a token. -/
inductive Takes : Reading → Token → Reading → Prop where
  | opens {chain : OpenChain} {around : List OpenChain} {t : Token} :
    t.kind = .openParen → around.length + 1 < maxDepth →
    Takes ⟨.clause, chain, around⟩ t ⟨.clause, [], chain :: around⟩
  /-- A group may be opened too deep; nothing can be read in it. -/
  | opensTooDeep {chain : OpenChain} {around : List OpenChain} {t : Token} :
    t.kind = .openParen → ¬around.length + 1 < maxDepth →
    Takes ⟨.clause, chain, around⟩ t ⟨.nothing, [], chain :: around⟩
  | names {chain : OpenChain} {around : List OpenChain} {t : Token} :
    t.kind = .word → Takes ⟨.clause, chain, around⟩ t ⟨.comparator t.text, chain, around⟩
  | compares {identifier : String} {c : Comparator} {chain : OpenChain} {around : List OpenChain}
      {t : Token} :
    t.kind = .comparator c →
    Takes ⟨.comparator identifier, chain, around⟩ t ⟨.literal identifier c, chain, around⟩
  | completes {identifier : String} {c : Comparator} {chain : OpenChain} {around : List OpenChain}
      {t : Token} :
    t.kind = .word ∨ t.kind = .quoted →
    Takes ⟨.literal identifier c, chain, around⟩ t
      ⟨.link (.comparison ⟨identifier, c, t.text⟩), chain, around⟩
  | joins {last : Clause} {c : Conjunction} {chain : OpenChain} {around : List OpenChain} {t : Token} :
    t.kind = .conjunction c → chain.length < maxChain →
    Takes ⟨.link last, chain, around⟩ t ⟨.clause, (last, c) :: chain, around⟩
  | closes {last : Clause} {chain outer : OpenChain} {around : List OpenChain} {t : Token} :
    t.kind = .closeParen →
    Takes ⟨.link last, chain, outer :: around⟩ t ⟨.link (.group (chain.close last)), outer, around⟩

/-- A token that can be taken is taken by the step. -/
theorem step_of_takes {r r' : Reading} {t : Token} (h : r.Takes t r') : r.step t = .ok r' := by
  cases h with
  | opens kind room => simp only [step, kind, if_pos room]
  | opensTooDeep kind full => simp only [step, kind, if_neg full]
  | names kind => simp only [step, kind]
  | compares kind => simp only [step, kind]
  | completes kind => rcases kind with kind | kind <;> simp only [step, kind]
  | joins kind short => simp only [step, stepLink, kind, if_pos short]
  | closes kind => simp only [step, stepLink, kind]

/-- A step that succeeds is one of the ways. -/
theorem takes_of_step {r r' : Reading} {t : Token} (h : r.step t = .ok r') : r.Takes t r' := by
  -- What is due decides which kinds of token are taken, so the cases are those of `Next`.
  obtain ⟨next, chain, around⟩ := r
  cases next with
  | clause =>
    simp only [step] at h
    split at h
    · next kind =>
      by_cases room : around.length + 1 < maxDepth
      · rw [if_pos room] at h
        cases h
        exact .opens kind room
      · rw [if_neg room] at h
        cases h
        exact .opensTooDeep kind room
    · next kind =>
      cases h
      exact .names kind
    · cases h
  | comparator identifier =>
    simp only [step] at h
    split at h
    · next c kind =>
      cases h
      exact .compares kind
    · cases h
  | literal identifier c =>
    simp only [step] at h
    split at h
    · next kind =>
      cases h
      exact .completes (.inl kind)
    · next kind =>
      cases h
      exact .completes (.inr kind)
    · cases h
  | link last =>
    simp only [step, stepLink] at h
    split at h
    · next c kind =>
      split at h
      · next short =>
        cases h
        exact .joins kind short
      · cases h
    · next outer around' kind =>
      cases h
      exact .closes kind
    · cases h
    · cases h
  | nothing => cases h

/-! ## Runs -/

/-- The reading after some tokens. -/
def run (r : Reading) (ts : List Token) : Except SyntaxError Reading :=
  ts.foldlM step r

@[simp] theorem run_nil (r : Reading) : r.run [] = .ok r := rfl

/-- A run goes on behind a token that is taken. -/
theorem run_cons_of_takes {r r' : Reading} {t : Token} (h : r.Takes t r') (ts : List Token) :
    r.run (t :: ts) = r'.run ts := by
  rw [run, List.foldlM_cons, step_of_takes h]
  rfl

theorem run_append_of_run {r r' : Reading} {ts : List Token} (h : r.run ts = .ok r') (us : List Token) :
    r.run (ts ++ us) = r'.run us := by
  rw [run, List.foldlM_append, ← run, h]
  rfl

/-- A run that succeeds takes its first token. -/
theorem takes_of_run_cons {r q : Reading} {t : Token} {ts : List Token} (h : r.run (t :: ts) = .ok q) :
    ∃ r', r.Takes t r' ∧ r'.run ts = .ok q := by
  rw [run, List.foldlM_cons] at h
  cases found : r.step t with
  | error e =>
    rw [found] at h
    cases h
  | ok r' =>
    rw [found] at h
    exact ⟨r', takes_of_step found, h⟩

/-! ## What has been read -/

/-- The tokens of the chains around the open groups, each chain with the parenthesis that opens its group. -/
inductive AroundYields : List OpenChain → List Token → Prop where
  | nil : AroundYields [] []
  | group {chain : OpenChain} {around : List OpenChain} {opening : Token} {ts us : List Token} :
    AroundYields around ts → chain.Yields us → opening.kind = .openParen →
    AroundYields (chain :: around) (ts ++ (us ++ [opening]))

/-- The tokens of the clause that is being read, as far as it goes. -/
inductive NextYields : Next → List Token → Prop where
  | clause : NextYields .clause []
  | nothing : NextYields .nothing []
  | comparator {name : Token} : name.kind = .word → NextYields (.comparator name.text) [name]
  | literal {name comparator : Token} {c : Comparator} :
    name.kind = .word → comparator.kind = .comparator c →
    NextYields (.literal name.text c) [name, comparator]
  | link {last : Clause} {ts : List Token} : last.Yields ts → NextYields (.link last) ts

/-- The reading has taken exactly these tokens. -/
def Reads (r : Reading) (ts : List Token) : Prop :=
  ∃ outside inside current, ts = outside ++ (inside ++ current) ∧
    AroundYields r.around outside ∧ r.chain.Yields inside ∧ NextYields r.next current

theorem reads_start : start.Reads [] :=
  ⟨[], [], [], rfl, .nil, .nil, .clause⟩

/-- The token that is taken is read behind the others. -/
theorem reads_of_takes {r r' : Reading} {t : Token} (h : r.Takes t r') {ts : List Token}
    (before : r.Reads ts) : r'.Reads (ts ++ [t]) := by
  obtain ⟨outside, inside, current, rfl, around, chain, now⟩ := before
  cases h with
  | opens kind _ =>
    cases now
    exact ⟨_, [], [], by simp, .group around chain kind, .nil, .clause⟩
  | opensTooDeep kind _ =>
    -- The parenthesis counts as read; it is what comes next that will be refused.
    cases now
    exact ⟨_, [], [], by simp, .group around chain kind, .nil, .nothing⟩
  | names kind =>
    cases now
    exact ⟨_, _, _, by simp, around, chain, .comparator kind⟩
  | compares kind =>
    cases now with
    | comparator named => exact ⟨_, _, _, by simp, around, chain, .literal named kind⟩
  | completes kind =>
    cases now with
    | literal named compared =>
      exact ⟨_, _, _, by simp, around, chain, .link (.comparison (.intro named rfl compared kind rfl))⟩
  | joins kind _ =>
    cases now with
    | link written => exact ⟨_, _, [], by simp, around, .link chain written kind, .clause⟩
  | closes kind =>
    -- The chain that closes becomes the group that the chain around it goes on with.
    cases now with
    | link written =>
      cases around with
      | @group _ _ opening us vs around outer opened =>
        have inner := OpenChain.yields_closeWith chain (Clause.yields_alone written)
        rw [← OpenChain.close_eq] at inner
        exact ⟨us, vs, _, by simp, around, outer, .link (.group opened inner kind)⟩

/-- **Nothing is lost.** A run adds its tokens, in order, to what has been read. -/
theorem reads_run {r q : Reading} {ts us : List Token} (before : r.Reads ts) (h : r.run us = .ok q) :
    q.Reads (ts ++ us) := by
  induction us generalizing r ts with
  | nil =>
    cases h
    simpa using before
  | cons t us ih =>
    obtain ⟨r', taken, after⟩ := takes_of_run_cons h
    have := ih (reads_of_takes taken before) after
    rwa [List.append_assoc, List.singleton_append] at this

/-! ## The limits -/

/-- A clause under `level` groups keeps to both limits. -/
def ClauseFits (level : Nat) (clause : Clause) : Prop :=
  level + clause.depth < maxDepth ∧ clause.ChainsWithin maxChain

/-- An open chain under `level` groups keeps to both limits, and so do its clauses. -/
def ChainFits (level : Nat) (chain : OpenChain) : Prop :=
  chain.length ≤ maxChain ∧ ∀ link ∈ chain, ClauseFits level link.1

/-- The chains around the open groups keep to both limits. -/
def AroundFits : List OpenChain → Prop
  | [] => True
  | chain :: around => ChainFits around.length chain ∧ AroundFits around

/-- The clause that is being read keeps to both limits. -/
def NextFits (level : Nat) : Next → Prop
  | .clause | .comparator _ | .literal _ _ => level < maxDepth
  | .link last => ClauseFits level last
  | .nothing => True

/-- What the reading holds keeps to the limits of depth and length. -/
def Fits (r : Reading) : Prop :=
  AroundFits r.around ∧ ChainFits r.around.length r.chain ∧ NextFits r.around.length r.next

theorem chainFits_nil (level : Nat) : ChainFits level [] :=
  ⟨Nat.zero_le _, fun _ mem => absurd mem List.not_mem_nil⟩

theorem fits_start : start.Fits :=
  ⟨trivial, chainFits_nil 0, show 0 < maxDepth by decide⟩

/-- A clause that fits may be put behind a chain that fits, as long as the chain is not full. -/
theorem chainFits_cons {level : Nat} {chain : OpenChain} {last : Clause} {c : Conjunction}
    (fits : ChainFits level chain) (clause : ClauseFits level last) (short : chain.length < maxChain) :
    ChainFits level ((last, c) :: chain) := by
  refine ⟨short, ?_⟩
  intro link mem
  rcases List.mem_cons.1 mem with rfl | inChain
  · exact clause
  · exact fits.2 link inChain

/-- A chain that fits makes a sentence within the limits when it is closed. -/
theorem fits_close {level : Nat} {chain : OpenChain} {last : Clause} (fits : ChainFits level chain)
    (clause : ClauseFits level last) :
    level + (chain.close last).depth < maxDepth ∧ (chain.close last).links ≤ maxChain ∧
      (chain.close last).ChainsWithin maxChain := by
  obtain ⟨short, inChain⟩ := fits
  -- The bound is moved to one side, where a closed chain is below it if each of its clauses is.
  have deep : (chain.close last).depth < maxDepth - level := by
    rw [OpenChain.close_eq, OpenChain.depth_closeWith_lt, Clause.depth_alone]
    refine ⟨fun link mem => ?_, ?_⟩
    · have := (inChain link mem).1
      omega
    · have := clause.1
      omega
  have closed : chain.length + last.alone.links ≤ maxChain := by
    rw [Clause.links_alone]
    exact short
  refine ⟨by omega, ?_, ?_⟩
  · rw [OpenChain.close_eq, OpenChain.links_closeWith]
    exact closed
  · rw [OpenChain.close_eq, OpenChain.chainsWithin_closeWith closed, Clause.chainsWithin_alone]
    exact ⟨fun link mem => (inChain link mem).2, clause.2⟩

/-- Taking a token keeps to the limits. -/
theorem fits_of_takes {r r' : Reading} {t : Token} (h : r.Takes t r') (before : r.Fits) : r'.Fits := by
  obtain ⟨around, chain, now⟩ := before
  cases h with
  | opens _ room => exact ⟨⟨chain, around⟩, chainFits_nil _, room⟩
  -- Nothing is asked of a reading that can take nothing more.
  | opensTooDeep _ _ => exact ⟨⟨chain, around⟩, chainFits_nil _, trivial⟩
  | names _ => exact ⟨around, chain, now⟩
  | compares _ => exact ⟨around, chain, now⟩
  | completes _ => exact ⟨around, chain, now, trivial⟩
  | joins _ short => exact ⟨around, chainFits_cons chain now short, Nat.lt_of_le_of_lt (Nat.le_add_right _ _) now.1⟩
  | @closes last chain' outer around' _ _ =>
    -- One level less around the group, and one more in it.
    obtain ⟨deep, links, chains⟩ := fits_close chain now
    refine ⟨around.2, around.1, ?_, links, chains⟩
    change around'.length + 1 + (chain'.close last).depth < maxDepth at deep
    show around'.length + ((chain'.close last).depth + 1) < maxDepth
    omega

/-- **Nothing outgrows the limits.** -/
theorem fits_run {r q : Reading} {ts : List Token} (before : r.Fits) (h : r.run ts = .ok q) : q.Fits := by
  induction ts generalizing r with
  | nil =>
    cases h
    exact before
  | cons t ts ih =>
    obtain ⟨r', taken, after⟩ := takes_of_run_cons h
    exact ih (fits_of_takes taken before) after

/-! ## The tokens of a sentence are taken

A sentence is read in the place where a clause is due, and leaves its last clause in the focus: the chain is
then open up to that clause. -/

/-- The three tokens of a comparison are taken. -/
theorem run_comparison {e : Expression} {ts : List Token} (h : e.Yields ts) (chain : OpenChain)
    (around : List OpenChain) :
    (⟨.clause, chain, around⟩ : Reading).run ts = .ok ⟨.link (.comparison e), chain, around⟩ := by
  cases h with
  | @intro name comparator literal named ident compared kind text =>
    rw [run_cons_of_takes (.names named), run_cons_of_takes (.compares compared),
      run_cons_of_takes (.completes kind), run_nil, ident, text]

/-- The tokens of a group are taken, if its parenthesis is not too deep and the sentence in it is taken. -/
theorem run_group {s : Sentence} {opening closing : Token} {ts : List Token} {chain inner : OpenChain}
    {around : List OpenChain} {last : Clause} (opens : opening.kind = .openParen)
    (room : around.length + 1 < maxDepth)
    (inside : (⟨.clause, [], chain :: around⟩ : Reading).run ts = .ok ⟨.link last, inner, chain :: around⟩)
    (closed : inner.close last = s) (closes : closing.kind = .closeParen) :
    (⟨.clause, chain, around⟩ : Reading).run (opening :: ts ++ [closing]) =
      .ok ⟨.link (.group s), chain, around⟩ := by
  rw [List.cons_append, run_cons_of_takes (.opens opens room), run_append_of_run inside,
    run_cons_of_takes (.closes closes), run_nil, closed]

/-- **What the grammar allows is read.** The tokens of a sentence are taken where a clause is due, if there
is room for its groups under those that are open and for its conjunctions behind those of the chain. -/
theorem run_of_yields {s : Sentence} {ts : List Token} (h : s.Yields ts) {chain : OpenChain}
    {around : List OpenChain} (deep : around.length + s.depth < maxDepth)
    (long : chain.length + s.links ≤ maxChain) (within : s.ChainsWithin maxChain) :
    ∃ last chain', (⟨.clause, chain, around⟩ : Reading).run ts = .ok ⟨.link last, chain', around⟩ ∧
      chain'.close last = chain.closeWith s := by
  induction h generalizing chain around with
  | simple written => exact ⟨_, chain, run_comparison written chain around, rfl⟩
  | @grouped s opening closing ts opens _ closes ih =>
    rw [Sentence.depth] at deep
    obtain ⟨links, chains⟩ := within
    -- Inside the group a new chain begins, and the one that was open waits around it.
    obtain ⟨last, inner, inside, closed⟩ :=
      @ih [] (chain :: around) (by rw [List.length_cons]; omega) (by simpa using links) chains
    exact ⟨.group s, chain, run_group opens (by omega) inside closed closes, rfl⟩
  -- The comparison becomes a link of the chain, behind which its rest is read.
  | @simpleThen e c rest joint ts us written joins _ ih =>
    rw [Sentence.links] at long
    obtain ⟨_, chains⟩ := within
    obtain ⟨last, chain', after, closed⟩ :=
      @ih ((.comparison e, c) :: chain) around deep (by rw [List.length_cons]; omega) chains
    refine ⟨last, chain', ?_, closed⟩
    rw [run_append_of_run (run_comparison written chain around),
      run_cons_of_takes (.joins joins (by omega)), after]
  | @groupedThen s c rest opening closing joint ts us opens _ closes joins _ ihInner ih =>
    rw [Sentence.depth] at deep
    rw [Sentence.links] at long
    obtain ⟨⟨links, innerChains⟩, _, chains⟩ := within
    obtain ⟨innerLast, inner, inside, innerClosed⟩ :=
      @ihInner [] (chain :: around) (by rw [List.length_cons]; omega) (by simpa using links) innerChains
    obtain ⟨last, chain', after, closed⟩ :=
      @ih ((.group s, c) :: chain) around (by omega) (by rw [List.length_cons]; omega) chains
    refine ⟨last, chain', ?_, closed⟩
    rw [OpenChain.closeWith_nil] at innerClosed
    -- The group is read as a clause, then its conjunction, and then the rest.
    have group := run_group opens (by omega) inside innerClosed closes
    rw [show opening :: ts ++ closing :: joint :: us = (opening :: ts ++ [closing]) ++ joint :: us by simp,
      run_append_of_run group, run_cons_of_takes (.joins joins (by omega)), after]

end Reading

end SurveyFlow
