import SurveyFlow.Condition.Grammar

/-!
# Chains and their clauses

A sentence is read clause by clause, but its tree nests to the right. This module is the bridge: the tokens,
the depth and the limits of a sentence, said of its first clause and of the rest of its chain
(`Clause.alone` and `Clause.link`), and of a chain that is still open (`OpenChain.closeWith`).
-/

namespace SurveyFlow

/-! ## One clause

What the grammar and its limits say of a sentence, they say of each clause of its chain. -/

/-- The tokens that a clause can be written with. -/
inductive Clause.Yields : Clause → List Token → Prop where
  | comparison {e : Expression} {ts : List Token} : e.Yields ts → Yields (.comparison e) ts
  | group {s : Sentence} {opening closing : Token} {ts : List Token} :
    opening.kind = .openParen → s.Yields ts → closing.kind = .closeParen →
    Yields (.group s) (opening :: ts ++ [closing])

namespace Clause

/-- How many groups stand one inside the other at most, the clause's own parentheses counted. -/
def depth : Clause → Nat
  | comparison _ => 0
  | group s => s.depth + 1

/-- Every chain inside the clause has at most `limit` conjunctions. -/
def ChainsWithin (limit : Nat) : Clause → Prop
  | comparison _ => True
  | group s => s.links ≤ limit ∧ s.ChainsWithin limit

@[simp] theorem depth_alone (clause : Clause) : clause.alone.depth = clause.depth := by
  cases clause <;> rfl

@[simp] theorem links_alone (clause : Clause) : clause.alone.links = 0 := by
  cases clause <;> rfl

/-- A chain of one clause asks nothing of the limit beyond what the clause asks. -/
@[simp] theorem chainsWithin_alone {clause : Clause} {limit : Nat} :
    clause.alone.ChainsWithin limit ↔ clause.ChainsWithin limit := by
  cases clause <;> rfl

/-- A chain is as deep as its first clause or as what follows it, whichever is deeper. -/
@[simp] theorem depth_link (clause : Clause) (c : Conjunction) (rest : Sentence) :
    (clause.link c rest).depth = max clause.depth rest.depth := by
  cases clause with
  | comparison e => exact (Nat.zero_max _).symm
  | group s => rfl

@[simp] theorem links_link (clause : Clause) (c : Conjunction) (rest : Sentence) :
    (clause.link c rest).links = rest.links + 1 := by
  cases clause <;> rfl

/-- A longer chain is within the limit if its first clause and its rest are, and the new conjunction does not make one
too many. -/
@[simp] theorem chainsWithin_link {clause : Clause} {c : Conjunction} {rest : Sentence} {limit : Nat} :
    (clause.link c rest).ChainsWithin limit ↔
      clause.ChainsWithin limit ∧ rest.links + 1 ≤ limit ∧ rest.ChainsWithin limit := by
  cases clause with
  -- A comparison has no chain inside, so that only the chain of the sentence is counted.
  | comparison e => exact ⟨fun h => ⟨trivial, h⟩, fun h => h.2⟩
  | group s => rfl

/-- The tokens of a clause are tokens of the chain of that one clause. -/
theorem yields_alone {clause : Clause} {ts : List Token} (h : clause.Yields ts) : clause.alone.Yields ts := by
  cases h with
  | comparison written => exact .simple written
  | group opens inside closes => exact .grouped opens inside closes

/-- The tokens of a longer chain: those of its first clause, a conjunction, and those of the rest. -/
theorem yields_link {clause : Clause} {c : Conjunction} {rest : Sentence} {joint : Token}
    {ts us : List Token} (h : clause.Yields ts) (joins : joint.kind = .conjunction c)
    (after : rest.Yields us) : (clause.link c rest).Yields (ts ++ joint :: us) := by
  cases h with
  | comparison written => exact .simpleThen written joins after
  | @group s opening closing ts opens inside closes =>
    -- The closing parenthesis goes with the tokens behind it.
    rw [List.append_assoc, List.singleton_append]
    exact .groupedThen opens inside closes joins after

end Clause

/-- A sentence is written as one clause, or as a clause, a conjunction and the rest of the chain. -/
theorem Sentence.Yields.clauses {s : Sentence} {ts : List Token} (h : s.Yields ts) :
    (∃ clause : Clause, s = clause.alone ∧ clause.Yields ts) ∨
      ∃ (clause : Clause) (c : Conjunction) (rest : Sentence) (joint : Token) (us vs : List Token),
        s = clause.link c rest ∧ ts = us ++ joint :: vs ∧ clause.Yields us ∧
          joint.kind = .conjunction c ∧ rest.Yields vs := by
  cases h with
  | simple written => exact .inl ⟨.comparison _, rfl, .comparison written⟩
  | grouped opens inside closes => exact .inl ⟨.group _, rfl, .group opens inside closes⟩
  | simpleThen written joins after =>
    exact .inr ⟨.comparison _, _, _, _, _, _, rfl, rfl, .comparison written, joins, after⟩
  | groupedThen opens inside closes joins after =>
    refine .inr ⟨.group _, _, _, _, _, _, rfl, ?_, .group opens inside closes, joins, after⟩
    simp

/-- **Induction over clauses.** What holds of comparisons and, with the sentence in them, of groups holds of the clauses
of a sentence; what carries over to a chain of one clause and to a clause before a chain holds of the sentence. -/
theorem Sentence.Yields.by_clauses {P : Clause → List Token → Prop} {Q : Sentence → List Token → Prop}
    (comparison : ∀ {e ts}, Expression.Yields e ts → P (.comparison e) ts)
    (group : ∀ {s opening closing ts}, Token.kind opening = .openParen → Q s ts → Token.kind closing = .closeParen →
      P (.group s) (opening :: ts ++ [closing]))
    (alone : ∀ {clause ts}, P clause ts → Q clause.alone ts)
    (link : ∀ {clause c rest joint ts us}, P clause ts → Token.kind joint = .conjunction c → Q rest us →
      Q (clause.link c rest) (ts ++ joint :: us))
    {s : Sentence} {ts : List Token} (h : s.Yields ts) : Q s ts := by
  induction h with
  | simple written => exact alone (comparison written)
  | grouped opens _ closes ih => exact alone (group opens ih closes)
  | simpleThen written joins _ ih => exact link (comparison written) joins ih
  | groupedThen opens _ closes joins _ ihInner ih =>
    -- The tokens are told apart behind the closing parenthesis: there the first clause ends.
    have linked := link (group opens ihInner closes) joins ih
    rwa [List.append_assoc, List.singleton_append] at linked

/-- The limit holds of the chain at the top as of every other. -/
theorem Sentence.links_le_of_chainsWithin {s : Sentence} {limit : Nat} (h : s.ChainsWithin limit) :
    s.links ≤ limit := by
  cases s with
  | simple e => exact Nat.zero_le _
  | grouped s => exact Nat.zero_le _
  | simpleThen e c rest => exact h.1
  | groupedThen s c rest => exact h.2.1

/-! ## A chain that is open

The links that have been read are kept with the latest first; closing folds them around what follows. -/

namespace OpenChain

/-- The sentence that goes on with `rest` behind the links of the chain. -/
def closeWith (chain : OpenChain) (rest : Sentence) : Sentence :=
  chain.foldl (fun rest (clause, conjunction) => clause.link conjunction rest) rest

@[simp] theorem closeWith_nil (rest : Sentence) : closeWith [] rest = rest := rfl

@[simp] theorem closeWith_cons (clause : Clause) (c : Conjunction) (chain : OpenChain) (rest : Sentence) :
    closeWith ((clause, c) :: chain) rest = closeWith chain (clause.link c rest) := rfl

/-- The parser closes a chain by putting its last clause behind the links. -/
theorem close_eq (chain : OpenChain) (last : Clause) : chain.close last = chain.closeWith last.alone := rfl

/-- The tokens that the links of an open chain can be written with, each link up to its conjunction. -/
inductive Yields : OpenChain → List Token → Prop where
  | nil : Yields [] []
  | link {chain : OpenChain} {clause : Clause} {c : Conjunction} {joint : Token} {ts us : List Token} :
    Yields chain ts → clause.Yields us → joint.kind = .conjunction c →
    Yields ((clause, c) :: chain) (ts ++ (us ++ [joint]))

/-- Closing a chain puts its tokens in front. -/
theorem yields_closeWith {chain : OpenChain} {ts : List Token} (h : chain.Yields ts) :
    ∀ {rest : Sentence} {us : List Token}, rest.Yields us → (chain.closeWith rest).Yields (ts ++ us) := by
  induction h with
  | nil => exact fun after => after
  | @link chain clause c joint ts us _ written joins ih =>
    intro rest vs after
    -- The latest link is the innermost: it takes `rest` in, and the links before it close around both.
    rw [closeWith_cons, List.append_assoc, List.append_assoc, List.singleton_append]
    exact ih (Clause.yields_link written joins after)

/-- Each link that was open is one conjunction of the closed chain. -/
@[simp] theorem links_closeWith (chain : OpenChain) (rest : Sentence) :
    (chain.closeWith rest).links = chain.length + rest.links := by
  induction chain generalizing rest with
  | nil => exact (Nat.zero_add _).symm
  | cons link chain ih =>
    rw [closeWith_cons, ih, Clause.links_link, List.length_cons]
    omega

/-- A closed chain is as deep as its deepest clause. -/
theorem depth_closeWith_lt {chain : OpenChain} {rest : Sentence} {bound : Nat} :
    (chain.closeWith rest).depth < bound ↔ (∀ link ∈ chain, link.1.depth < bound) ∧ rest.depth < bound := by
  induction chain generalizing rest with
  | nil => simp
  | cons link chain ih =>
    -- The link becomes part of what is behind the chain, and brings the depth of its clause along.
    rw [closeWith_cons, ih, Clause.depth_link, Nat.max_lt, List.forall_mem_cons]
    exact ⟨fun ⟨inChain, first, after⟩ => ⟨⟨first, inChain⟩, after⟩,
      fun ⟨⟨first, inChain⟩, after⟩ => ⟨inChain, first, after⟩⟩

/-- A closed chain is within the limit if its own links are, and all chains inside its clauses. -/
theorem chainsWithin_closeWith {chain : OpenChain} {rest : Sentence} {limit : Nat}
    (short : chain.length + rest.links ≤ limit) :
    (chain.closeWith rest).ChainsWithin limit ↔
      (∀ link ∈ chain, link.1.ChainsWithin limit) ∧ rest.ChainsWithin limit := by
  induction chain generalizing rest with
  | nil => simp
  | cons link chain ih =>
    rw [List.length_cons] at short
    -- The link moves from the open chain to what is behind it, so the sum stays the same.
    have longer : chain.length + (link.1.link link.2 rest).links ≤ limit := by
      rw [Clause.links_link]
      omega
    rw [closeWith_cons, ih longer, Clause.chainsWithin_link, List.forall_mem_cons]
    exact ⟨fun ⟨inChain, first, _, after⟩ => ⟨⟨first, inChain⟩, after⟩,
      fun ⟨⟨first, inChain⟩, after⟩ => ⟨inChain, first, by omega, after⟩⟩

end OpenChain

end SurveyFlow
