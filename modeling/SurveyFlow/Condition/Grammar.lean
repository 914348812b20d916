import SurveyFlow.Condition.Parser

/-!
# Conditions: the tokens of a sentence and its limits

The grammar seen from the sentence: `Sentence.Yields` relates a sentence to the lists of tokens that it can
be written with, each group within one pair of parentheses, and `Sentence.WithinLimits` says that its groups
and chains keep to the limits of reading. `Sentence.WellFormed` adds that its identifiers are words.
-/

namespace SurveyFlow

/-- The tokens that a comparison can be written with. Its literal is a word or stands between quotes. -/
inductive Expression.Yields (e : Expression) : List Token → Prop where
  | intro {name comparator literal : Token} :
    name.kind = .word → name.text = e.identifier → comparator.kind = .comparator e.comparator →
    literal.kind = .word ∨ literal.kind = .quoted → literal.text = e.literal →
    e.Yields [name, comparator, literal]

/-- The tokens that a sentence can be written with, in order: none is left out and none is read twice. -/
inductive Sentence.Yields : Sentence → List Token → Prop where
  | simple {e : Expression} {ts : List Token} : e.Yields ts → Yields (.simple e) ts
  | grouped {s : Sentence} {opening closing : Token} {ts : List Token} :
    opening.kind = .openParen → Yields s ts → closing.kind = .closeParen →
    Yields (.grouped s) (opening :: ts ++ [closing])
  | simpleThen {e : Expression} {c : Conjunction} {rest : Sentence} {joint : Token} {ts us : List Token} :
    e.Yields ts → joint.kind = .conjunction c → Yields rest us →
    Yields (.simpleThen e c rest) (ts ++ joint :: us)
  | groupedThen {s : Sentence} {c : Conjunction} {rest : Sentence} {opening closing joint : Token}
      {ts us : List Token} :
    opening.kind = .openParen → Yields s ts → closing.kind = .closeParen → joint.kind = .conjunction c →
    Yields rest us → Yields (.groupedThen s c rest) (opening :: ts ++ closing :: joint :: us)

namespace Sentence

/-- How many groups stand one inside the other at most. -/
def depth : Sentence → Nat
  | simple _ => 0
  | grouped s => s.depth + 1
  | simpleThen _ _ rest => rest.depth
  | groupedThen s _ rest => max (s.depth + 1) rest.depth

/-- The number of conjunctions in the sentence's own chain, those inside its groups not counted. -/
def links : Sentence → Nat
  | simple _ | grouped _ => 0
  | simpleThen _ _ rest | groupedThen _ _ rest => rest.links + 1

/-- Every chain of the sentence, its own and those inside its groups, has at most `limit` conjunctions. -/
def ChainsWithin (limit : Nat) : Sentence → Prop
  | simple _ => True
  | grouped s => s.links ≤ limit ∧ s.ChainsWithin limit
  | simpleThen _ _ rest => rest.links + 1 ≤ limit ∧ rest.ChainsWithin limit
  | groupedThen s _ rest =>
    (s.links ≤ limit ∧ s.ChainsWithin limit) ∧ rest.links + 1 ≤ limit ∧ rest.ChainsWithin limit

/-- The sentence keeps to both limits of reading. -/
def WithinLimits (s : Sentence) : Prop :=
  s.depth < maxDepth ∧ s.ChainsWithin maxChain

/-- The sentence can be written as text and read back. -/
def WellFormed (s : Sentence) : Prop :=
  (∀ i ∈ s.identifiers, IsWord i) ∧ s.WithinLimits

end Sentence

end SurveyFlow
