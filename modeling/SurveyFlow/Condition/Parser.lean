import SurveyFlow.Condition.Error
import SurveyFlow.Condition.Token
import SurveyFlow.Number.Power

/-!
# Conditions: from tokens to sentences

The grammar is

    sentence   := clause (conjunction sentence)?
    clause     := identifier comparator literal | "(" sentence ")"

with two limits: groups nest fewer than `maxDepth` levels deep, and a chain has at most `maxChain`
conjunctions. It is read by a machine that takes one token at a time. Its state (`Reading`) is what may
come next (`Next`), the links of the chain that is open, and the chains around the groups that are open.
So a list of tokens can be continued to a sentence just as long as the machine has not stopped, and the
token at which it stops is the one that no sentence has at that place.
-/

namespace SurveyFlow

/-- Groups nest fewer than this many levels deep. -/
def maxDepth : Nat := 256

/-- A chain has at most this many conjunctions. -/
def maxChain : Nat := 1024

/-! ## The state of a reading -/

/-- What a sentence needs next. -/
inductive Next where
  /-- A clause: an identifier or an opening parenthesis. -/
  | clause
  /-- The comparator after an identifier. -/
  | comparator (identifier : String)
  /-- The literal after a comparator. -/
  | literal (identifier : String) (comparator : Comparator)
  /-- A conjunction, or the end of the chain of which `last` is the latest clause. -/
  | link (last : Clause)
  /-- Nothing: a parenthesis has just opened a group that is nested too deep. -/
  | nothing
deriving DecidableEq

/-- The links of a chain that are already followed by their conjunctions, the latest one first. -/
abbrev OpenChain := List (Clause × Conjunction)

/-- A sentence in the middle of being read. -/
structure Reading where
  next : Next
  /-- The innermost chain. -/
  chain : OpenChain
  /-- The chains around the open groups, the innermost one first. -/
  around : List OpenChain
deriving DecidableEq

/-- Nothing has been read. -/
def Reading.start : Reading :=
  ⟨.clause, [], []⟩

/-- The chain that ends with `last` after the links of `chain`. -/
def OpenChain.close (chain : OpenChain) (last : Clause) : Sentence :=
  chain.foldl (fun rest (clause, conjunction) => clause.link conjunction rest) last.alone

/-! ## One token -/

/-- The error for a token where something else was needed. A quoted text where a clause is needed could
only have been meant as an identifier. -/
def Token.unexpected (token : Token) (expected : Expected) : SyntaxError :=
  if token.kind = .endOfInput then .unexpectedEnd token.position expected
  else if token.kind = .quoted ∧ expected = .clause then
    .unexpectedToken token.position .identifier token.text
  else .unexpectedToken token.position expected token.text

/-- Where a chain may end or go on, with its latest clause. -/
def Reading.stepLink (r : Reading) (last : Clause) (token : Token) : Except SyntaxError Reading :=
  match token.kind, r.around with
  | .conjunction conjunction, _ =>
    if r.chain.length < maxChain then
      .ok { r with next := .clause, chain := (last, conjunction) :: r.chain }
    else .error (.chainTooLong token.position maxChain)
  | .closeParen, outer :: around => .ok ⟨.link (.group (r.chain.close last)), outer, around⟩
  | _, [] => .error (.trailingInput token.position token.text)
  | _, _ :: _ => .error (token.unexpected .closingParen)

/-- Reads one token. -/
def Reading.step (r : Reading) (token : Token) : Except SyntaxError Reading :=
  match r.next with
  | .clause =>
    match token.kind with
    | .openParen =>
      -- The new group is one level deeper than the groups that are open.
      let next := if r.around.length + 1 < maxDepth then .clause else .nothing
      .ok ⟨next, [], r.chain :: r.around⟩
    | .word => .ok { r with next := .comparator token.text }
    | _ => .error (token.unexpected .clause)
  | .comparator identifier =>
    match token.kind with
    | .comparator comparator => .ok { r with next := .literal identifier comparator }
    | _ => .error (token.unexpected .comparator)
  | .literal identifier comparator =>
    match token.kind with
    | .word | .quoted =>
      .ok { r with next := .link (.comparison ⟨identifier, comparator, token.text⟩) }
    | _ => .error (token.unexpected .literal)
  | .link last => r.stepLink last token
  | .nothing => .error (.nestingTooDeep token.position maxDepth)

/-- The sentence that was read, if the input ends here with the marker `token`. -/
def Reading.finish (r : Reading) (token : Token) : Except SyntaxError Sentence :=
  match r.next, r.around with
  | .clause, _ => .error (token.unexpected .clause)
  | .comparator _, _ => .error (token.unexpected .comparator)
  | .literal _ _, _ => .error (token.unexpected .literal)
  | .link last, [] => .ok (r.chain.close last)
  | .link _, _ :: _ => .error (token.unexpected .closingParen)
  | .nothing, _ => .error (.nestingTooDeep token.position maxDepth)

/-! ## All tokens

The input ends at the first end marker. A list without one ends behind its last token. Positions are counted
in 64 bits. -/

/-- The tokens before the end of the input. -/
def content (tokens : List Token) : List Token :=
  tokens.takeWhile fun t => t.kind ≠ .endOfInput

/-- Where the input ends. -/
def ending (tokens : List Token) : Token :=
  match tokens.find? (fun t => t.kind = .endOfInput), tokens.getLast? with
  | some marker, _ => Token.endAt marker.position
  | none, some last => Token.endAt ((last.position + last.text.utf8ByteSize) % bitBound 64)
  | none, none => Token.endAt 0

/-- Reads a sentence from its tokens. -/
def parse (tokens : List Token) : Except SyntaxError Sentence := do
  let r ← (content tokens).foldlM Reading.step Reading.start
  r.finish (ending tokens)

end SurveyFlow
