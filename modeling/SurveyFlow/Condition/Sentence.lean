/-!
# Conditions: sentences

A sentence is a chain of clauses joined by `and` and `or`. A clause is a comparison of an identifier with
a literal, or a sentence in parentheses. Chains nest to the right and the two conjunctions bind alike: what
follows a conjunction is the whole rest of its chain, so `a and b or c` means `a and (b or c)`.
-/

namespace SurveyFlow

/-- How an expression compares an answer with its literal. -/
inductive Comparator where
  | eq
  | notEq
  | lt
  | gt
  | lte
  | gte
deriving DecidableEq, Repr, Inhabited

/-- The symbol of a comparator in condition text. -/
def Comparator.symbol : Comparator → String
  | .eq => "=="
  | .notEq => "!="
  | .lt => "<"
  | .gt => ">"
  | .lte => "<="
  | .gte => ">="

/-- The comparators that ask for an order and not for equality. -/
def Comparator.isOrdering : Comparator → Bool
  | .eq | .notEq => false
  | .lt | .gt | .lte | .gte => true

/-- What joins a clause to the rest of its chain. -/
inductive Conjunction where
  | and
  | or
deriving DecidableEq, Repr, Inhabited

/-- The word of a conjunction in condition text. -/
def Conjunction.word : Conjunction → String
  | .and => "and"
  | .or => "or"

/-- The conjunction that a word is, if it is one. -/
def Conjunction.ofWord? (word : String) : Option Conjunction :=
  if word = Conjunction.and.word then some .and
  else if word = Conjunction.or.word then some .or
  else none

/-- A value on the left that settles a chain whatever its rest says: false before `and`, true before
`or`. -/
def Conjunction.settledBy : Conjunction → Bool → Bool
  | .and, left => !left
  | .or, left => left

/-- One comparison. The literal is text until the type of the answer is known. -/
structure Expression where
  identifier : String
  comparator : Comparator
  literal : String
deriving DecidableEq, Repr, Inhabited

/-- A chain of clauses, by the kind of its first clause and by whether another clause follows. -/
inductive Sentence where
  /-- A comparison that ends its chain. -/
  | simple (expression : Expression)
  /-- A parenthesized sentence that ends its chain. -/
  | grouped (inner : Sentence)
  /-- A comparison, and after a conjunction the rest of the chain. -/
  | simpleThen (expression : Expression) (conjunction : Conjunction) (rest : Sentence)
  /-- A parenthesized sentence, and after a conjunction the rest of the chain. -/
  | groupedThen (inner : Sentence) (conjunction : Conjunction) (rest : Sentence)
deriving DecidableEq, Repr

/-- One link of a chain. -/
inductive Clause where
  | comparison (expression : Expression)
  | group (inner : Sentence)
deriving DecidableEq, Repr

/-- The chain of one clause. -/
def Clause.alone : Clause → Sentence
  | .comparison e => .simple e
  | .group s => .grouped s

/-- The chain that begins with the clause and goes on with `rest`. -/
def Clause.link (clause : Clause) (conjunction : Conjunction) (rest : Sentence) : Sentence :=
  match clause with
  | .comparison e => .simpleThen e conjunction rest
  | .group s => .groupedThen s conjunction rest

namespace Sentence

/-- The first clause of the chain. -/
def clause : Sentence → Clause
  | simple e | simpleThen e _ _ => .comparison e
  | grouped s | groupedThen s _ _ => .group s

/-- The conjunction after the first clause and the rest of the chain, if there is one. -/
def tail? : Sentence → Option (Conjunction × Sentence)
  | simple _ | grouped _ => none
  | simpleThen _ c rest | groupedThen _ c rest => some (c, rest)

/-- A first clause and what follows it make a sentence. -/
def ofTail (clause : Clause) : Option (Conjunction × Sentence) → Sentence
  | none => clause.alone
  | some (c, rest) => clause.link c rest

/-- A sentence is its first clause and what follows it. -/
@[simp] theorem ofTail_clause_tail? (s : Sentence) : ofTail s.clause s.tail? = s := by
  cases s <;> rfl

@[simp] theorem clause_ofTail (clause : Clause) (tail : Option (Conjunction × Sentence)) :
    (ofTail clause tail).clause = clause := by
  rcases tail with _ | ⟨c, rest⟩ <;> cases clause <;> rfl

@[simp] theorem tail?_ofTail (clause : Clause) (tail : Option (Conjunction × Sentence)) :
    (ofTail clause tail).tail? = tail := by
  rcases tail with _ | ⟨c, rest⟩ <;> cases clause <;> rfl

/-- The comparisons of the sentence in source order. -/
def expressions : Sentence → List Expression
  | simple e => [e]
  | grouped s => s.expressions
  | simpleThen e _ rest => e :: rest.expressions
  | groupedThen s _ rest => s.expressions ++ rest.expressions

/-- The identifiers of the sentence in source order, with repeats. -/
def identifiers (s : Sentence) : List String :=
  s.expressions.map Expression.identifier

/-- The literals of the sentence in source order, with repeats. -/
def literals (s : Sentence) : List String :=
  s.expressions.map Expression.literal

/-- The number of comparisons in the sentence. -/
def size (s : Sentence) : Nat :=
  s.expressions.length

/-- No sentence is empty. -/
theorem size_pos (s : Sentence) : 0 < s.size := by
  induction s with
  | simple e => simp [size, expressions]
  | grouped s ih => simpa [size, expressions] using ih
  | simpleThen e c rest ih => simp [size, expressions]
  | groupedThen s c rest ih _ => simp only [size, expressions, List.length_append] at *; omega

end Sentence

end SurveyFlow
