/-!
# Text: what a reader cuts off

A reader takes something off the front of a list and leaves the rest. Where the thing has at least one
element the rest is shorter (`Cut`), and where it may be empty the rest is no longer (`Trim`). The bound is
kept beside the rest, so a reader that calls itself on the rest is seen to end.
-/

namespace SurveyFlow

/-- What was read off the front of `input`, and the shorter rest; nothing if it begins with no such thing. -/
abbrev Cut {σ : Type} (input : List σ) (α : Type) :=
  Option (α × { rest : List σ // rest.length < input.length })

/-- What was read off the front of `input`, if only the empty thing, and the rest. -/
abbrev Trim {σ : Type} (input : List σ) (α : Type) :=
  Option (α × { rest : List σ // rest.length ≤ input.length })

/-- A cut of a list is a cut of any longer one. -/
def Cut.weaken {σ α : Type} {input shorter : List σ} (h : shorter.length ≤ input.length)
    (cut : Cut shorter α) : Cut input α :=
  cut.map fun (x, rest) => (x, ⟨rest.1, Nat.lt_of_lt_of_le rest.2 h⟩)

/-- A trim of a shorter list is a cut of the longer one. -/
def Trim.toCut {σ α : Type} {input shorter : List σ} (h : shorter.length < input.length)
    (trim : Trim shorter α) : Cut input α :=
  trim.map fun (x, rest) => (x, ⟨rest.1, Nat.lt_of_le_of_lt rest.2 h⟩)

/-- A cut of a list is a trim of any longer one. -/
def Cut.toTrim {σ α : Type} {input shorter : List σ} (h : shorter.length ≤ input.length)
    (cut : Cut shorter α) : Trim input α :=
  cut.map fun (x, rest) => (x, ⟨rest.1, Nat.le_of_lt (Nat.lt_of_lt_of_le rest.2 h)⟩)

/-- A trim of a list is a trim of any longer one. -/
def Trim.weaken {σ α : Type} {input shorter : List σ} (h : shorter.length ≤ input.length)
    (trim : Trim shorter α) : Trim input α :=
  trim.map fun (x, rest) => (x, ⟨rest.1, Nat.le_trans rest.2 h⟩)

/-! ## What a cut gives -/

/-- The cut has taken `x` off the front and left `rest`. -/
def Cut.Gives {σ α : Type} {input : List σ} (cut : Cut input α) (x : α) (rest : List σ) : Prop :=
  ∃ shorter, cut = some (x, ⟨rest, shorter⟩)

theorem Cut.gives_some {σ α : Type} {input : List σ} (x : α) (rest : { rest : List σ // rest.length < input.length }) :
    Cut.Gives (some (x, rest)) x rest.1 :=
  ⟨rest.2, rfl⟩

/-- What is made of the thing that was taken off. -/
theorem Cut.Gives.map {σ α β : Type} {input : List σ} {cut : Cut input α} {x : α} {rest : List σ}
    (h : Cut.Gives cut x rest) (f : α → β) : Cut.Gives (cut.map fun (x, rest) => (f x, rest)) (f x) rest := by
  obtain ⟨shorter, rfl⟩ := h
  exact ⟨shorter, rfl⟩

/-- A cut gives the same of any longer list. -/
theorem Cut.Gives.weaken {σ α : Type} {input shorter : List σ} {cut : Cut shorter α} {x : α} {rest : List σ}
    (h : Cut.Gives cut x rest) (le : shorter.length ≤ input.length) : Cut.Gives (Cut.weaken le cut) x rest := by
  obtain ⟨short, rfl⟩ := h
  exact ⟨Nat.lt_of_lt_of_le short le, rfl⟩

end SurveyFlow
