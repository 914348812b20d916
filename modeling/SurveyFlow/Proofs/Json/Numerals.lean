import Mathlib.Data.List.Basic
import Mathlib.Tactic.IntervalCases
import SurveyFlow.Json.Printer
import SurveyFlow.Json.Reader

/-!
# Numbers as JSON text

A numeral is read back from its text, whatever follows that cannot be part of a number (`numeral?_render`). For that its
digits have to be digits and its whole part must not begin with a zero (`Numeral.Proper`), and the numerals that numbers
are written as are such (`JsonNumber.proper_numeral`). An integer of 64 bits is the value of its numeral
(`value?_numeral_integer`); of a double that is not so.
-/

namespace SurveyFlow

/-! ## Digits -/

/-- A number is written with digits only. -/
theorem isDigit_of_mem_decimalDigits {n : Nat} {c : Char} (mem : c ∈ decimalDigits n) : c.isDigit = true :=
  Nat.isDigit_of_mem_toDigits (by decide) (by decide) mem

theorem decimalDigits_ne_nil (n : Nat) : decimalDigits n ≠ [] :=
  Nat.toDigits_ne_nil

/-- Digits up to a character that is none. -/
theorem takeWhile_isDigit {digits rest : List Char} (all : ∀ c ∈ digits, c.isDigit = true)
    (ends : ∀ c ∈ rest.head?, c.isDigit = false) :
    (digits ++ rest).takeWhile Char.isDigit = digits ∧ (digits ++ rest).dropWhile Char.isDigit = rest := by
  rw [List.takeWhile_append_of_pos all, List.dropWhile_append_of_pos all]
  cases rest with
  | nil => exact ⟨List.append_nil _, rfl⟩
  | cons c rest =>
    have none : ¬c.isDigit = true := by rw [ends c rfl]; exact Bool.false_ne_true
    rw [List.takeWhile_cons_of_neg none, List.dropWhile_cons_of_neg none, List.append_nil]
    exact ⟨rfl, rfl⟩

/-! ## The form of a numeral -/

/-- The digits are digits: at least one before the point, of which the first is a zero only if it is alone, and at
least one in an exponent. -/
structure Numeral.Proper (n : Numeral) : Prop where
  whole : n.whole = ['0'] ∨ n.whole.head? ≠ some '0' ∧ n.whole ≠ [] ∧ ∀ c ∈ n.whole, c.isDigit = true
  fraction : ∀ c ∈ n.fraction, c.isDigit = true
  exponent : ∀ e ∈ n.exponent, e.2 ≠ [] ∧ ∀ c ∈ e.2, c.isDigit = true

/-- What follows cannot be part of a number. -/
def EndsNumber (rest : List Char) : Prop :=
  ∀ c ∈ rest.head?, c.isDigit = false ∧ c ≠ '.' ∧ c ≠ 'e' ∧ c ≠ 'E'

/-! ## Reading the parts -/

/-- The digits before the point are read up to the first character that is none. A zero in front must be alone. -/
theorem wholeDigits?_append {whole rest : List Char}
    (proper : whole = ['0'] ∨ whole.head? ≠ some '0' ∧ whole ≠ [] ∧ ∀ c ∈ whole, c.isDigit = true)
    (ends : ∀ c ∈ rest.head?, c.isDigit = false) : wholeDigits? (whole ++ rest) = some (whole, rest) := by
  rcases proper with rfl | ⟨nonzero, nonempty, all⟩
  · -- Behind a lone zero there is no digit.
    have alone : ¬(rest.head?.map Char.isDigit).getD false = true := by
      cases rest with
      | nil => exact Bool.false_ne_true
      | cons c rest => rw [List.head?_cons, Option.map_some, Option.getD_some, ends c rfl]; exact Bool.false_ne_true
    exact if_neg alone
  · cases whole with
    | nil => exact absurd rfl nonempty
    | cons c digits =>
      have digit : c.isDigit = true := all c List.mem_cons_self
      have others : ∀ d ∈ digits, d.isDigit = true := fun d mem => all d (List.mem_cons_of_mem c mem)
      obtain ⟨taken, left⟩ := takeWhile_isDigit others ends
      have other : c ≠ '0' := fun same => nonzero (congrArg some same)
      rw [List.cons_append, wholeDigits?]
      · rw [if_pos digit, taken, left]
      · exact other

/-- Digits behind a point are read with it; without digits there is no point. -/
theorem fractionDigits?_append {fraction rest : List Char} (all : ∀ c ∈ fraction, c.isDigit = true)
    (ends : ∀ c ∈ rest.head?, c.isDigit = false ∧ c ≠ '.') :
    fractionDigits? (fractionText fraction ++ rest) = some (fraction, rest) := by
  unfold fractionText
  obtain ⟨taken, left⟩ := takeWhile_isDigit all fun c first => (ends c first).1
  by_cases none : fraction = []
  · subst none
    rw [if_pos rfl, List.nil_append]
    unfold fractionDigits?
    split
    · exact absurd rfl (ends '.' rfl).2
    · rfl
  · rw [if_neg none, List.cons_append, fractionDigits?, taken, left, if_neg none]

/-- So is an exponent, whose sign is a minus or missing. -/
theorem exponentDigits?_append {exponent : Option (Bool × List Char)} {rest : List Char}
    (proper : ∀ e ∈ exponent, e.2 ≠ [] ∧ ∀ c ∈ e.2, c.isDigit = true)
    (ends : ∀ c ∈ rest.head?, c.isDigit = false ∧ c ≠ 'e' ∧ c ≠ 'E') :
    exponentDigits? (exponentText exponent ++ rest) = some (exponent, rest) := by
  cases exponent with
  | none =>
    rw [exponentText, List.nil_append]
    cases rest with
    | nil => rfl
    | cons c rest =>
      obtain ⟨_, lower, upper⟩ := ends c rfl
      exact if_neg (not_or.2 ⟨lower, upper⟩)
  | some e =>
    obtain ⟨negative, digits⟩ := e
    obtain ⟨nonempty, all⟩ := proper (negative, digits) rfl
    obtain ⟨taken, left⟩ := takeWhile_isDigit all fun c first => (ends c first).1
    -- Digits without a minus do not begin with a sign.
    have sign : splitSign (signText negative ++ digits ++ rest) = (negative, digits ++ rest) := by
      cases negative with
      | true => rfl
      | false =>
        cases digits with
        | nil => exact absurd rfl nonempty
        | cons d digits =>
          have digit : d.isDigit = true := all d List.mem_cons_self
          have minus : d ≠ '-' := by rintro rfl; cases digit
          have plus : d ≠ '+' := by rintro rfl; cases digit
          exact splitSign.eq_3 _ (fun _ same => minus (List.cons.inj same).1) fun _ same =>
            plus (List.cons.inj same).1
    rw [exponentText, List.cons_append, exponentDigits?, if_pos (.inl rfl), sign]
    dsimp only
    rw [taken, left, if_neg nonempty]

/-! ## Reading a numeral -/

/-- A numeral is read part by part. -/
theorem numeral?_of_parts {n : Numeral} {cs afterWhole afterFraction rest : List Char}
    (sign : cs.head? = some '-' ↔ n.negative = true)
    (readWhole : wholeDigits? (if n.negative then cs.tail else cs) = some (n.whole, afterWhole))
    (readFraction : fractionDigits? afterWhole = some (n.fraction, afterFraction))
    (readExponent : exponentDigits? afterFraction = some (n.exponent, rest)) :
    Cut.Gives (numeral? cs) n rest := by
  have negative : decide (cs.head? = some '-') = n.negative := by
    rw [Bool.eq_iff_iff, decide_eq_true_iff]
    exact sign
  rw [← if_congr sign rfl rfl] at readWhole
  unfold numeral?
  dsimp only
  -- The reader goes on only where the part before was read.
  split
  · next none => rw [none] at readWhole; cases readWhole
  · next _ _ read =>
    cases read.symm.trans readWhole
    split
    · next none => rw [none] at readFraction; cases readFraction
    · next _ _ read =>
      cases read.symm.trans readFraction
      split
      · next none => rw [none] at readExponent; cases readExponent
      · next _ _ read =>
        cases read.symm.trans readExponent
        rw [negative]
        exact Cut.gives_some n _

/-- **A numeral is read back from its text.** -/
theorem numeral?_render {n : Numeral} (proper : n.Proper) {rest : List Char} (ends : EndsNumber rest) :
    Cut.Gives (numeral? (n.render ++ rest)) n rest := by
  let afterFraction := exponentText n.exponent ++ rest
  let afterWhole := fractionText n.fraction ++ afterFraction
  have readExponent : exponentDigits? afterFraction = some (n.exponent, rest) :=
    exponentDigits?_append proper.exponent fun c first => ⟨(ends c first).1, (ends c first).2.2⟩
  have endsFraction : ∀ c ∈ afterFraction.head?, c.isDigit = false ∧ c ≠ '.' := by
    unfold afterFraction
    cases n.exponent with
    | none => exact fun c first => ⟨(ends c first).1, (ends c first).2.1⟩
    | some e =>
      rintro c ⟨⟩
      decide
  have readFraction : fractionDigits? afterWhole = some (n.fraction, afterFraction) :=
    fractionDigits?_append proper.fraction endsFraction
  have endsWhole : ∀ c ∈ afterWhole.head?, c.isDigit = false := by
    unfold afterWhole fractionText
    split
    · exact fun c first => (endsFraction c first).1
    · rintro c ⟨⟩
      rfl
  have readWhole := wholeDigits?_append proper.whole endsWhole
  have text : n.render ++ rest = signText n.negative ++ (n.whole ++ afterWhole) := by
    unfold Numeral.render afterWhole afterFraction
    rw [List.append_assoc, List.append_assoc, List.append_assoc]
  rw [text]
  refine numeral?_of_parts ?_ ?_ readFraction readExponent
  · cases n.negative with
    | true => exact iff_of_true rfl rfl
    | false =>
      -- The first character is a digit, so it is no sign.
      refine iff_of_false ?_ Bool.false_ne_true
      rcases proper.whole with zero | ⟨_, nonempty, all⟩
      · rw [zero]
        simp [signText]
      · intro minus
        rw [signText, if_neg Bool.false_ne_true, List.nil_append, List.head?_append_of_ne_nil _ nonempty] at minus
        cases all '-' (List.mem_of_mem_head? minus)
  · cases n.negative <;> exact readWhole

/-! ## The numerals of numbers -/

/-- The digits of a number begin with a zero only if it is zero. -/
theorem head?_decimalDigits {n : Nat} (positive : 0 < n) : (decimalDigits n).head? ≠ some '0' := by
  induction n using Nat.strongRecOn with
  | ind n ih =>
    unfold decimalDigits at ih ⊢
    by_cases small : n < 10
    · rw [Nat.toDigits_of_lt_base small]
      intro zero
      interval_cases n <;> cases zero
    · rw [Nat.toDigits_of_base_le (by decide) (by omega), List.head?_append_of_ne_nil _ Nat.toDigits_ne_nil]
      exact ih (n / 10) (by omega) (by omega)

/-- **Significant digits and a scale make a numeral,** in each of the four layouts: filled with zeros, with a point in
between, behind zeros, or with an exponent. -/
theorem Digits.proper_numeral (negative : Bool) {d : Digits} (positive : 0 < d.significand) :
    (d.numeral negative).Proper := by
  have all : ∀ c ∈ decimalDigits d.significand, c.isDigit = true := fun c => isDigit_of_mem_decimalDigits
  have first := head?_decimalDigits positive
  have nonempty := decimalDigits_ne_nil d.significand
  have zeros : ∀ count, ∀ c ∈ List.replicate count '0', c.isDigit = true := by
    intro count c mem
    rw [List.eq_of_mem_replicate mem]
    rfl
  -- The first digits of the significand are the first digits of the number.
  have taken : ∀ {count}, 0 < count → ((decimalDigits d.significand).take count).head? ≠ some '0' ∧
      (decimalDigits d.significand).take count ≠ [] ∧
      ∀ c ∈ (decimalDigits d.significand).take count, c.isDigit = true := by
    intro count some
    refine ⟨?_, ?_, fun c mem => all c (List.mem_of_mem_take mem)⟩
    · rwa [List.head?_take, if_neg (Nat.ne_of_gt some)]
    · rw [Ne, List.take_eq_nil_iff, not_or]
      exact ⟨Nat.ne_of_gt some, nonempty⟩
  unfold numeral
  extract_lets digits point
  split
  · refine ⟨.inr ⟨?_, List.append_ne_nil_of_left_ne_nil nonempty _, ?_⟩, ?_, nofun⟩
    · rwa [List.head?_append_of_ne_nil _ nonempty]
    · exact List.forall_mem_append.2 ⟨all, zeros _⟩
    · exact List.forall_mem_singleton.2 rfl
  split
  · next _ within => exact ⟨.inr (taken (by omega)), fun c mem => all c (List.mem_of_mem_drop mem), nofun⟩
  split
  · exact ⟨.inl rfl, List.forall_mem_append.2 ⟨zeros _, all⟩, nofun⟩
  · refine ⟨.inr (taken Nat.one_pos), fun c mem => all c (List.mem_of_mem_drop mem), ?_⟩
    rintro e ⟨⟩
    exact ⟨decimalDigits_ne_nil _, fun c => isDigit_of_mem_decimalDigits⟩

/-- No decimal on a grid is zero. -/
theorem gridNeighbours_pos (units : Nat) (exponent : Int) :
    0 < (gridNeighbours units exponent).1.significand ∧ 0 < (gridNeighbours units exponent).2.significand := by
  unfold gridNeighbours
  exact ⟨Nat.lt_of_lt_of_le Nat.one_pos (Nat.le_max_left _ _), Nat.lt_of_lt_of_le Nat.one_pos (Nat.le_max_left _ _)⟩

/-- The shortest decimal of a double is not zero, on whichever grid it is found. -/
theorem coarsestDigits_pos (x : Double) (finer : Nat) (exponent : Int) :
    0 < (coarsestDigits x finer exponent).significand := by
  induction finer generalizing exponent with
  | zero => exact (gridNeighbours_pos x.units exponent).1
  | succ finer ih =>
    rw [coarsestDigits]
    dsimp only
    -- A neighbour on this grid that is the double, or a finer grid.
    split
    · exact (gridNeighbours_pos x.units exponent).1
    split
    · exact (gridNeighbours_pos x.units exponent).2
    · exact ih (exponent - 1)

/-- Every number is written as a numeral that can be read back. -/
theorem JsonNumber.proper_numeral (n : JsonNumber) : n.numeral.Proper := by
  cases n with
  | integer n =>
    refine ⟨?_, nofun, nofun⟩
    rcases Nat.eq_zero_or_pos n.natAbs with zero | positive
    · exact .inl (congrArg decimalDigits zero)
    · exact .inr ⟨head?_decimalDigits positive, decimalDigits_ne_nil _, fun c => isDigit_of_mem_decimalDigits⟩
  | double x =>
    rw [numeral]
    split
    · exact ⟨.inl rfl, List.forall_mem_singleton.2 rfl, nofun⟩
    · exact Digits.proper_numeral _ (coarsestDigits_pos _ _ _)

/-! ## The value of an integer -/

/-- Digits are taken whole while the number that they end in fits 64 bits. -/
theorem takeDigits_of_lt {digits : List Char} {start : Nat} (small : Nat.ofDigitChars 10 digits start < bitBound 64) :
    takeDigits start digits = (Nat.ofDigitChars 10 digits start, []) := by
  induction digits generalizing start with
  | nil => rfl
  | cons d digits ih =>
    rw [Nat.ofDigitChars_cons] at small ⊢
    -- The number so far is at most the whole number.
    have grows : 10 * start + (d.toNat - '0'.toNat) < bitBound 64 := by
      refine Nat.lt_of_le_of_lt ?_ small
      rw [Nat.ofDigitChars_eq_ofDigitChars_zero]
      exact Nat.le_add_right_of_le (Nat.le_mul_of_pos_left _ (Nat.pow_pos (by decide)))
    rw [takeDigits, if_pos grows, ih small]

/-- The integers that a number may be: those of 64 bits, with a sign or without. -/
def IsInteger64 (n : Int) : Prop :=
  -(bitBound 63 : Int) ≤ n ∧ n < bitBound 64

/-- **An integer is the value of its numeral.** -/
theorem value?_numeral_integer {n : Int} (fits : IsInteger64 n) :
    (JsonNumber.integer n).numeral.value? = some (.integer n) := by
  obtain ⟨low, high⟩ := fits
  have bound : bitBound 63 < bitBound 64 := by decide
  have size : Nat.ofDigitChars 10 (decimalDigits n.natAbs) 0 = n.natAbs := Nat.ofDigitChars_ten_toDigits
  have digits : takeDigits 0 (decimalDigits n.natAbs) = (n.natAbs, []) := by
    rw [takeDigits_of_lt (by rw [size]; omega), size]
  unfold Numeral.value? JsonNumber.numeral
  dsimp only
  rw [digits]
  dsimp only
  -- The sign decides which bound holds, and it is the sign of the number.
  have limit : n.natAbs ≤ if decide (n < 0) = true then bitBound 63 else bitBound 64 - 1 := by
    simp only [decide_eq_true_eq]
    split <;> omega
  have value : (if decide (n < 0) = true then -(n.natAbs : Int) else n.natAbs) = n := by
    simp only [decide_eq_true_eq]
    split <;> omega
  have unsigned : (!(decide (n < 0) && n.natAbs == 0)) = true := by
    by_cases zero : n = 0
    · subst zero
      rfl
    · simp [zero]
  exact (if_pos ⟨rfl, rfl, rfl, limit, unsigned⟩).trans (congrArg (some ∘ JsonNumber.integer) value)

end SurveyFlow
