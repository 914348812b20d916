import SurveyFlow.Json.Written
import SurveyFlow.Number.Radix
import SurveyFlow.Text.CharClass
import SurveyFlow.Text.Cut

/-!
# Reading JSON text

A text is read as the tree that it is written as, and `Json.ofText?` gives the tree its value. Each reader
cuts what it reads off the front of a list of characters.
-/

namespace SurveyFlow

/-- The blanks of JSON. -/
def isJsonSpace (c : Char) : Bool :=
  c = ' ' || c = '\n' || c = '\t' || c = '\r'

/-- The text from its first character that is no blank. -/
def skipJsonSpace (cs : List Char) : List Char :=
  cs.dropWhile isJsonSpace

theorem length_skipJsonSpace_le (cs : List Char) : (skipJsonSpace cs).length ≤ cs.length :=
  length_dropWhile_le _ _

/-- Behind a first character the rest is shorter. -/
theorem length_lt_of_skip {cs rest : List Char} {c : Char} (h : skipJsonSpace cs = c :: rest) :
    rest.length < cs.length := by
  have := length_skipJsonSpace_le cs
  rw [h, List.length_cons] at this
  omega

/-! ## Numbers -/

/-- The digits of a fraction, behind the point. -/
def fractionDigits? : List Char → Option (List Char × List Char)
  | '.' :: rest =>
    if (rest.takeWhile Char.isDigit) = [] then none
    else some (rest.takeWhile Char.isDigit, rest.dropWhile Char.isDigit)
  | cs => some ([], cs)

/-- The sign and the digits of an exponent, behind its letter. -/
def exponentDigits? : List Char → Option (Option (Bool × List Char) × List Char)
  | [] => some (none, [])
  | c :: rest =>
    if c = 'e' ∨ c = 'E' then
      let (negative, digits) := splitSign rest
      if digits.takeWhile Char.isDigit = [] then none
      else some (some (negative, digits.takeWhile Char.isDigit), digits.dropWhile Char.isDigit)
    else some (none, c :: rest)

/-- The integer digits of a number: a zero alone, or digits that begin with another one. -/
def wholeDigits? : List Char → Option (List Char × List Char)
  | '0' :: rest => if (rest.head?.map Char.isDigit).getD false then none else some (['0'], rest)
  | c :: rest =>
    if c.isDigit then some (c :: rest.takeWhile Char.isDigit, rest.dropWhile Char.isDigit) else none
  | [] => none

theorem length_of_fractionDigits? {cs digits rest : List Char}
    (h : fractionDigits? cs = some (digits, rest)) : rest.length ≤ cs.length := by
  unfold fractionDigits? at h
  split at h
  · split at h
    · cases h
    · cases h
      exact Nat.le_succ_of_le (length_dropWhile_le _ _)
  · cases h
    exact Nat.le_refl _

theorem length_splitSign_le (cs : List Char) : (splitSign cs).2.length ≤ cs.length := by
  unfold splitSign
  split <;> simp

theorem length_of_exponentDigits? {cs rest : List Char} {e : Option (Bool × List Char)}
    (h : exponentDigits? cs = some (e, rest)) : rest.length ≤ cs.length := by
  unfold exponentDigits? at h
  split at h
  · cases h; exact Nat.le_refl _
  · next c tail =>
    split at h
    · have shorter := length_splitSign_le tail
      simp only at h
      split at h
      · cases h
      · cases h
        have := length_dropWhile_le Char.isDigit (splitSign tail).2
        simp only [List.length_cons]
        omega
    · cases h; exact Nat.le_refl _

theorem length_of_wholeDigits? {cs digits rest : List Char}
    (h : wholeDigits? cs = some (digits, rest)) : rest.length < cs.length := by
  unfold wholeDigits? at h
  split at h
  · split at h
    · cases h
    · cases h; simp
  · split at h
    · cases h
      exact Nat.lt_succ_of_le (length_dropWhile_le _ _)
    · cases h
  · cases h

/-- Reads a number. -/
def numeral? (cs : List Char) : Cut cs Numeral :=
  let negative := cs.head? = some '-'
  let unsigned := if negative then cs.tail else cs
  match hw : wholeDigits? unsigned with
  | none => none
  | some (whole, afterWhole) =>
    match hf : fractionDigits? afterWhole with
    | none => none
    | some (fraction, afterFraction) =>
      match he : exponentDigits? afterFraction with
      | none => none
      | some (exponent, rest) =>
        some (⟨negative, whole, fraction, exponent⟩, ⟨rest, by
          have := length_of_wholeDigits? hw
          have := length_of_fractionDigits? hf
          have := length_of_exponentDigits? he
          have : unsigned.length ≤ cs.length := by
            simp only [unsigned]
            split <;> simp
          omega⟩)

/-! ## Strings -/

/-- The character of an escape of one letter. -/
def shortEscape? : Char → Option Char
  | '"' => some '"'
  | '\\' => some '\\'
  | '/' => some '/'
  | 'b' => some '\x08'
  | 'f' => some '\x0c'
  | 'n' => some '\n'
  | 'r' => some '\r'
  | 't' => some '\t'
  | _ => none

/-- Reads what an escape stands for, behind its backslash. -/
def escapedPiece? : (cs : List Char) → Cut cs StringPiece
  | 'u' :: a :: b :: c :: d :: rest =>
    (radixValue? 16 [a, b, c, d]).map fun code => (.unit code, ⟨rest, by simp only [List.length_cons]; omega⟩)
  | c :: rest => (shortEscape? c).map fun x => (.char x, ⟨rest, by simp⟩)
  | [] => none

/-- Reads the pieces of a string, behind its opening quote, up to its closing one. A control character must
be escaped. -/
def stringPieces? : (cs : List Char) → Cut cs (List StringPiece)
  | [] => none
  | c :: cs =>
    if c = '"' then some ([], ⟨cs, by simp⟩)
    else if c = '\\' then
      match escapedPiece? cs with
      | none => none
      | some (piece, ⟨after, shorter⟩) =>
        match stringPieces? after with
        | none => none
        | some (pieces, ⟨rest, _⟩) =>
          some (piece :: pieces, ⟨rest, by simp only [List.length_cons]; omega⟩)
    else if c.toNat < 0x20 then none
    else
      match stringPieces? cs with
      | none => none
      | some (pieces, ⟨rest, _⟩) =>
        some (.char c :: pieces, ⟨rest, by simp only [List.length_cons]; omega⟩)
termination_by cs => cs.length

/-- Reads the text of a string, behind its opening quote. -/
def stringTail? (cs : List Char) : Cut cs (Option String) :=
  (stringPieces? cs).map fun (pieces, rest) => ((stringChars? pieces).map String.ofList, rest)

/-! ## Values -/

/-- Reads a word that stands for a value. -/
def keyword? : (cs : List Char) → Cut cs Written
  | 'n' :: 'u' :: 'l' :: 'l' :: rest => some (.null, ⟨rest, by simp only [List.length_cons]; omega⟩)
  | 't' :: 'r' :: 'u' :: 'e' :: rest => some (.bool true, ⟨rest, by simp only [List.length_cons]; omega⟩)
  | 'f' :: 'a' :: 'l' :: 's' :: 'e' :: rest =>
    some (.bool false, ⟨rest, by simp only [List.length_cons]; omega⟩)
  | _ => none

mutual

/-- Reads a value, behind blanks. -/
def written? (cs : List Char) : Cut cs Written :=
  match h : skipJsonSpace cs with
  | '[' :: rest =>
    match h' : skipJsonSpace rest with
    | ']' :: after =>
      some (.array [], ⟨after, Nat.lt_trans (length_lt_of_skip h') (length_lt_of_skip h)⟩)
    | _ =>
      have shorter := length_lt_of_skip h
      Cut.weaken (Nat.le_of_lt shorter) ((items? rest).map fun (items, after) => (.array items, after))
  | '\x7b' :: rest =>
    match h' : skipJsonSpace rest with
    | '\x7d' :: after =>
      some (.object [], ⟨after, Nat.lt_trans (length_lt_of_skip h') (length_lt_of_skip h)⟩)
    | _ =>
      have shorter := length_lt_of_skip h
      Cut.weaken (Nat.le_of_lt shorter) ((members? rest).map fun (members, after) => (.object members, after))
  | '"' :: rest =>
    Cut.weaken (Nat.le_of_lt (length_lt_of_skip h)) ((stringTail? rest).map fun (text, after) => (.string text, after))
  | c :: rest =>
    have here : (c :: rest).length ≤ cs.length := h ▸ length_skipJsonSpace_le cs
    match keyword? (c :: rest) with
    | some found => Cut.weaken here (some found)
    | none => Cut.weaken here ((numeral? (c :: rest)).map fun (digits, after) => (.number digits, after))
  | [] => none
termination_by 2 * cs.length

/-- Reads the items of an array that has one, up to its closing bracket. -/
def items? (cs : List Char) : Cut cs (List Written) :=
  match written? cs with
  | none => none
  | some (item, ⟨rest, shorter⟩) =>
    match h : skipJsonSpace rest with
    | ']' :: after => some ([item], ⟨after, Nat.lt_trans (length_lt_of_skip h) shorter⟩)
    | ',' :: after =>
      have := length_lt_of_skip h
      Cut.weaken (by omega) ((items? after).map fun (items, end_) => (item :: items, end_))
    | _ => none
termination_by 2 * cs.length + 1

/-- Reads the members of an object that has one, up to its closing brace. -/
def members? (cs : List Char) : Cut cs (List (Option String × Written)) :=
  match h : skipJsonSpace cs with
  | '"' :: quoted =>
    match stringTail? quoted with
    | none => none
    | some (key, ⟨afterKey, shorterKey⟩) =>
      match hc : skipJsonSpace afterKey with
      | ':' :: afterColon =>
        have := length_lt_of_skip h
        have := length_lt_of_skip hc
        match written? afterColon with
        | none => none
        | some (member, ⟨rest, shorter⟩) =>
          match hr : skipJsonSpace rest with
          | '\x7d' :: after =>
            some ([(key, member)], ⟨after, by have := length_lt_of_skip hr; omega⟩)
          | ',' :: after =>
            have := length_lt_of_skip hr
            Cut.weaken (by omega)
              ((members? after).map fun (members, end_) => ((key, member) :: members, end_))
          | _ => none
      | _ => none
  | _ => none
termination_by 2 * cs.length + 1

end

/-- Reads a text that is one JSON value with nothing but blanks around it. -/
def Written.ofText? (text : String) : Option Written :=
  match written? text.toList with
  | some (tree, ⟨rest, _⟩) => if skipJsonSpace rest = [] then some tree else none
  | none => none

/-- Reads the value of a JSON text. -/
def Json.ofText? (text : String) : Option Json := do
  (← Written.ofText? text).value? jsonDepth

end SurveyFlow
