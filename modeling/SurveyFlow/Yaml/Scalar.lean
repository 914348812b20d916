import SurveyFlow.Number.Radix
import SurveyFlow.Text.Cut
import SurveyFlow.Yaml.Mark

/-!
# YAML text: scalars

A scalar is written between single quotes, between double quotes, or plain. In all three a line break is
folded: the blanks around it go, one break becomes a space, and of more breaks the first goes.
-/

namespace SurveyFlow.Yaml

/-! ## Folding -/

/-- A run of blanks and line breaks: the blanks before the first break, the breaks, and what follows. -/
structure Gap where
  spaces : List Char
  breaks : List Char
  rest : List Mark

/-- Takes a run of blanks and line breaks off the front; `broken` says that a break came before. -/
def takeGap (broken : Bool) : List Mark → Gap
  | [] => ⟨[], [], []⟩
  | m :: rest =>
    if isBreak m.char then
      let gap := takeGap true rest
      { gap with breaks := m.char :: gap.breaks, spaces := [] }
    else if isSpace m.char then
      let gap := takeGap broken rest
      if broken || gap.breaks ≠ [] then gap else { gap with spaces := m.char :: gap.spaces }
    else ⟨[], [], m :: rest⟩

/-- What a run of blanks and line breaks stands for inside a scalar. -/
def Gap.text (gap : Gap) : List Char :=
  match gap.breaks with
  | [] => gap.spaces
  | ['\n'] => [' ']
  | '\n' :: more => more
  | breaks => breaks

theorem length_takeGap_le (broken : Bool) (ms : List Mark) : (takeGap broken ms).rest.length ≤ ms.length := by
  induction ms generalizing broken with
  | nil => exact Nat.le_refl _
  | cons m rest ih =>
    rw [takeGap]
    split
    · exact Nat.le_succ_of_le (ih _)
    split
    · have := ih broken
      simp only
      split <;> exact Nat.le_succ_of_le this
    · exact Nat.le_refl _

/-- A run that begins with a blank or a break is not empty. -/
theorem length_takeGap_lt {broken : Bool} {m : Mark} {rest : List Mark}
    (h : (isSpace m.char || isBreak m.char) = true) :
    (takeGap broken (m :: rest)).rest.length < (m :: rest).length := by
  rw [takeGap]
  split
  · exact Nat.lt_succ_of_le (length_takeGap_le _ _)
  · next noBreak =>
    have space : isSpace m.char = true := by simpa [noBreak] using h
    have := length_takeGap_le broken rest
    simp only [space, if_true]
    split <;> exact Nat.lt_succ_of_le this

/-- A run with a line break in it is not empty. -/
theorem length_takeGap_lt_of_breaks {broken : Bool} {ms : List Mark}
    (h : (takeGap broken ms).breaks ≠ []) : (takeGap broken ms).rest.length < ms.length := by
  cases ms with
  | nil => exact absurd rfl h
  | cons m rest =>
    by_cases gap : (isSpace m.char || isBreak m.char) = true
    · exact length_takeGap_lt gap
    · rw [Bool.or_eq_true, not_or] at gap
      simp [takeGap, gap.1, gap.2] at h

/-! ## Quoted scalars -/

/-- Reads the rest of a text between single quotes, in which a quote is written twice. -/
def singleQuoted? : (ms : List Mark) → Cut ms (List Char)
  | [] => none
  | m :: rest =>
    if m.char = '\'' then
      match rest with
      | [] => some ([], ⟨[], by simp⟩)
      | n :: more =>
        if n.char = '\'' then
          match singleQuoted? more with
          | none => none
          | some (text, ⟨after, _⟩) => some ('\'' :: text, ⟨after, by simp only [List.length_cons]; omega⟩)
        else some ([], ⟨n :: more, by simp⟩)
    else if h : isSpace m.char || isBreak m.char then
      have := @length_takeGap_lt false m rest h
      match singleQuoted? (takeGap false (m :: rest)).rest with
      | none => none
      | some (text, ⟨after, _⟩) => some ((takeGap false (m :: rest)).text ++ text, ⟨after, by omega⟩)
    else
      match singleQuoted? rest with
      | none => none
      | some (text, ⟨after, _⟩) => some (m.char :: text, ⟨after, by simp only [List.length_cons]; omega⟩)
termination_by ms => ms.length
decreasing_by all_goals (simp only [List.length_cons] at *; omega)

/-- The character of an escape of one letter. -/
def letterEscape? : Char → Option Char
  | '0' => some '\x00'
  | 'a' => some '\x07'
  | 'b' => some '\x08'
  | 't' | '\t' => some '\t'
  | 'n' => some '\n'
  | 'v' => some '\x0b'
  | 'f' => some '\x0c'
  | 'r' => some '\r'
  | 'e' => some '\x1b'
  | ' ' => some ' '
  | '"' => some '"'
  | '/' => some '/'
  | '\\' => some '\\'
  | 'N' => some '\u0085'
  | '_' => some '\u00a0'
  | 'L' => some '\u2028'
  | 'P' => some '\u2029'
  | _ => none

/-- How many hexadecimal digits follow the letter of an escape by number. -/
def escapeWidth? : Char → Option Nat
  | 'x' => some 2
  | 'u' => some 4
  | 'U' => some 8
  | _ => none

/-- The character of a code point. -/
def charOfCode? (code : Nat) : Option Char :=
  if 0xD800 ≤ code ∧ code ≤ 0xDFFF ∨ 0x10FFFF < code then none else some (Char.ofNat code)

/-- Reads the character that an escape stands for, behind its backslash. -/
def escapedChar? : (ms : List Mark) → Cut ms Char
  | [] => none
  | m :: rest =>
    match escapeWidth? m.char with
    | none => (letterEscape? m.char).map fun c => (c, ⟨rest, by simp⟩)
    | some width =>
      let digits := (rest.take width).map Mark.char
      if digits.length = width then
        (radixValue? 16 digits).bind fun code => (charOfCode? code).map fun c =>
          (c, ⟨rest.drop width, by simp only [List.length_drop, List.length_cons]; omega⟩)
      else none

/-- Reads the rest of a text between double quotes. A backslash begins an escape, or joins two lines
without a space. -/
def doubleQuoted? : (ms : List Mark) → Cut ms (List Char)
  | [] => none
  | m :: rest =>
    if m.char = '"' then some ([], ⟨rest, by simp⟩)
    else if m.char = '\\' then
      if (rest.head?.map fun n => isBreak n.char).getD false then
        have := length_takeGap_le true rest.tail
        have : rest.tail.length ≤ rest.length := by simp
        match doubleQuoted? (takeGap true rest.tail).rest with
        | none => none
        | some (text, ⟨after, _⟩) =>
          some ((takeGap true rest.tail).breaks ++ text, ⟨after, by simp only [List.length_cons]; omega⟩)
      else
        match escapedChar? rest with
        | none => none
        | some (c, ⟨behind, _⟩) =>
          match doubleQuoted? behind with
          | none => none
          | some (text, ⟨after, _⟩) => some (c :: text, ⟨after, by simp only [List.length_cons]; omega⟩)
    else if h : isSpace m.char || isBreak m.char then
      have := @length_takeGap_lt false m rest h
      match doubleQuoted? (takeGap false (m :: rest)).rest with
      | none => none
      | some (text, ⟨after, _⟩) => some ((takeGap false (m :: rest)).text ++ text, ⟨after, by omega⟩)
    else
      match doubleQuoted? rest with
      | none => none
      | some (text, ⟨after, _⟩) => some (m.char :: text, ⟨after, by simp only [List.length_cons]; omega⟩)
termination_by ms => ms.length
decreasing_by all_goals (simp only [List.length_cons] at *; omega)

/-! ## Plain scalars -/

/-- The characters that have a meaning of their own at the start of a node. -/
def isIndicator (c : Char) : Bool :=
  "-?:,[]\x7b\x7d#&*!|>'\"%@\x60".toList.contains c

/-- The characters that make up collections in brackets. -/
def isBracketOrComma (c : Char) : Bool :=
  ",[]\x7b\x7d".toList.contains c

/-- A plain scalar may begin here. Outside of brackets a question mark or a colon may begin one too, if no
gap follows; a hyphen that no gap follows may begin one everywhere. -/
def startsPlain (brackets : Bool) : List Mark → Bool
  | [] => false
  | m :: rest =>
    if isSpace m.char || isBreak m.char then false
    else if !isIndicator m.char then true
    else if m.char = '-' then !atGap rest
    else (m.char = '?' || m.char = ':') && !brackets && !atGap rest

/-- Reads the part of a plain scalar that stands on one line, without the blanks behind it. It ends at a
colon that a gap follows and at a comment, inside brackets also at a bracket or a comma. `spaces` are the
blanks just passed. Nothing if a colon inside brackets touches a bracket, a comma or a question mark. -/
def plainLine? (brackets : Bool) (spaces : List Mark) : (ms : List Mark) → Option (List Char × List Mark)
  | [] => some ([], spaces)
  | m :: rest =>
    let stop := some ([], spaces ++ m :: rest)
    if isSpace m.char then plainLine? brackets (spaces ++ [m]) rest
    else if isBreak m.char then stop
    else if m.char = '#' ∧ spaces ≠ [] then stop
    else if brackets ∧ isBracketOrComma m.char then stop
    else if m.char = ':' ∧ atGap rest then stop
    else if brackets ∧ m.char = ':' ∧ (rest.head?.map fun n => n.char = '?' || isBracketOrComma n.char).getD false
    then none
    else (plainLine? brackets [] rest).map fun (text, after) =>
      (spaces.map Mark.char ++ m.char :: text, after)

theorem length_of_plainLine? {brackets : Bool} {spaces ms after : List Mark} {text : List Char}
    (h : plainLine? brackets spaces ms = some (text, after)) : after.length ≤ spaces.length + ms.length := by
  induction ms generalizing spaces text after with
  | nil => cases h; simp
  | cons m rest ih =>
    rw [plainLine?] at h
    split at h
    · have := ih h
      simp only [List.length_append, List.length_cons, List.length_nil] at *
      omega
    repeat' split at h
    all_goals first | (cases h; done) | skip
    all_goals first
      | (cases h; simp only [List.length_append, List.length_cons]; omega)
      | (obtain ⟨⟨t, a⟩, found, same⟩ := Option.map_eq_some_iff.1 h
         cases same
         have := ih found
         simp only [List.length_cons, List.length_nil] at *
         omega)

/-- A blank in the margin of a line that goes on with a scalar: a tab left of the column `least`. -/
def hasTabInMargin (least : Nat) : List Mark → Bool
  | [] => false
  | m :: rest =>
    if isSpace m.char || isBreak m.char then
      (m.char = '\t' && m.fresh && m.column < least) || hasTabInMargin least rest
    else false

/-- Reads the lines that go on with a plain scalar: outside of brackets they begin at the column `least` or
right of it. The blanks and line breaks behind the last of them are part of the scalar, and stand for
nothing. -/
def plainLines? (brackets : Bool) (least : Nat) (ms : List Mark) : Trim ms (List Char) :=
  let gap := takeGap false ms
  let stop := some ([], ⟨gap.rest, length_takeGap_le false ms⟩)
  if hb : gap.breaks = [] then stop
  else if hasTabInMargin least ms then none
  else if (gap.rest.head?.map fun m => m.char = '#' || (!brackets && m.column < least)).getD true then stop
  else
    match hl : plainLine? brackets [] gap.rest with
    | none => none
    | some ([], _) => stop
    | some (line, after) =>
      have : after.length < ms.length :=
        Nat.lt_of_le_of_lt (by simpa using length_of_plainLine? hl) (length_takeGap_lt_of_breaks hb)
      match plainLines? brackets least after with
      | none => none
      | some (more, ⟨end_, _⟩) => some (gap.text ++ line ++ more, ⟨end_, by omega⟩)
termination_by ms.length

/-! ## Any scalar -/

/-- A scalar: its text, and whether it was written plain. -/
structure Scalar where
  plain : Bool
  text : String
deriving DecidableEq, Repr

/-- Reads a scalar. -/
def scalar? (brackets : Bool) (least : Nat) : (ms : List Mark) → Cut ms Scalar
  | [] => none
  | m :: rest =>
    if m.char = '"' then
      Cut.weaken (by simp) ((doubleQuoted? rest).map fun (text, after) => (⟨false, String.ofList text⟩, after))
    else if m.char = '\'' then
      Cut.weaken (by simp) ((singleQuoted? rest).map fun (text, after) => (⟨false, String.ofList text⟩, after))
    else if startsPlain brackets (m :: rest) then
      -- The first character is part of the scalar, whatever it is.
      match hl : plainLine? brackets [] rest with
      | none => none
      | some (line, after) =>
        match plainLines? brackets least after with
        | none => none
        | some (more, ⟨end_, _⟩) =>
          some (⟨true, String.ofList (m.char :: line ++ more)⟩,
            ⟨end_, by have := length_of_plainLine? hl; simp only [List.length_cons, List.length_nil] at *; omega⟩)
    else none

end SurveyFlow.Yaml
