/-!
# YAML text: characters and their places

The layout of YAML text carries its structure, so each character is kept with its line, its column, the
bytes before it, and whether only blanks stand before it on its line. Line breaks are made alike before: the
five ways to write one become U+000A, except for the two separators U+2028 and U+2029, which stay what they
are.

A byte order mark at the start of a line, between the nodes of a text, takes its column and says nothing. In
a scalar it is a character like any other.
-/

namespace SurveyFlow.Yaml

/-- A blank within a line. -/
def isSpace (c : Char) : Bool :=
  c = ' ' || c = '\t'

/-- A character that ends a line. -/
def isBreak (c : Char) : Bool :=
  c = '\n' || c = '\u2028' || c = '\u2029'

/-- The byte order mark. -/
def byteOrderMark : Char := '\ufeff'

/-- A character that may stand in a text. -/
def isAllowed (c : Char) : Bool :=
  let n := c.toNat
  n = 0x09 || n = 0x0A || n = 0x0D || n = 0x85 || (0x20 ≤ n && n ≤ 0x7E) || (0xA0 ≤ n && n ≤ 0xD7FF)
    || (0xE000 ≤ n && n ≤ 0xFFFD) || 0x10000 ≤ n

/-- The text with its line breaks made alike. -/
def unifyBreaks : List Char → List Char
  | '\r' :: '\n' :: rest => '\n' :: unifyBreaks rest
  | '\r' :: rest => '\n' :: unifyBreaks rest
  | '\u0085' :: rest => '\n' :: unifyBreaks rest
  | c :: rest => c :: unifyBreaks rest
  | [] => []

/-- A character in its place. -/
structure Mark where
  char : Char
  line : Nat
  column : Nat
  /-- How many bytes of UTF-8 stand before it. -/
  offset : Nat
  /-- Only blanks stand before it on its line. -/
  fresh : Bool

/-- The line is still empty behind a character at the given column. -/
def keepsFresh (column : Nat) (c : Char) : Bool :=
  isSpace c || (column = 0 && c = byteOrderMark)

/-- Puts the characters in their places, the first one at the given place. -/
def marks (line column offset : Nat) (fresh : Bool) : List Char → List Mark
  | [] => []
  | c :: rest =>
    ⟨c, line, column, offset, fresh⟩ ::
      if isBreak c then marks (line + 1) 0 (offset + c.utf8Size) true rest
      else marks line (column + 1) (offset + c.utf8Size) (fresh && keepsFresh column c) rest

/-- The text ends here, or a blank or a line break follows. -/
def atGap : List Mark → Bool
  | [] => true
  | m :: _ => isSpace m.char || isBreak m.char

/-- Where a gap stands. -/
inductive GapPlace where
  | inBrackets
  /-- Behind the hyphen of an item. -/
  | behindHyphen
  | elsewhere

/-- Between nodes the character is a blank. A tab is one in brackets, and elsewhere if something stands before
it on its line that is not the hyphen of an item; a byte order mark is one at the start of a line. -/
def Mark.isBlank (place : GapPlace) (m : Mark) : Bool :=
  m.char = ' ' || (m.char = byteOrderMark && m.column = 0) ||
    (m.char = '\t' && match place with
      | .inBrackets => true
      | .behindHyphen => false
      | .elsewhere => !m.fresh)

/-- Leaves out blanks, line breaks and comments; `comment` says that a comment is open. -/
def skipGap (place : GapPlace) (comment : Bool) : List Mark → List Mark
  | [] => []
  | m :: rest =>
    if isBreak m.char then skipGap place false rest
    else if comment then skipGap place true rest
    else if m.isBlank place then skipGap place false rest
    else if m.char = '#' then skipGap place true rest
    else m :: rest

theorem length_skipGap_le (place : GapPlace) (comment : Bool) (ms : List Mark) :
    (skipGap place comment ms).length ≤ ms.length := by
  induction ms generalizing comment with
  | nil => exact Nat.le_refl _
  | cons m rest ih =>
    rw [skipGap]
    split
    · exact Nat.le_succ_of_le (ih _)
    split
    · exact Nat.le_succ_of_le (ih _)
    split
    · exact Nat.le_succ_of_le (ih _)
    split
    · exact Nat.le_succ_of_le (ih _)
    · exact Nat.le_refl _

end SurveyFlow.Yaml
