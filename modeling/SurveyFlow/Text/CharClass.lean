/-!
# Text: the character classes of condition text

Two classes decide where a word of condition text ends and what trimming removes: the blanks, which are
the code points of the Unicode property `White_Space`, and the control characters, which are the code
points of the general category `Cc`. Six characters (U+0009 to U+000D and U+0085) are in both classes; a
reader that asks for blanks first never sees them as control characters.
-/

namespace SurveyFlow

/-- The code points of the Unicode property `White_Space`, as ranges with both ends included. -/
def blankRanges : List (Nat × Nat) :=
  [(0x09, 0x0D), (0x20, 0x20), (0x85, 0x85), (0xA0, 0xA0), (0x1680, 0x1680), (0x2000, 0x200A),
   (0x2028, 0x2029), (0x202F, 0x202F), (0x205F, 0x205F), (0x3000, 0x3000)]

/-- A character of the Unicode property `White_Space`. -/
def isBlank (c : Char) : Bool :=
  blankRanges.any fun (low, high) => low ≤ c.toNat && c.toNat ≤ high

/-- A control character: U+0000 to U+001F and U+007F to U+009F. -/
def isControl (c : Char) : Bool :=
  c.toNat < 0x20 || (0x7F ≤ c.toNat && c.toNat ≤ 0x9F)

/-- Every whitespace character of ASCII is a blank. -/
theorem isBlank_of_isWhitespace {c : Char} (h : c.isWhitespace = true) : isBlank c = true := by
  simp only [Char.isWhitespace, Bool.or_eq_true, decide_eq_true_eq] at h
  rcases h with ((rfl | rfl) | rfl) | rfl <;> decide

/-- The text without the blanks at its two ends. -/
def trimBlanks (text : String) : String :=
  String.ofList (((text.toList.dropWhile isBlank).reverse.dropWhile isBlank).reverse)

/-- The number of bytes that the characters take in UTF-8. -/
def utf8Width : List Char → Nat
  | [] => 0
  | c :: cs => c.utf8Size + utf8Width cs

@[simp] theorem utf8Width_nil : utf8Width [] = 0 := rfl

@[simp] theorem utf8Width_cons (c : Char) (cs : List Char) :
    utf8Width (c :: cs) = c.utf8Size + utf8Width cs := rfl

@[simp] theorem utf8Width_append (as bs : List Char) :
    utf8Width (as ++ bs) = utf8Width as + utf8Width bs := by
  induction as with
  | nil => exact (Nat.zero_add _).symm
  | cons a as ih => rw [List.cons_append, utf8Width_cons, utf8Width_cons, ih, Nat.add_assoc]

/-- Dropping a leading run of characters leaves no more than there were. -/
theorem length_dropWhile_le {α : Type} (p : α → Bool) (xs : List α) :
    (xs.dropWhile p).length ≤ xs.length :=
  (List.dropWhile_suffix p).length_le

end SurveyFlow
