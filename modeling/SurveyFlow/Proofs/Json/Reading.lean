import SurveyFlow.Proofs.Json.Numerals

/-!
# JSON text that is read back

A value is written as a tree (`Json.written`), and the tree is read back from the text whatever text follows, as long
as that cannot go on with a number (`written?_render`). So what is read is the value of that tree
(`ofText?_render`).

The reader decides by the first character. What it does once that is known is said in one lemma for each kind of
value; the induction then follows the value and not the reader.
-/

namespace SurveyFlow

/-! ## Strings -/

/-- The piece of a string that a character is written as: an escape by number for a control character without a letter
of its own. -/
def pieceOf (c : Char) : StringPiece :=
  if c.toNat < 0x20 ∧ ¬(c = '\x08' ∨ c = '\t' ∨ c = '\n' ∨ c = '\x0c' ∨ c = '\r') then .unit c.toNat else .char c

section

variable {cs after rest : List Char} {pieces : List StringPiece}

/-- A character that is not escaped is a piece of its own. -/
theorem stringPieces?_plain {c : Char} (quote : c ≠ '"') (backslash : c ≠ '\\') (printable : ¬c.toNat < 0x20)
    (read : Cut.Gives (stringPieces? cs) pieces rest) :
    Cut.Gives (stringPieces? (c :: cs)) (.char c :: pieces) rest := by
  obtain ⟨shorter, read⟩ := read
  rw [stringPieces?, if_neg quote, if_neg backslash, if_neg printable, read]
  exact Cut.gives_some _ _

/-- A backslash and what follows it are the piece that the escape stands for. -/
theorem stringPieces?_escape {piece : StringPiece}
    (escape : Cut.Gives (escapedPiece? cs) piece after)
    (read : Cut.Gives (stringPieces? after) pieces rest) :
    Cut.Gives (stringPieces? ('\\' :: cs)) (piece :: pieces) rest := by
  obtain ⟨shorter, escape⟩ := escape
  obtain ⟨shorter', read⟩ := read
  rw [stringPieces?, if_neg (by decide), if_pos rfl, escape]
  dsimp only
  rw [read]
  exact Cut.gives_some _ _

/-- The letter of an escape. -/
theorem escapedPiece?_letter {letter c : Char} (other : letter ≠ 'u') (short : shortEscape? letter = some c) :
    Cut.Gives (escapedPiece? (letter :: cs)) (.char c) cs := by
  rw [escapedPiece?, short]
  · exact Cut.gives_some _ _
  · exact fun _ _ _ _ _ same => absurd same other

/-- The number of an escape. -/
theorem escapedPiece?_number {c : Char} (control : c.toNat < 0x20) :
    Cut.Gives (escapedPiece? ('u' :: '0' :: '0' :: hexDigit (c.toNat / 16) :: hexDigit (c.toNat % 16) :: cs))
      (.unit c.toNat) cs := by
  have value : ∀ n < 0x20, radixValue? 16 ['0', '0', hexDigit (n / 16), hexDigit (n % 16)] = some n := by decide
  rw [escapedPiece?, value c.toNat control]
  exact Cut.gives_some _ _

/-- **A character is read back as its piece,** whichever way it is written: with a letter, by number, or as it is. -/
theorem stringPieces?_escapeJsonChar (c : Char)
    (read : Cut.Gives (stringPieces? cs) pieces rest) :
    Cut.Gives (stringPieces? (escapeJsonChar c ++ cs)) (pieceOf c :: pieces) rest := by
  have letter : ∀ {l x : Char}, l ≠ 'u' → shortEscape? l = some x →
      Cut.Gives (stringPieces? ('\\' :: l :: cs)) (.char x :: pieces) rest :=
    fun other short => stringPieces?_escape (escapedPiece?_letter other short) read
  unfold escapeJsonChar
  -- The escapes with a letter come first, then those by number.
  by_cases special : c = '"' ∨ c = '\\'
  · rcases special with rfl | rfl
    · exact letter (by decide) rfl
    · exact letter (by decide) rfl
  by_cases lettered : c = '\x08' ∨ c = '\t' ∨ c = '\n' ∨ c = '\x0c' ∨ c = '\r'
  · rcases lettered with rfl | rfl | rfl | rfl | rfl
    all_goals exact letter (by decide) rfl
  obtain ⟨quote, backslash⟩ := not_or.1 special
  obtain ⟨b, t, n, f, r⟩ : c ≠ '\x08' ∧ c ≠ '\t' ∧ c ≠ '\n' ∧ c ≠ '\x0c' ∧ c ≠ '\r' := by
    simpa only [not_or] using lettered
  rw [if_neg (by simp [quote, backslash]), if_neg b, if_neg t, if_neg n, if_neg f, if_neg r]
  unfold pieceOf
  by_cases control : c.toNat < 0x20
  · rw [if_pos control, if_pos ⟨control, lettered⟩]
    exact stringPieces?_escape (escapedPiece?_number control) read
  · rw [if_neg control, if_neg fun both => control both.1]
    exact stringPieces?_plain quote backslash control read

end

/-- The pieces of a text are read back up to the closing quote. -/
theorem stringPieces?_text (text rest : List Char) :
    Cut.Gives (stringPieces? (text.flatMap escapeJsonChar ++ '"' :: rest)) (text.map pieceOf) rest := by
  induction text with
  | nil =>
    rw [List.flatMap_nil, List.nil_append, stringPieces?, if_pos rfl]
    exact Cut.gives_some _ _
  | cons c text ih =>
    rw [List.flatMap_cons, List.append_assoc]
    exact stringPieces?_escapeJsonChar c ih

/-- The code of a control character is half of no pair. -/
theorem stringChars?_unit {code : Nat} (control : code < 0x20) (pieces : List StringPiece) :
    stringChars? (.unit code :: pieces) = (stringChars? pieces).map (Char.ofNat code :: ·) := by
  have high : ¬isHighSurrogate code = true := by simp [isHighSurrogate]; omega
  have low : ¬isLowSurrogate code = true := by simp [isLowSurrogate]; omega
  cases pieces with
  | nil => simp [stringChars?, high, low]
  | cons piece pieces => cases piece <;> simp [stringChars?, high, low]

/-- The pieces of a text make up the text. -/
theorem stringChars?_pieces (text : List Char) : stringChars? (text.map pieceOf) = some text := by
  induction text with
  | nil => rfl
  | cons c text ih =>
    rw [List.map_cons, pieceOf]
    split
    · next control => rw [stringChars?_unit control.1, ih, Option.map_some, Char.ofNat_toNat]
    · rw [stringChars?, ih, Option.map_some]

/-- What stands behind the opening quote is read back as the text. -/
theorem stringTail?_text (text : String) (rest : List Char) :
    Cut.Gives (stringTail? (text.toList.flatMap escapeJsonChar ++ '"' :: rest)) (some text) rest := by
  obtain ⟨shorter, read⟩ := stringPieces?_text text.toList rest
  unfold stringTail?
  rw [read, Option.map_some]
  dsimp only
  rw [stringChars?_pieces, Option.map_some, String.ofList_toList]
  exact ⟨shorter, rfl⟩

/-! ## The first character -/

theorem skipJsonSpace_of_solid {c : Char} (solid : isJsonSpace c = false) (cs : List Char) :
    skipJsonSpace (c :: cs) = c :: cs :=
  List.dropWhile_cons_of_neg (Bool.eq_false_iff.1 solid)

section

variable {cs rest : List Char}

/-- A quote begins a string. -/
theorem written?_string {text : Option String} (read : Cut.Gives (stringTail? cs) text rest) :
    Cut.Gives (written? ('"' :: cs)) (.string text) rest := by
  have first : skipJsonSpace ('"' :: cs) = '"' :: cs := skipJsonSpace_of_solid rfl cs
  rw [written?]
  split
  · next h => cases first.symm.trans h
  · next h => cases first.symm.trans h
  · next h =>
    cases first.symm.trans h
    exact (read.map _).weaken _
  · next quote h =>
    cases first.symm.trans h
    exact absurd rfl quote
  · next h => cases first.symm.trans h

section

variable {c : Char} (solid : isJsonSpace c = false) (bracket : c ≠ '[') (brace : c ≠ '\x7b') (quote : c ≠ '"')

include solid bracket brace quote

/-- What is no string, array or object is a word or a number. -/
theorem written?_word {found : Written} (read : Cut.Gives (keyword? (c :: cs)) found rest) :
    Cut.Gives (written? (c :: cs)) found rest := by
  have first : skipJsonSpace (c :: cs) = c :: cs := skipJsonSpace_of_solid solid cs
  obtain ⟨shorter, word⟩ := read
  rw [written?]
  split
  · next h => cases first.symm.trans h; exact absurd rfl bracket
  · next h => cases first.symm.trans h; exact absurd rfl brace
  · next h => cases first.symm.trans h; exact absurd rfl quote
  · next h =>
    cases first.symm.trans h
    dsimp only
    rw [word]
    exact (Cut.gives_some found ⟨rest, shorter⟩).weaken _
  · next h => cases first.symm.trans h

/-- What begins with none of those, and is no word, is a number. -/
theorem written?_number {digits : Numeral} (other : keyword? (c :: cs) = none)
    (read : Cut.Gives (numeral? (c :: cs)) digits rest) : Cut.Gives (written? (c :: cs)) (.number digits) rest := by
  have first : skipJsonSpace (c :: cs) = c :: cs := skipJsonSpace_of_solid solid cs
  rw [written?]
  split
  · next h => cases first.symm.trans h; exact absurd rfl bracket
  · next h => cases first.symm.trans h; exact absurd rfl brace
  · next h => cases first.symm.trans h; exact absurd rfl quote
  · next h =>
    cases first.symm.trans h
    dsimp only
    rw [other]
    exact (read.map _).weaken _
  · next h => cases first.symm.trans h

end

/-- Brackets with nothing between them are the empty array. -/
theorem written?_emptyArray (rest : List Char) : Cut.Gives (written? ('[' :: ']' :: rest)) (.array []) rest := by
  have first : skipJsonSpace ('[' :: ']' :: rest) = '[' :: ']' :: rest := skipJsonSpace_of_solid rfl _
  have second : skipJsonSpace (']' :: rest) = ']' :: rest := skipJsonSpace_of_solid rfl _
  rw [written?]
  split
  · next h =>
    cases first.symm.trans h
    split
    · next h' =>
      cases second.symm.trans h'
      exact Cut.gives_some _ _
    · next other => exact absurd second (other _)
  · next h => cases first.symm.trans h
  · next h => cases first.symm.trans h
  · next bracket _ _ h => cases first.symm.trans h; exact absurd rfl bracket
  · next h => cases first.symm.trans h

/-- An array with items is what its items are read as. -/
theorem written?_array {items : List Written} (nonempty : ∀ after, skipJsonSpace cs ≠ ']' :: after)
    (read : Cut.Gives (items? cs) items rest) : Cut.Gives (written? ('[' :: cs)) (.array items) rest := by
  have first : skipJsonSpace ('[' :: cs) = '[' :: cs := skipJsonSpace_of_solid rfl _
  rw [written?]
  -- The bracket is not closed at once, so there are items to be read.
  split
  · next h =>
    cases first.symm.trans h
    split
    · next h' => exact absurd h' (nonempty _)
    · exact (read.map _).weaken _
  · next h => cases first.symm.trans h
  · next h => cases first.symm.trans h
  · next bracket _ _ h => cases first.symm.trans h; exact absurd rfl bracket
  · next h => cases first.symm.trans h

/-- Braces with nothing between them are the empty object. -/
theorem written?_emptyObject (rest : List Char) :
    Cut.Gives (written? ('\x7b' :: '\x7d' :: rest)) (.object []) rest := by
  have first : skipJsonSpace ('\x7b' :: '\x7d' :: rest) = '\x7b' :: '\x7d' :: rest := skipJsonSpace_of_solid rfl _
  have second : skipJsonSpace ('\x7d' :: rest) = '\x7d' :: rest := skipJsonSpace_of_solid rfl _
  rw [written?]
  split
  · next h => cases first.symm.trans h
  · next h =>
    cases first.symm.trans h
    split
    · next h' =>
      cases second.symm.trans h'
      exact Cut.gives_some _ _
    · next other => exact absurd second (other _)
  · next h => cases first.symm.trans h
  · next brace _ h => cases first.symm.trans h; exact absurd rfl brace
  · next h => cases first.symm.trans h

/-- An object with members is what its members are read as. -/
theorem written?_object {members : List (Option String × Written)}
    (nonempty : ∀ after, skipJsonSpace cs ≠ '\x7d' :: after) (read : Cut.Gives (members? cs) members rest) :
    Cut.Gives (written? ('\x7b' :: cs)) (.object members) rest := by
  have first : skipJsonSpace ('\x7b' :: cs) = '\x7b' :: cs := skipJsonSpace_of_solid rfl _
  rw [written?]
  split
  · next h => cases first.symm.trans h
  · next h =>
    cases first.symm.trans h
    split
    · next h' => exact absurd h' (nonempty _)
    · exact (read.map _).weaken _
  · next h => cases first.symm.trans h
  · next brace _ h => cases first.symm.trans h; exact absurd rfl brace
  · next h => cases first.symm.trans h

/-! ## Items and members -/

/-- The last item of an array. -/
theorem items?_last {item : Written} (read : Cut.Gives (written? cs) item (']' :: rest)) :
    Cut.Gives (items? cs) [item] rest := by
  obtain ⟨shorter, read⟩ := read
  have close : skipJsonSpace (']' :: rest) = ']' :: rest := skipJsonSpace_of_solid rfl _
  rw [items?, read]
  dsimp only
  split
  · next h =>
    cases close.symm.trans h
    exact Cut.gives_some _ _
  · next h => cases close.symm.trans h
  · next other _ => exact absurd close (other _)

/-- An item of an array with others behind it. -/
theorem items?_cons {item : Written} {items : List Written} {after : List Char}
    (read : Cut.Gives (written? cs) item (',' :: after)) (others : Cut.Gives (items? after) items rest) :
    Cut.Gives (items? cs) (item :: items) rest := by
  obtain ⟨shorter, read⟩ := read
  have comma : skipJsonSpace (',' :: after) = ',' :: after := skipJsonSpace_of_solid rfl _
  rw [items?, read]
  dsimp only
  split
  · next h => cases comma.symm.trans h
  · next h =>
    cases comma.symm.trans h
    exact (others.map _).weaken _
  · next other => exact absurd comma (other _)

/-- The last member of an object. -/
theorem members?_last {key : Option String} {member : Written} {afterKey : List Char}
    (readKey : Cut.Gives (stringTail? cs) key (':' :: afterKey))
    (read : Cut.Gives (written? afterKey) member ('\x7d' :: rest)) :
    Cut.Gives (members? ('"' :: cs)) [(key, member)] rest := by
  obtain ⟨shorterKey, readKey⟩ := readKey
  obtain ⟨shorter, read⟩ := read
  have first : skipJsonSpace ('"' :: cs) = '"' :: cs := skipJsonSpace_of_solid rfl cs
  have colon : skipJsonSpace (':' :: afterKey) = ':' :: afterKey := skipJsonSpace_of_solid rfl _
  have close : skipJsonSpace ('\x7d' :: rest) = '\x7d' :: rest := skipJsonSpace_of_solid rfl _
  rw [members?]
  -- A key, a colon, a value and the brace that closes the object, each found where it is expected.
  split
  · next h =>
    cases first.symm.trans h
    rw [readKey]
    dsimp only
    split
    · next h =>
      cases colon.symm.trans h
      rw [read]
      dsimp only
      split
      · next h =>
        cases close.symm.trans h
        exact Cut.gives_some _ _
      · next h => cases close.symm.trans h
      · next other _ => exact absurd close (other _)
    · next other => exact absurd colon (other _)
  · next other => exact absurd first (other _)

/-- A member of an object with others behind it. -/
theorem members?_cons {key : Option String} {member : Written} {members : List (Option String × Written)}
    {afterKey after : List Char} (readKey : Cut.Gives (stringTail? cs) key (':' :: afterKey))
    (read : Cut.Gives (written? afterKey) member (',' :: after))
    (others : Cut.Gives (members? after) members rest) :
    Cut.Gives (members? ('"' :: cs)) ((key, member) :: members) rest := by
  obtain ⟨shorterKey, readKey⟩ := readKey
  obtain ⟨shorter, read⟩ := read
  have first : skipJsonSpace ('"' :: cs) = '"' :: cs := skipJsonSpace_of_solid rfl cs
  have colon : skipJsonSpace (':' :: afterKey) = ':' :: afterKey := skipJsonSpace_of_solid rfl _
  have comma : skipJsonSpace (',' :: after) = ',' :: after := skipJsonSpace_of_solid rfl _
  rw [members?]
  split
  · next h =>
    cases first.symm.trans h
    rw [readKey]
    dsimp only
    split
    · next h =>
      cases colon.symm.trans h
      rw [read]
      dsimp only
      split
      · next h => cases comma.symm.trans h
      · next h =>
        cases comma.symm.trans h
        exact (others.map _).weaken _
      · next other => exact absurd comma (other _)
    · next other => exact absurd colon (other _)
  · next other => exact absurd first (other _)

end

/-! ## Trees -/

mutual

/-- The tree that a value is written as. -/
def Json.written : Json → Written
  | .null => .null
  | .bool b => .bool b
  | .number n => if n.isWritable then .number n.numeral else .null
  | .string s => .string (some s)
  | .array items => .array (writtenItems items)
  | .object members => .object (writtenMembers members)

/-- The trees of the items of an array. -/
def writtenItems : List Json → List Written
  | [] => []
  | item :: items => item.written :: writtenItems items

/-- The members of an object with their trees. -/
def writtenMembers : Members → List (Option String × Written)
  | [] => []
  | (key, value) :: members => (some key, value.written) :: writtenMembers members

end

/-- The first character of a number is a digit or a minus. -/
theorem Numeral.Proper.render_eq_cons {n : Numeral} (proper : n.Proper) :
    ∃ c cs, n.render = c :: cs ∧ (c = '-' ∨ c.isDigit = true) := by
  unfold Numeral.render
  cases n.negative with
  | true => exact ⟨'-', _, rfl, .inl rfl⟩
  | false =>
    rw [signText, if_neg Bool.false_ne_true, List.nil_append]
    rcases proper.whole with zero | ⟨_, nonempty, all⟩
    · rw [zero]
      exact ⟨'0', _, rfl, .inr rfl⟩
    · obtain ⟨c, digits, whole⟩ := List.exists_cons_of_ne_nil nonempty
      rw [whole] at all ⊢
      exact ⟨c, _, rfl, .inr (all c List.mem_cons_self)⟩

/-- A character that begins a number begins nothing else. -/
theorem solid_of_numberStart {c : Char} (start : c = '-' ∨ c.isDigit = true) :
    isJsonSpace c = false ∧ c ≠ '[' ∧ c ≠ '\x7b' ∧ c ≠ '"' ∧ c ≠ ']' ∧ c ≠ 'n' ∧ c ≠ 't' ∧ c ≠ 'f' := by
  rcases start with rfl | digit
  · decide
  · have other : ∀ d : Char, d.isDigit = false → c ≠ d := by
      rintro d none rfl
      rw [digit] at none
      cases none
    refine ⟨?_, other _ rfl, other _ rfl, other _ rfl, other _ rfl, other _ rfl, other _ rfl, other _ rfl⟩
    simp [isJsonSpace, other ' ' rfl, other '\n' rfl, other '\t' rfl, other '\r' rfl]

/-- The text of a value begins with a character that is no blank and closes no array. -/
theorem Json.render_eq_cons (j : Json) :
    ∃ c cs, j.render.toList = c :: cs ∧ isJsonSpace c = false ∧ c ≠ ']' := by
  cases j with
  | null => exact ⟨'n', _, rfl, rfl, by decide⟩
  | bool b => cases b <;> exact ⟨_, _, rfl, rfl, by decide⟩
  | number n =>
    rw [render, JsonNumber.render]
    -- What cannot be written as a number is written as null.
    split
    · obtain ⟨c, cs, text, start⟩ := n.proper_numeral.render_eq_cons
      have solid := solid_of_numberStart start
      rw [String.toList_ofList]
      exact ⟨c, cs, text, solid.1, solid.2.2.2.2.1⟩
    · exact ⟨'n', _, rfl, rfl, by decide⟩
  | string s =>
    rw [render, jsonString, String.toList_append, String.toList_append]
    exact ⟨'"', _, rfl, rfl, by decide⟩
  | array items =>
    rw [render, String.toList_append, String.toList_append]
    exact ⟨'[', _, rfl, rfl, by decide⟩
  | object members =>
    rw [render, String.toList_append, String.toList_append]
    exact ⟨'\x7b', _, rfl, rfl, by decide⟩

theorem endsNumber_of_separator {c : Char} (separator : c = ',' ∨ c = ']' ∨ c = '\x7d') (rest : List Char) :
    EndsNumber (c :: rest) := by
  rintro d ⟨⟩
  rcases separator with rfl | rfl | rfl <;> decide

/-- A number is read back as its numeral, and one that cannot be written as null. -/
theorem written?_renderNumber (n : JsonNumber) {rest : List Char} (ends : EndsNumber rest) :
    Cut.Gives (written? (n.render.toList ++ rest)) (Json.number n).written rest := by
  rw [JsonNumber.render, Json.written]
  by_cases writable : n.isWritable = true
  · rw [if_pos writable, if_pos writable, String.toList_ofList]
    have read := numeral?_render n.proper_numeral ends
    obtain ⟨c, cs, text, start⟩ := n.proper_numeral.render_eq_cons
    obtain ⟨solid, bracket, brace, quote, _, notNull, notTrue, notFalse⟩ := solid_of_numberStart start
    rw [text, List.cons_append] at read ⊢
    refine written?_number solid bracket brace quote ?_ read
    rw [keyword?]
    · exact fun _ same => notNull (List.cons.inj same).1
    · exact fun _ same => notTrue (List.cons.inj same).1
    · exact fun _ same => notFalse (List.cons.inj same).1
  · rw [if_neg writable, if_neg writable]
    exact written?_word rfl (by decide) (by decide) (by decide) (Cut.gives_some _ _)

/-- The text of items begins with that of the first. -/
theorem exists_append_of_cons (first : String) (others : List String) :
    ∃ tail, (",".intercalate (first :: others)).toList = first.toList ++ tail := by
  cases others with
  | nil => exact ⟨[], by rw [String.intercalate_singleton, List.append_nil]⟩
  | cons next others =>
    rw [String.intercalate_cons_cons, String.toList_append, String.toList_append, List.append_assoc]
    exact ⟨_, rfl⟩

/-- The text of a member: its key, a colon and its value. -/
theorem toList_member (key : String) (value : Json) (rest : List Char) :
    (jsonString key ++ ":" ++ value.render).toList ++ rest =
      '"' :: (key.toList.flatMap escapeJsonChar ++ '"' :: ':' :: (value.render.toList ++ rest)) := by
  simp [jsonString, String.toList_append]

mutual

/-- **A value is read back as the tree that it is written as.** -/
theorem written?_render (j : Json) {rest : List Char} (ends : EndsNumber rest) :
    Cut.Gives (written? (j.render.toList ++ rest)) j.written rest := by
  match j with
  | .null => exact written?_word rfl (by decide) (by decide) (by decide) (Cut.gives_some _ _)
  | .bool true => exact written?_word rfl (by decide) (by decide) (by decide) (Cut.gives_some _ _)
  | .bool false => exact written?_word rfl (by decide) (by decide) (by decide) (Cut.gives_some _ _)
  | .number n => exact written?_renderNumber n ends
  | .string s =>
    have text : (Json.string s).render.toList ++ rest = '"' :: (s.toList.flatMap escapeJsonChar ++ '"' :: rest) := by
      simp [Json.render, jsonString, String.toList_append]
    rw [text]
    exact written?_string (stringTail?_text s rest)
  | .array [] => exact written?_emptyArray rest
  -- The first item begins with a character that closes no array, so the reader goes on to the items.
  | .array (item :: items) =>
    have text : (Json.array (item :: items)).render.toList ++ rest =
        '[' :: ((",".intercalate (renderItems (item :: items))).toList ++ ']' :: rest) := by
      simp [Json.render, String.toList_append]
    rw [text]
    refine written?_array ?_ (items?_render item items rest)
    obtain ⟨tail, begins⟩ := exists_append_of_cons item.render (renderItems items)
    obtain ⟨c, cs, first, solid, other⟩ := item.render_eq_cons
    intro after closed
    rw [renderItems, begins, first, List.cons_append, List.cons_append, skipJsonSpace_of_solid solid] at closed
    exact other (List.cons.inj closed).1
  | .object [] => exact written?_emptyObject rest
  -- The first member begins with a quote.
  | .object ((key, value) :: members) =>
    have text : (Json.object ((key, value) :: members)).render.toList ++ rest =
        '\x7b' :: ((",".intercalate (renderMembers ((key, value) :: members))).toList ++ '\x7d' :: rest) := by
      simp [Json.render, String.toList_append]
    rw [text]
    refine written?_object ?_ (members?_render key value members rest)
    obtain ⟨tail, begins⟩ := exists_append_of_cons (jsonString key ++ ":" ++ value.render) (renderMembers members)
    intro after closed
    rw [renderMembers, begins, toList_member, List.cons_append, skipJsonSpace_of_solid rfl] at closed
    cases closed
termination_by sizeOf j

/-- The items of an array are read back. -/
theorem items?_render (item : Json) (items : List Json) (rest : List Char) :
    Cut.Gives (items? ((",".intercalate (renderItems (item :: items))).toList ++ ']' :: rest))
      (writtenItems (item :: items)) rest := by
  match items with
  | [] =>
    rw [renderItems, renderItems, String.intercalate_singleton]
    exact items?_last (written?_render item (endsNumber_of_separator (.inr (.inl rfl)) rest))
  | next :: items =>
    rw [renderItems, renderItems, String.intercalate_cons_cons, ← renderItems, String.toList_append,
      String.toList_append, List.append_assoc, List.append_assoc]
    exact items?_cons (written?_render item (endsNumber_of_separator (.inl rfl) _)) (items?_render next items rest)
termination_by sizeOf (item :: items)

/-- The members of an object are read back. -/
theorem members?_render (key : String) (value : Json) (members : Members) (rest : List Char) :
    Cut.Gives (members? ((",".intercalate (renderMembers ((key, value) :: members))).toList ++ '\x7d' :: rest))
      (writtenMembers ((key, value) :: members)) rest := by
  match members with
  | [] =>
    rw [renderMembers, renderMembers, String.intercalate_singleton, toList_member]
    exact members?_last (stringTail?_text key _)
      (written?_render value (endsNumber_of_separator (.inr (.inr rfl)) rest))
  | (nextKey, next) :: members =>
    rw [renderMembers, renderMembers, String.intercalate_cons_cons, ← renderMembers, String.toList_append,
      List.append_assoc, String.toList_append, List.append_assoc, toList_member]
    exact members?_cons (stringTail?_text key _) (written?_render value (endsNumber_of_separator (.inl rfl) _))
      (members?_render nextKey next members rest)
termination_by sizeOf ((key, value) :: members)

end

end SurveyFlow
