import SurveyFlow.Yaml.Scalar

/-!
# YAML text: nodes

A text is a tree of scalars, sequences and mappings. Collections are written in brackets, or by layout: the
entries of one collection begin at the same column, each on a line of its own, and what belongs to an entry
stands further right. A sequence that is the value of a key may begin at the column of the key. A key stands
on one line with its colon and not far from it, and a collection by layout does not begin behind a colon on
the same line.
-/

namespace SurveyFlow.Yaml

/-- A tree as written. What scalars mean is not decided here. -/
inductive Node where
  | scalar (value : Scalar)
  | sequence (items : List Node)
  | mapping (entries : List (Node × Node))

/-- What stands where nothing is written. -/
def Node.empty : Node :=
  .scalar ⟨true, ""⟩

/-! ## Keys -/

/-- How many bytes there may be from the start of a key to its colon. -/
def keyLimit : Nat := 1024

/-- A node that starts at the first place may be the key of a colon at the second. -/
def isKeyOf (start colon : Mark) : Bool :=
  colon.line = start.line && colon.offset ≤ start.offset + keyLimit

/-! ## Collections in brackets -/

mutual

/-- Reads a scalar or a collection in brackets; `inside` says that it stands in brackets itself. -/
def flowNode? (inside : Bool) (least : Nat) (ms : List Mark) : Cut ms Node :=
  match ms with
  | [] => none
  | m :: rest =>
    if m.char = '[' then
      Cut.weaken (by simp) <| (flowEntries? least ']' rest).map fun (entries, after) =>
        (.sequence (entries.map fun (key, value) => match value with
          | none => key
          | some value => .mapping [(key, value)]), after)
    else if m.char = '\x7b' then
      Cut.weaken (by simp) <| (flowEntries? least '\x7d' rest).map fun (entries, after) =>
        (.mapping (entries.map fun (key, value) => (key, value.getD .empty)), after)
    else (scalar? inside least (m :: rest)).map fun (value, after) => (.scalar value, after)
termination_by 5 * ms.length + 0
decreasing_by all_goals (simp only [List.length_cons] at *; omega)

/-- Reads the entries of a collection in brackets up to its closing one. An entry is a node, with a value
if a colon follows it; a comma may follow the last entry. -/
def flowEntries? (least : Nat) (closing : Char) (ms : List Mark) : Cut ms (List (Node × Option Node)) :=
  match h : skipGap .inBrackets false ms with
  | [] => none
  | m :: rest =>
    have here : (m :: rest).length ≤ ms.length := h ▸ length_skipGap_le .inBrackets false ms
    if m.char = closing then some ([], ⟨rest, by simp only [List.length_cons] at here; omega⟩)
    else
      match flowNode? true least (m :: rest) with
      | none => none
      | some (key, ⟨afterKey, shorterKey⟩) =>
        match flowValue? least closing m afterKey with
        | none => none
        | some (value, ⟨after, shorter⟩) =>
          match hn : skipGap .inBrackets false after with
          | [] => none
          | n :: more =>
            have there : (n :: more).length ≤ after.length := hn ▸ length_skipGap_le .inBrackets false after
            if n.char = closing then
              some ([(key, value)], ⟨more, by simp only [List.length_cons] at *; omega⟩)
            else if n.char = ',' then
              Cut.weaken (by simp only [List.length_cons] at *; omega)
                ((flowEntries? least closing more).map fun (entries, end_) => ((key, value) :: entries, end_))
            else none
termination_by 5 * ms.length + 2
decreasing_by all_goals (simp only [List.length_cons] at *; omega)

/-- Reads the value behind the colon that may follow a node, which must be one that may be a key. Nothing
written behind the colon is an empty value. -/
def flowValue? (least : Nat) (closing : Char) (start : Mark) (ms : List Mark) : Trim ms (Option Node) :=
  match h : skipGap .inBrackets false ms with
  | [] => some (none, ⟨ms, Nat.le_refl _⟩)
  | m :: rest =>
    have here : (m :: rest).length ≤ ms.length := h ▸ length_skipGap_le .inBrackets false ms
    if m.char ≠ ':' then some (none, ⟨ms, Nat.le_refl _⟩)
    else if !isKeyOf start m then none
    else
      match hv : skipGap .inBrackets false rest with
      | [] => none
      | n :: more =>
        have there : (n :: more).length ≤ rest.length := hv ▸ length_skipGap_le .inBrackets false rest
        if n.char = ',' || n.char = closing then
          some (some .empty, ⟨n :: more, by simp only [List.length_cons] at *; omega⟩)
        else
          Cut.toTrim (by simp only [List.length_cons] at *; omega)
            ((flowNode? true least (n :: more)).map fun (value, after) => (some value, after))
termination_by 5 * ms.length + 1
decreasing_by all_goals (simp only [List.length_cons] at *; omega)

end

/-! ## Collections by layout -/

/-- The characters at the front are a hyphen and a gap, which begin an entry of a sequence. -/
def startsItem : List Mark → Bool
  | [] => false
  | m :: rest => m.char = '-' && atGap rest

/-- What follows a node that could be a key. -/
inductive AfterKey (ms : List Mark) where
  /-- No colon. -/
  | noColon
  /-- A colon that makes the node a key, and what stands behind it. -/
  | colon (rest : { rest : List Mark // rest.length < ms.length })
  /-- A colon of which the node may not be the key. -/
  | misplaced

/-- Looks for a colon behind a node that starts at the given place. -/
def afterKey (start : Mark) (ms : List Mark) : AfterKey ms :=
  match h : ms.dropWhile fun m => isSpace m.char with
  | [] => .noColon
  | m :: rest =>
    if m.char = ':' && atGap rest then
      if isKeyOf start m then
        .colon ⟨rest, by
          have : (ms.dropWhile fun m => isSpace m.char).length ≤ ms.length :=
            (List.dropWhile_suffix _).length_le
          rw [h, List.length_cons] at this
          omega⟩
      else .misplaced
    else .noColon

mutual

/-- Reads a node outside of brackets. Its lines begin at the column `least` or right of it; `inline` says
that it may not be a collection by layout. -/
def node? (least : Nat) (inline : Bool) (ms : List Mark) : Cut ms Node :=
  match ms with
  | [] => none
  | m :: rest =>
    if startsItem (m :: rest) then
      if inline then none
      else (sequence? m.column false (m :: rest)).map fun (items, after) => (.sequence items, after)
    else
      match flowNode? false least (m :: rest) with
      | none => none
      | some (first, ⟨after, shorter⟩) =>
        match afterKey m after with
        | .noColon => some (first, ⟨after, shorter⟩)
        | .misplaced => none
        | .colon ⟨behind, _⟩ =>
          if inline then none
          else
            Trim.toCut (by omega)
              ((mapping? m.column first behind).map fun (entries, end_) => (.mapping entries, end_))
termination_by 5 * ms.length + 2
decreasing_by all_goals (simp only [List.length_cons] at *; omega)

/-- Reads the items of a sequence whose hyphens stand at `column`, the first of them at the front. A
sequence at the column of its key may be followed there by another key. -/
def sequence? (column : Nat) (atKey : Bool) (ms : List Mark) : Cut ms (List Node) :=
  match ms with
  | [] => none
  | _ :: rest =>
    match itemValue? column rest with
    | none => none
    | some (item, ⟨after, shorter⟩) =>
      match h : skipGap .elsewhere false after with
      | [] => some ([item], ⟨[], by simp⟩)
      | n :: more =>
        have here : (n :: more).length ≤ after.length := h ▸ length_skipGap_le .elsewhere false after
        if !n.fresh then none
        else if n.column = column && startsItem (n :: more) then
          Cut.weaken (by simp only [List.length_cons] at *; omega)
            ((sequence? column atKey (n :: more)).map fun (items, end_) => (item :: items, end_))
        else if n.column < column || (n.column = column && atKey) then
          some ([item], ⟨n :: more, by simp only [List.length_cons] at *; omega⟩)
        else none
termination_by 5 * ms.length + 1
decreasing_by all_goals (simp only [List.length_cons] at *; omega)

/-- Reads an item behind its hyphen. An item of which nothing is written is empty. -/
def itemValue? (column : Nat) (ms : List Mark) : Trim ms Node :=
  match h : skipGap .behindHyphen false ms with
  | [] => some (.empty, ⟨[], by simp⟩)
  | m :: rest =>
    have here : (m :: rest).length ≤ ms.length := h ▸ length_skipGap_le .behindHyphen false ms
    if m.fresh && m.column ≤ column then some (.empty, ⟨m :: rest, here⟩)
    else Cut.toTrim here (node? (column + 1) false (m :: rest))
termination_by 5 * ms.length + 3
decreasing_by all_goals (simp only [List.length_cons] at *; omega)

/-- Reads the value behind the colon of a key at `column`. -/
def keyValue? (column : Nat) (ms : List Mark) : Trim ms Node :=
  match h : skipGap .elsewhere false ms with
  | [] => some (.empty, ⟨[], by simp⟩)
  | m :: rest =>
    have here : (m :: rest).length ≤ ms.length := h ▸ length_skipGap_le .elsewhere false ms
    if !m.fresh then Cut.toTrim here (node? (column + 1) true (m :: rest))
    else if column < m.column then Cut.toTrim here (node? (column + 1) false (m :: rest))
    else if m.column = column && startsItem (m :: rest) then
      Cut.toTrim here
        ((sequence? column true (m :: rest)).map fun (items, after) => (.sequence items, after))
    else some (.empty, ⟨m :: rest, here⟩)
termination_by 5 * ms.length + 3
decreasing_by all_goals (simp only [List.length_cons] at *; omega)

/-- Reads the entries of a mapping whose keys begin at `column`, the first of which has been read up to its
colon. -/
def mapping? (column : Nat) (key : Node) (ms : List Mark) : Trim ms (List (Node × Node)) :=
  match keyValue? column ms with
  | none => none
  | some (value, ⟨after, shorter⟩) =>
    match h : skipGap .elsewhere false after with
    | [] => some ([(key, value)], ⟨[], by simp⟩)
    | m :: rest =>
      have here : (m :: rest).length ≤ after.length := h ▸ length_skipGap_le .elsewhere false after
      if !m.fresh || column < m.column then none
      else if m.column < column then some ([(key, value)], ⟨m :: rest, by omega⟩)
      else if startsItem (m :: rest) then none
      else
        match flowNode? false (column + 1) (m :: rest) with
        | none => none
        | some (next, ⟨afterNext, shorterNext⟩) =>
          match afterKey m afterNext with
          | .noColon | .misplaced => none
          | .colon ⟨behind, _⟩ =>
            Trim.weaken (by simp only [List.length_cons] at *; omega)
              ((mapping? column next behind).map fun (entries, end_) => ((key, value) :: entries, end_))
termination_by 5 * ms.length + 4
decreasing_by
  · omega
  · simp only [List.length_cons] at *; omega

end

/-! ## Documents -/

/-- The lines of a text, each with its break. -/
def splitLines : List Char → List (List Char)
  | [] => []
  | c :: rest =>
    if isBreak c then [c] :: splitLines rest
    else match splitLines rest with
      | [] => [[c]]
      | line :: lines => (c :: line) :: lines

/-- A line that begins with the marker and a gap. -/
def isMarker (marker : String) (line : List Char) : Bool :=
  marker.toList.isPrefixOf line &&
    match line.drop marker.length with
    | [] => true
    | c :: _ => isSpace c || isBreak c

/-- A line, or the part of it behind a marker, with nothing on it but a comment. A tab is a blank only behind
a marker; a byte order mark may stand at the front. -/
def isIdle (behindMarker : Bool) (line : List Char) : Bool :=
  let line := if line.head? = some byteOrderMark then line.tail else line
  match line.dropWhile fun c => c = ' ' || (behindMarker && c = '\t') with
  | [] => true
  | c :: _ => isBreak c || c = '#'

/-- The line ends a document, and nothing else stands on it. -/
def isPlainEnd (line : List Char) : Bool :=
  isMarker "..." line && isIdle true (line.drop 3)

/-- The characters of the one document of a text in their places; nothing if there is more than one. A line
of three hyphens may begin the document, and one of three points may end it. -/
def document? (text : String) : Option (List Mark) := do
  guard (text.toList.all isAllowed)
  let lines := splitLines (unifyBreaks text.toList)
  let goesOn := fun line => !isMarker "---" line && !isMarker "..." line
  let (body, tail) ← match lines.dropWhile (isIdle false) with
    | [] => pure ([], [])
    | first :: rest =>
      if isMarker "---" first then
        pure (marks 0 3 3 false (first.drop 3 ++ (rest.takeWhile goesOn).flatten), rest.dropWhile goesOn)
      else if isMarker "..." first then none
      else pure (marks 0 0 0 true (lines.takeWhile goesOn).flatten, lines.dropWhile goesOn)
  match tail with
  | [] => return body
  | ending :: rest =>
    guard (isPlainEnd ending && rest.all fun line => isIdle false line || isPlainEnd line)
    return body

/-- Reads the node of a text. A text of which nothing is written is empty. -/
def Node.ofText? (text : String) : Option Node := do
  match skipGap .elsewhere false (← document? text) with
  | [] => return .empty
  | m :: rest =>
    let (root, ⟨after, _⟩) ← node? 0 (!m.fresh) (m :: rest)
    guard (skipGap .elsewhere false after).isEmpty
    return root

end SurveyFlow.Yaml
