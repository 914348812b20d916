import SurveyFlow.Text.Alphanumeric
import SurveyFlow.Text.CharClass

/-!
# Command line: variables

Variables come from the environment and from a file of assignments, which never changes a variable that is
set already. A line of the file is blank, a comment, or `NAME=value`, with an optional `export` before it.
Values may be quoted: between single quotes every character stands for itself; elsewhere a backslash escapes
and `$NAME` or a name in braces stands for the value of a variable. The first line that is none of these, or
no text at all, ends the reading; the assignments before it stay. A value that holds the character U+0000
cannot be set.
-/

namespace SurveyFlow

/-- Variables by name. -/
abbrev Environment := List (String × String)

/-! ## Values -/

/-- Where the reading of a value stands. `quoted` says that double quotes are open. -/
inductive ValueState where
  | plain (quoted : Bool)
  | single
  /-- Behind a backslash. -/
  | escaped (quoted : Bool)
  /-- In the name of a variable, behind `$`. -/
  | name (quoted : Bool) (name : List Char)
  /-- In the name of a variable between braces. -/
  | braced (quoted : Bool) (name : List Char)
  /-- Behind the value: blanks and a comment may follow. -/
  | done

/-- What a name between braces or behind `$` stands for; nothing is empty. The name is sought among texts
`NAME=value`, up to an equals sign, so one that has an equals sign itself goes on into a value. -/
def Environment.expand (env : Environment) (name : List Char) : List Char :=
  let found := env.findSome? fun (key, value) => (name ++ ['=']).isPrefixOf? (key.toList ++ '=' :: value.toList)
  found.getD []

/-- Reads one character of a value: the next state and what the value gains; nothing if it may not stand
here. The character that ends a name is taken as it is. -/
def ValueState.step (env : Environment) (c : Char) : ValueState → Option (ValueState × List Char)
  | done => if c = ' ' || c = '\t' then some (done, []) else none
  | escaped quoted =>
    if "\\'\"$ ".toList.contains c then some (plain quoted, [c])
    else if c = 'n' then some (plain quoted, ['\n'])
    else none
  | single => if c = '\'' then some (plain false, []) else some (single, [c])
  | name quoted chars =>
    if isAlphanumeric c then some (name quoted (chars ++ [c]), [])
    else if c = '\x7b' && chars.isEmpty then some (braced quoted [], [])
    else if c = '$' then some (name quoted [], env.expand chars)
    else some (plain quoted, env.expand chars ++ [c])
  | braced quoted chars =>
    if c = '\x7d' then some (plain quoted, env.expand chars) else some (braced quoted (chars ++ [c]), [])
  | plain quoted =>
    if c = '$' then some (name quoted [], [])
    else if c = '"' then some (plain (!quoted), [])
    else if c = '\\' then some (escaped quoted, [])
    else if quoted then some (plain quoted, [c])
    else if c = '\'' then some (single, [])
    else if c = ' ' || c = '\t' then some (done, [])
    else some (plain quoted, [c])

/-- What a value gains where its line ends; nothing if a quote or a brace is open. -/
def ValueState.finish (env : Environment) : ValueState → Option (List Char)
  | plain quoted | escaped quoted => if quoted then none else some []
  | name quoted chars => if quoted then none else some (env.expand chars)
  | done => some []
  | single | braced _ _ => none

/-- Reads a value. -/
def valueOf? (env : Environment) (state : ValueState) : List Char → Option (List Char)
  | [] => state.finish env
  | c :: cs =>
    match state, c with
    | .done, '#' => some []
    | _, _ => do
      let (next, gained) ← state.step env c
      let more ← valueOf? env next cs
      return gained ++ more

/-! ## Lines -/

/-- Reads the name of a variable off the front. -/
def takeName? (cs : List Char) : Option (String × List Char) :=
  let isNameChar := fun c : Char => c.isAlphanum || c = '_' || c = '.'
  match cs with
  | c :: _ =>
    if c.isAlpha || c = '_' then some (String.ofList (cs.takeWhile isNameChar), cs.dropWhile isNameChar)
    else none
  | [] => none

/-- Reads an equals sign, with blanks on both sides, off the front. -/
def takeEquals? (cs : List Char) : Option (List Char) :=
  match cs.dropWhile isBlank with
  | '=' :: rest => some (rest.dropWhile isBlank)
  | _ => none

/-- A line of the file: an assignment, or nothing to do. -/
inductive EnvLine where
  | nothing
  | assignment (name value : String)

/-- Reads a line. -/
def EnvLine.ofText? (env : Environment) (line : String) : Option EnvLine := do
  let cs := (trimBlanks line).toList
  match cs with
  | [] | '#' :: _ => return .nothing
  | _ =>
    let (first, rest) ← takeName? cs
    let (name, value) ← match first == "export", takeEquals? rest with
      | _, some value => pure (first, value)
      | false, none => none
      | true, none => do
        let (name, rest) ← takeName? (rest.dropWhile isBlank)
        pure (name, ← takeEquals? rest)
    match value with
    | [] | '#' :: _ => return .assignment name ""
    | _ => return .assignment name (String.ofList (← valueOf? env (.plain false) value))

/-- The variables after an assignment, which changes none that is set; nothing if the value cannot be set. -/
def Environment.assign? (env : Environment) (name value : String) : Option Environment :=
  if (env.lookup name).isSome then some env
  else if value.toList.contains '\x00' then none
  else some ((name, value) :: env)

/-- The variables after the lines of a file; nothing if one of the values cannot be set. -/
def Environment.addLines? (env : Environment) : List String → Option Environment
  | [] => some env
  | line :: lines =>
    match EnvLine.ofText? env line with
    | none => some env
    | some .nothing => env.addLines? lines
    | some (.assignment name value) => (env.assign? name value).bind fun env => env.addLines? lines

/-! ## Bytes -/

/-- The parts of a run of bytes between separators. -/
def splitBytes (separator : UInt8) : List UInt8 → List (List UInt8)
  | [] => [[]]
  | b :: bs =>
    if b = separator then [] :: splitBytes separator bs
    else match splitBytes separator bs with
      | [] => [[b]]
      | part :: parts => (b :: part) :: parts

/-- The lines of a file before the first that is no text. -/
def textLines (file : ByteArray) : List String :=
  let texts := (splitBytes 0x0A file.data.toList).map fun line => String.fromUTF8? ⟨line.toArray⟩
  (texts.takeWhile Option.isSome).filterMap id

/-- The variables after a file of assignments; nothing if one of the values cannot be set. -/
def Environment.addFile? (env : Environment) (file : ByteArray) : Option Environment :=
  env.addLines? (textLines file)

/-- A text `NAME=value` as a variable and its value. -/
def readVariable? (text : String) : Option (String × String) :=
  let cs := text.toList
  match cs.dropWhile (· ≠ '=') with
  | [] => none
  | _ :: value => some (String.ofList (cs.takeWhile (· ≠ '=')), String.ofList value)

/-- The variables of a block of texts `NAME=value` with a zero byte behind each; what is no text is left
out. -/
def Environment.ofBlock (block : ByteArray) : Environment :=
  (splitBytes 0 block.data.toList).filterMap fun entry => (String.fromUTF8? ⟨entry.toArray⟩).bind readVariable?

end SurveyFlow
