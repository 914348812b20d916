import SurveyFlow.CommandLine.Run

/-!
# Selecting an iteration on the command line

An iteration is named by its set and its index with a colon between them (`selector`). No two iterations share a name,
since the index is what is behind the last colon (`selector_injective`). But a name is taken apart at its first colon,
so it is read back if and only if the set has no colon itself (`readSelector_selector`, `readSelector_of_colon`), and
the command `eval` reaches the iterations of such sets only (`addressed_iff_no_colon`).
-/

namespace SurveyFlow

/-! ## Indexes in decimal -/

/-- The decimal digits of a number are read as that number. -/
theorem digitsValue_toDigits (n : Nat) : digitsValue (Nat.toDigits 10 n) = n :=
  Nat.ofDigitChars_toDigits (by decide) (by decide)

theorem isDigit_of_mem_toDigits {n : Nat} {c : Char} (mem : c ∈ Nat.toDigits 10 n) : c.isDigit = true :=
  Nat.isDigit_of_mem_toDigits (by decide) (by decide) mem

theorem toList_toString (n : Nat) : (toString n).toList = Nat.toDigits 10 n :=
  Nat.toList_repr

/-- An index that fits 64 bits is read back from its decimal digits: they have no sign to be taken off, and are digits
only. -/
theorem unsigned?_toString {n : Nat} (small : n < bitBound 64) : unsigned? (toString n) = some n := by
  have all : (Nat.toDigits 10 n).all Char.isDigit = true := List.all_eq_true.2 fun _ => isDigit_of_mem_toDigits
  unfold unsigned?
  rw [toList_toString]
  extract_lets unsigned
  have same : unsigned = Nat.toDigits 10 n := by
    unfold unsigned
    split
    -- A plus would be among the digits.
    next rest sign =>
      have plus : '+' ∈ Nat.toDigits 10 n := sign ▸ List.mem_cons_self
      cases isDigit_of_mem_toDigits plus
    next => rfl
  simp only [same, digitsValue_toDigits]
  exact if_pos ⟨Nat.toDigits_ne_nil, all, small⟩

/-- Nothing with a colon is an index. -/
theorem unsigned?_of_colon {text : String} (colon : ':' ∈ text.toList) : unsigned? text = none := by
  unfold unsigned?
  refine if_neg fun ⟨_, all, _⟩ => ?_
  split at all
  -- The colon stands behind a plus, too, which is all that is taken off.
  next rest sign =>
    rw [sign] at colon
    cases List.all_eq_true.1 all ':' (List.mem_of_ne_of_mem (by decide) colon)
  next => cases List.all_eq_true.1 all ':' colon

/-! ## Up to a separator -/

section

variable {separator : Char} {before : List Char} (first : separator ∉ before) (after : List Char)

include first

/-- Before the first separator stands what is before it. -/
theorem takeWhile_of_first : (before ++ separator :: after).takeWhile (· ≠ separator) = before := by
  have kept : ∀ c ∈ before, decide (c ≠ separator) = true := fun c mem =>
    decide_eq_true fun same => first (same ▸ mem)
  rw [List.takeWhile_append_of_pos kept, List.takeWhile_cons_of_neg (by simp), List.append_nil]

theorem dropWhile_of_first : (before ++ separator :: after).dropWhile (· ≠ separator) = separator :: after := by
  have kept : ∀ c ∈ before, decide (c ≠ separator) = true := fun c mem =>
    decide_eq_true fun same => first (same ▸ mem)
  rw [List.dropWhile_append_of_pos kept, List.dropWhile_cons_of_neg (by simp)]

end

/-! ## Errors of an evaluation -/

/-- A sequence fails with its first part or with its second one. -/
theorem error_of_bind {ε α β : Type} {x : Except ε α} {f : α → Except ε β} {e : ε} (h : (x >>= f) = .error e) :
    x = .error e ∨ ∃ a, f a = .error e := by
  cases x with
  | error e' => exact .inl (congrArg Except.error (Except.error.inj h))
  | ok a => exact .inr ⟨a, h⟩

/-- An error that was translated is the translation of a cause. -/
theorem error_of_mapError {ε ε' α : Type} {x : Except ε α} {f : ε → ε'} {e : ε'} (h : x.mapError f = .error e) :
    ∃ cause, e = f cause := by
  cases x with
  | error cause => exact ⟨cause, (Except.error.inj h).symm⟩
  | ok a => cases h

/-- What evaluating a condition can fail for: the condition, or the survey with its upload. -/
theorem evaluateResponse_error {survey : Definition} {response : Response} {iteration : Option (String × Nat)}
    {condition : String} {e : Failure} (failed : evaluateResponse survey response iteration condition = .error e) :
    (∃ cause, e = .condition cause) ∨ ∃ cause, e = .survey cause := by
  unfold evaluateResponse at failed
  rcases error_of_bind failed with parse | ⟨sentence, failed⟩
  · exact .inl (error_of_mapError parse)
  rcases error_of_bind failed with new | ⟨whole, failed⟩
  · exact .inr (error_of_mapError new)
  -- In an iteration there is one more thing to fail: the set or the index.
  rcases iteration with _ | ⟨set, index⟩
  · exact .inl (error_of_mapError failed)
  rcases error_of_bind failed with enter | ⟨scope, evaluate⟩
  · exact .inr (error_of_mapError enter)
  · exact .inl (error_of_mapError evaluate)

namespace CommandLine

/-! ## Selectors -/

/-- The name of an iteration on the command line. -/
def selector (set : String) (index : Nat) : String :=
  set ++ ":" ++ toString index

/-- A selector is read by what is before and behind its first colon. -/
theorem readSelector_of_split {text : String} {before after : List Char} (split : text.toList = before ++ ':' :: after)
    (first : ':' ∉ before) :
    readSelector text = match unsigned? (String.ofList after) with
      | some n => .ok (String.ofList before, n)
      | none => .error ("Invalid iteration index '" ++ String.ofList after ++ "'") := by
  unfold readSelector
  dsimp only
  rewrite [split, takeWhile_of_first first, dropWhile_of_first first]
  rfl

/-- The characters of a selector: the set, a colon and the digits of the index. -/
theorem toList_selector (set : String) (index : Nat) :
    (selector set index).toList = set.toList ++ ':' :: (toString index).toList := by
  simp [selector]

/-- **A set without a colon is read back,** and so is the index. -/
theorem readSelector_selector {set : String} {index : Nat} (plain : ':' ∉ set.toList) (small : index < bitBound 64) :
    readSelector (selector set index) = .ok (set, index) := by
  rw [readSelector_of_split (toList_selector set index) plain, String.ofList_toList, String.ofList_toList,
    unsigned?_toString small]

/-- The first colon of a set with colons ends what is read as the set, and the rest is no index. -/
theorem readSelector_of_colon {set : String} {before after : List Char} (split : set.toList = before ++ ':' :: after)
    (first : ':' ∉ before) (index : Nat) :
    readSelector (selector set index) =
      .error ("Invalid iteration index '" ++ selector (String.ofList after) index ++ "'") := by
  -- What is behind the first colon is the selector of the rest of the set.
  have whole : (selector set index).toList = before ++ ':' :: (selector (String.ofList after) index).toList := by
    rw [toList_selector, toList_selector, split, String.toList_ofList, List.append_assoc, List.cons_append]
  have colon : ':' ∈ (selector (String.ofList after) index).toList := by
    rw [toList_selector]
    exact List.mem_append_right _ List.mem_cons_self
  rw [readSelector_of_split whole first, String.ofList_toList, unsigned?_of_colon colon]

theorem colon_not_mem_toString (n : Nat) : ':' ∉ (toString n).toList := by
  rw [toList_toString]
  intro colon
  cases isDigit_of_mem_toDigits colon

/-- A selector names one iteration only: the index is what is behind its last colon. -/
theorem selector_injective {set set' : String} {index index' : Nat} (same : selector set index = selector set' index') :
    set = set' ∧ index = index' := by
  -- Read from behind, the index comes first, and it ends at the first colon.
  have reversed := congrArg (fun text => text.toList.reverse) same
  simp only [toList_selector, List.reverse_append, List.reverse_cons, List.append_assoc,
    List.singleton_append] at reversed
  have plain : ∀ n : Nat, ':' ∉ (toString n).toList.reverse := fun n => by
    rw [List.mem_reverse]
    exact colon_not_mem_toString n
  have sets := congrArg (List.dropWhile (· ≠ ':')) reversed
  have indexes := congrArg (List.takeWhile (· ≠ ':')) reversed
  rw [dropWhile_of_first (plain _), dropWhile_of_first (plain _)] at sets
  rw [takeWhile_of_first (plain _), takeWhile_of_first (plain _)] at indexes
  have digits := List.reverse_inj.1 indexes
  rw [toList_toString, toList_toString] at digits
  refine ⟨String.toList_injective (List.reverse_inj.1 (List.cons.inj sets).2), ?_⟩
  rw [← digitsValue_toDigits index, digits, digitsValue_toDigits]

/-! ## How an evaluation ends -/

/-- A run ends as an evaluation does: with the value printed, or with the wording of the error. -/
inductive EndsAs : Except Failure Bool → Exit → Prop where
  | value (b : Bool) : EndsAs (.ok b) (.success (toString b ++ "\n"))
  | error {e : Failure} {text : String} : e.message? = some text → EndsAs (.error e) (.failure "" text)

/-- A run that ends as a failed evaluation does has the wording of its error. -/
theorem EndsAs.message {e : Failure} {output message : String} (ends : EndsAs (.error e) (.failure output message)) :
    e.message? = some message := by
  cases ends with
  | error worded => exact worded

/-- No evaluation ends with the complaint about a selector. -/
theorem not_endsAs_invalid_index {survey : Definition} {response : Response} {iteration : Option (String × Nat)}
    {condition index : String} : ¬EndsAs (evaluateResponse survey response iteration condition)
      (.failure "" ("Invalid iteration index '" ++ index)) := by
  intro ends
  rcases outcome : evaluateResponse survey response iteration condition with e | b
  · rw [outcome] at ends
    have worded := ends.message
    -- The wordings of conditions and surveys begin differently.
    rcases evaluateResponse_error outcome with ⟨cause, rfl⟩ | ⟨cause, rfl⟩
    · have texts := congrArg String.toList (Option.some.inj worded)
      simp at texts
    · have texts := congrArg String.toList (Option.some.inj worded)
      simp at texts
  · rw [outcome] at ends
    cases ends

/-- An evaluation in an iteration reads the selector first. -/
theorem runEval_some (survey : Definition) (response : Response) (condition text : String) :
    runEval survey response condition (some text) = match readSelector text with
      | .error message => .failure "" message
      | .ok iteration => match evaluateResponse survey response (some iteration) condition with
        | .ok value => .success (printed [if value then "true" else "false"])
        | .error e => .failure "" (e.message?.getD "") := by
  unfold runEval
  dsimp only
  cases readSelector text <;> rfl

/-- An evaluation whose selector can be read prints what the evaluation in that iteration gives. -/
theorem runEval_endsAs {text : String} {iteration : String × Nat} (read : readSelector text = .ok iteration)
    (survey : Definition) (response : Response) (condition : String) :
    EndsAs (evaluateResponse survey response (some iteration) condition)
      (runEval survey response condition (some text)) := by
  rw [runEval_some, read]
  dsimp only
  rcases outcome : evaluateResponse survey response (some iteration) condition with e | b
  · -- Both kinds of errors that an evaluation has are worded.
    obtain ⟨message, worded⟩ : ∃ message, e.message? = some message := by
      rcases evaluateResponse_error outcome with ⟨_, rfl⟩ | ⟨_, rfl⟩ <;> exact ⟨_, rfl⟩
    dsimp only
    rw [worded]
    exact .error worded
  · cases b
    · exact .value false
    · exact .value true

/-- An evaluation whose selector cannot be read ends with what is wrong with it. -/
theorem runEval_of_unread {text message : String} (unread : readSelector text = .error message)
    (survey : Definition) (response : Response) (condition : String) :
    runEval survey response condition (some text) = .failure "" message := by
  rw [runEval_some, unread]

/-! ## Runs -/

/-- What a run of `eval` finds: variables and settings that can be read, and a survey and a response in their files. -/
structure Finds (read : String → Id (Option ByteArray)) (envFiles : List String) (env : Environment)
    (config : Option String) (surveyPath responsePath : String) (survey : Definition) (response : Response) : Prop where
  settings : ∃ env' settings, env.addFile? ((readFirst read envFiles).getD .empty) = some env' ∧
    Settings.load read (fun name => env'.lookup name) (config <|> env'.lookup configVariable) = .ok settings
  survey : Definition.load read surveyPath = .ok survey
  response : Response.load read responsePath = .ok response

/-- A run that finds everything it needs is the evaluation that was asked for. -/
theorem run_eval {read : String → Id (Option ByteArray)} {envFiles : List String} {env : Environment}
    {config : Option String} {surveyPath responsePath : String} {survey : Definition} {response : Response}
    (finds : Finds read envFiles env config surveyPath responsePath survey response) {args : List String}
    {condition : String} {selector : Option String}
    (asked : readArguments args = some (.run ⟨config, .eval condition surveyPath responsePath selector⟩)) :
    run read envFiles env args = runEval survey response condition selector := by
  obtain ⟨⟨env', settings, assigned, loaded⟩, surveyFile, responseFile⟩ := finds
  simp only [run, runCommand, withSurvey, withResponse, bind, assigned, asked, loaded, surveyFile, responseFile]
  rfl

/-! ## Arguments -/

/-- An option with its value attached. -/
def Switch.attached (s : Switch) (value : String) : String :=
  "--" ++ s.long ++ "=" ++ value

/-- No option has an equals sign in its name. -/
theorem Switch.equals_not_mem_long (s : Switch) : '=' ∉ s.long.toList := by
  cases s <;> decide

/-- An option of the level is noted with what is behind its equals sign. -/
theorem readName_attached {level : Level} {s : Switch}
    (listed : level.switches.find? (fun other => other.long == s.long) = some s) (valued : s.takesValue = true)
    (given : Given) (value : List Char) :
    readName level given (s.long.toList ++ '=' :: value) = (given.note s (String.ofList value)).map (·, none) := by
  unfold readName
  dsimp only
  rw [takeWhile_of_first s.equals_not_mem_long, dropWhile_of_first s.equals_not_mem_long, String.ofList_toList, listed]
  exact if_pos valued

/-- A word at a level without a place for one begins the level below. -/
theorem readLevel_word {level : Level} (given : Given) {arg : String} (rest : List String) (inside : arg ≠ "--")
    (word : looksLikeSwitch arg = false) (noPlace : level.positional = false) :
    readLevel level given (arg :: rest) = .ok (given, arg :: rest) := by
  unfold readLevel
  rw [if_neg inside, if_neg (by simp [word]), if_neg (by simp [noPlace])]

/-- What is behind `--` takes the place of the level, whatever it looks like. -/
theorem readLevel_behind {level : Level} (given : Given) (arg : String) (place : level.positional = true)
    (free : given.positional = none) :
    readLevel level given ["--", arg] = .ok (⟨given.values, some arg⟩, []) := by
  have placed : given.place level arg = .ok ⟨given.values, some arg⟩ := by
    unfold Given.place
    rw [place, free]
    rfl
  unfold readLevel
  rw [if_pos rfl, List.foldlM_cons, placed]
  rfl

/-- An option is read, and then what is behind it. -/
theorem readLevel_switch {level : Level} {given given' : Given} {arg : String} (rest : List String)
    (inside : arg ≠ "--") (isSwitch : looksLikeSwitch arg = true)
    (read : readSwitch level given arg = .ok (given', none)) :
    readLevel level given (arg :: rest) = readLevel level given' rest := by
  conv => lhs; unfold readLevel
  rw [if_neg inside, if_pos isSwitch, read]

/-- An option is noted if it is new and its value is not missing. -/
theorem Given.note_new (given : Given) (s : Switch) (value : String) (valued : s.takesValue = true)
    (new : given.values.lookup s = none) (filled : (s.isPath && value.isEmpty) = false) :
    given.note s value = .ok ⟨(s, value) :: given.values, given.positional⟩ := by
  have accepted : ¬((given.values.lookup s).isSome || (s.isPath && value.isEmpty)) = true := by
    rw [new, filled]
    decide
  cases s with
  | config | survey | responses | iteration => exact if_neg accepted
  | json | help | version => cases valued

/-- An option with its value is noted, and the reading goes on behind it. -/
theorem readLevel_attached {level : Level} {s : Switch} {given given' : Given} {value : String}
    (listed : level.switches.find? (fun other => other.long == s.long) = some s) (valued : s.takesValue = true)
    (noted : given.note s value = .ok given') (rest : List String) :
    readLevel level given (s.attached value :: rest) = readLevel level given' rest := by
  have chars : (s.attached value).toList = '-' :: '-' :: (s.long.toList ++ '=' :: value.toList) := by
    simp [Switch.attached]
  -- It is not the `--` that ends the options, it looks like one, and it is read by its name.
  refine readLevel_switch rest (fun same => ?_) ?_ ?_
  · have equals : '=' ∈ (s.attached value).toList := chars ▸ by simp
    rw [same] at equals
    revert equals
    decide
  · unfold looksLikeSwitch
    rw [chars]
    rfl
  · unfold readSwitch
    rw [chars]
    show readName level given (s.long.toList ++ '=' :: value.toList) = _
    rw [readName_attached listed valued, String.ofList_toList, noted]
    rfl

/-- The arguments of `eval` with a selector. The condition stands behind `--`, so that it may look like an option. -/
def evalArguments (surveyPath responsePath selector condition : String) : List String :=
  ["eval", Switch.survey.attached surveyPath, Switch.responses.attached responsePath,
    Switch.iteration.attached selector, "--", condition]

/-- **The arguments of `eval` are read** as that command with that selector. -/
theorem readArguments_evalArguments {surveyPath responsePath : String} (surveyNamed : surveyPath ≠ "")
    (responseNamed : responsePath ≠ "") (selector condition : String) :
    readArguments (evalArguments surveyPath responsePath selector condition) =
      some (.run ⟨none, .eval condition surveyPath responsePath (some selector)⟩) := by
  have surveyFilled : (Switch.survey.isPath && surveyPath.isEmpty) = false := by simp [surveyNamed]
  have responseFilled : (Switch.responses.isPath && responsePath.isEmpty) = false := by simp [responseNamed]
  -- Each option is new to those before it, and the paths are not empty.
  have options : readLevel ⟨[.survey, .responses, .iteration, .config, .help], true⟩ ⟨[], none⟩
      [Switch.survey.attached surveyPath, Switch.responses.attached responsePath, Switch.iteration.attached selector,
        "--", condition] =
      .ok (⟨[(.iteration, selector), (.responses, responsePath), (.survey, surveyPath)], some condition⟩, []) := by
    rw [readLevel_attached rfl rfl (Given.note_new _ .survey _ rfl rfl surveyFilled),
      readLevel_attached rfl rfl (Given.note_new _ .responses _ rfl rfl responseFilled),
      readLevel_attached rfl rfl (Given.note_new _ .iteration selector rfl rfl rfl), readLevel_behind _ _ rfl rfl]
  have named : commandLevels.lookup "eval" = some ⟨[.survey, .responses, .iteration, .config, .help], true⟩ := rfl
  unfold readArguments evalArguments
  rw [readLevel_word ⟨[], none⟩ _ (by decide) (by decide) rfl]
  dsimp only
  rw [if_neg (by decide), named]
  dsimp only
  rw [options]
  rfl

/-! ## Iterations on the command line -/

/-- **The command line reaches the iterations of sets without a colon.** Asked for an iteration, a run ends as the
evaluation in that iteration if and only if the name of the set has no colon; otherwise it complains about the index. -/
theorem addressed_iff_no_colon {read : String → Id (Option ByteArray)} {envFiles : List String} {env : Environment}
    {config : Option String} {surveyPath responsePath : String} {survey : Definition} {response : Response}
    (finds : Finds read envFiles env config surveyPath responsePath survey response) {set : String} {index : Nat}
    (small : index < bitBound 64) {condition : String} {args : List String}
    (asked : readArguments args =
      some (.run ⟨config, .eval condition surveyPath responsePath (some (selector set index))⟩)) :
    (EndsAs (evaluateResponse survey response (some (set, index)) condition) (run read envFiles env args) ↔
      ':' ∉ set.toList) ∧
    ∀ before after, set.toList = before ++ ':' :: after → ':' ∉ before → run read envFiles env args =
      .failure "" ("Invalid iteration index '" ++ selector (String.ofList after) index ++ "'") := by
  rw [run_eval finds asked]
  have complaint : ∀ before after, set.toList = before ++ ':' :: after → ':' ∉ before →
      runEval survey response condition (some (selector set index)) =
        .failure "" ("Invalid iteration index '" ++ selector (String.ofList after) index ++ "'") :=
    fun before after split first => runEval_of_unread (readSelector_of_colon split first index) _ _ _
  refine ⟨⟨fun ends colon => ?_, fun plain => runEval_endsAs (readSelector_selector plain small) _ _ _⟩, complaint⟩
  -- A set with a colon has a first one, and then the run ends with a complaint that no evaluation makes.
  obtain ⟨before, after, split, first⟩ := List.eq_append_cons_of_mem colon
  rw [complaint before after split first, String.append_assoc] at ends
  exact not_endsAs_invalid_index ends

/-- The files of a survey of meals, with breakfasts in a set whose name has a colon, and of a response. -/
def mealFiles (path : String) : Id (Option ByteArray) :=
  if path = "s.yaml" then some (
    "id: x\nitems:\n" ++
    "- kind: repeatable_set\n  id: m\n  prompts:\n  - id: c\n    type: number\n" ++
    "- kind: repeatable_set\n  id: m:b\n  prompts:\n  - id: c\n    type: number\n").toUTF8
  else if path = "r.json" then some (
    "\x7b\"survey_id\":\"x\",\"responses\":\x7b\"m\":[\x7b\"c\":600\x7d]," ++
    "\"m:b\":[\x7b\"c\":300\x7d,\x7b\"c\":900\x7d]\x7d\x7d").toUTF8
  else none

/-- The survey in these files. -/
def mealSurvey : Definition :=
  ⟨"x", none, [.set ⟨"m", none, [⟨"c", .number, none, false, []⟩]⟩,
    .set ⟨"m:b", none, [⟨"c", .number, none, false, []⟩]⟩]⟩

theorem ok_of_toOption {ε α : Type} {x : Except ε α} {a : α} (h : x.toOption = some a) : x = .ok a := by
  cases x with
  | error e => cases h
  | ok b => exact congrArg Except.ok (Option.some.inj h)

/-- The files are found, and in the second breakfast more than 500 calories. -/
theorem finds_mealFiles : ∃ response, Finds mealFiles [] [] none "s.yaml" "r.json" mealSurvey response ∧
    evaluateResponse mealSurvey response (some ("m:b", 1)) "c>500" = .ok true := by
  have surveyFile : (Definition.load mealFiles "s.yaml").toOption = some mealSurvey := by decide +kernel
  have responseFile : ((Response.load mealFiles "r.json").toOption.bind fun response =>
      (evaluateResponse mealSurvey response (some ("m:b", 1)) "c>500").toOption) = some true := by decide +kernel
  obtain ⟨response, loaded, above⟩ := Option.bind_eq_some_iff.1 responseFile
  exact ⟨response, ⟨⟨[], .default, rfl, rfl⟩, ok_of_toOption surveyFile, ok_of_toOption loaded⟩, ok_of_toOption above⟩

/-- The first meal is reached. -/
theorem reaches_meal : ∃ response, Finds mealFiles [] [] none "s.yaml" "r.json" mealSurvey response ∧
    EndsAs (evaluateResponse mealSurvey response (some ("m", 0)) "c>500")
      (run mealFiles [] [] (evalArguments "s.yaml" "r.json" (selector "m" 0) "c>500")) := by
  obtain ⟨response, finds, _⟩ := finds_mealFiles
  refine ⟨response, finds, (addressed_iff_no_colon finds ?_ (readArguments_evalArguments ?_ ?_ _ _)).1.2 ?_⟩ <;> decide

/-- The second breakfast has more than 500 calories, and yet the run fails. -/
theorem misses_breakfast : ∃ response, Finds mealFiles [] [] none "s.yaml" "r.json" mealSurvey response ∧
    (mealSurvey.set? "m:b").isSome = true ∧ evaluateResponse mealSurvey response (some ("m:b", 1)) "c>500" = .ok true ∧
    run mealFiles [] [] (evalArguments "s.yaml" "r.json" (selector "m:b" 1) "c>500") =
      .failure "" "Invalid iteration index 'b:1'" ∧
    ¬EndsAs (evaluateResponse mealSurvey response (some ("m:b", 1)) "c>500")
      (run mealFiles [] [] (evalArguments "s.yaml" "r.json" (selector "m:b" 1) "c>500")) := by
  obtain ⟨response, finds, above⟩ := finds_mealFiles
  have complaint : run mealFiles [] [] (evalArguments "s.yaml" "r.json" (selector "m:b" 1) "c>500") =
      .failure "" "Invalid iteration index 'b:1'" := by
    rw [run_eval finds (readArguments_evalArguments (by decide) (by decide) _ _)]
    have split : "m:b".toList = ['m'] ++ ':' :: ['b'] := rfl
    exact runEval_of_unread (readSelector_of_colon split (by decide) 1) _ _ _
  refine ⟨response, finds, rfl, above, complaint, ?_⟩
  rw [complaint, above]
  nofun

end CommandLine

end SurveyFlow
