import ScriptAssist.Proofs.Command.Checking

namespace ScriptAssist

namespace Command

open Text

/-- What a single path alone lets a check exit with: two if there is no text to check, one if
something is found in the text, zero otherwise. -/
def pathCode (world : World) (source : String) (path : Path) : Nat :=
  match world.files path with
  | .file bytes =>
    match Utf8.decode bytes with
    | .ok text =>
      if ((Engine.builtIn source).validate .utf16 (unifyBreaks text)).findings = [] then 0 else 1
    | .error _ => 2
  | _ => 2

theorem textLines_append (first second : List String) :
    textLines (first ++ second) = textLines first ++ textLines second := by
  simp [textLines]

namespace Checked

section append

variable (first second third : Checked)

@[simp] theorem files_append : (first ++ second).files = first.files ++ second.files := rfl

@[simp] theorem errors_append : (first ++ second).errors = first.errors ++ second.errors := rfl

theorem lines_append : (first ++ second).lines = first.lines ++ second.lines := by
  simp [lines]

theorem append_assoc : first ++ second ++ third = first ++ (second ++ third) := by
  change Checked.mk _ _ = Checked.mk _ _
  simp

/-- A fault on either side counts two, whatever is found on the other. -/
theorem exitCode_append :
    (first ++ second).exitCode = max first.exitCode second.exitCode := by
  have faultless : (first.errors ++ second.errors).isEmpty =
      (first.errors.isEmpty && second.errors.isEmpty) := by
    cases first.errors <;> rfl
  simp only [exitCode, files_append, errors_append, faultless, List.any_append]
  cases first.errors.isEmpty <;> cases second.errors.isEmpty <;>
    cases first.files.any fun file => !file.2.isEmpty <;>
    cases second.files.any fun file => !file.2.isEmpty <;> rfl

end append

section ofPaths

variable (world : World) (source : String)

theorem ofPaths_append (ps qs : List Path) :
    ofPaths world source (ps ++ qs) = ofPaths world source ps ++ ofPaths world source qs := by
  induction ps with
  | nil => rfl
  | cons path ps ih =>
    calc ofPath world source path ++ ofPaths world source (ps ++ qs)
      _ = ofPath world source path ++ (ofPaths world source ps ++ ofPaths world source qs) := by
        rw [ih]
      _ = ofPath world source path ++ ofPaths world source ps ++ ofPaths world source qs :=
        (append_assoc _ _ _).symm

theorem exitCode_ofPath (path : Path) :
    (ofPath world source path).exitCode = pathCode world source path := by
  rw [ofPath, checkFile, readText, pathCode]
  cases world.files path with
  | missing => rfl
  | blocked => rfl
  | directory => rfl
  | file bytes =>
    cases decoded : Utf8.decode bytes with
    | error fault => simp [exitCode, Lookup.text, decoded]
    | ok text =>
      cases found : ((Engine.builtIn source).validate .utf16 (unifyBreaks text)).findings with
      | nil => simp [exitCode, Lookup.text, decoded, found]
      | cons finding findings => simp [exitCode, Lookup.text, decoded, found]

theorem exitCode_ofPaths (paths : List Path) :
    (ofPaths world source paths).exitCode =
      (paths.map (pathCode world source)).foldr max 0 := by
  induction paths with
  | nil => rfl
  | cons path paths ih =>
    rw [ofPaths, exitCode_append, exitCode_ofPath, ih]
    rfl

end ofPaths

/-- The line for a finding of a result in JSON. -/
def lineOf (path : String) (finding : Value) : String :=
  let start := finding.field "start"
  let line := (start.field "line").number + 1
  let column := (start.field "character").number + 1
  let source := (finding.field "source").text
  let message := (finding.field "message").text
  s!"{path}:{line}:{column}: {source} {message}"

/-- The lines for all findings of a result in JSON, in its order. -/
def linesOf (value : Value) : List String :=
  (value.field "files").items.flatMap fun file =>
    (file.field "findings").items.map (lineOf (file.field "path").text)

/-- The complaints of a result in JSON. -/
def errorsOf (value : Value) : List String :=
  (value.field "errors").items.map Value.text

theorem lineOf_findingValue (path : Path) (finding : Finding) :
    lineOf path.text (findingValue finding) = findingLine path finding := rfl

theorem linesOf_value (checked : Checked) : linesOf checked.value = checked.lines := by
  simp [linesOf, value, lines, Value.field, Value.items, Value.text, List.lookup_cons,
    List.flatMap_map, Function.comp_def, lineOf_findingValue]

theorem errorsOf_value (checked : Checked) : errorsOf checked.value = checked.errors := by
  simp [errorsOf, value, Value.field, Value.items, Value.text, List.lookup_cons, Function.comp_def]

end Checked

section run

variable {world : World} {config : Option Path} {settings : Settings}

theorem ofPaths_singleton (source : String) (path : Path) :
    Checked.ofPaths world source [path] = Checked.ofPath world source path := by
  rw [Checked.ofPaths, Checked.ofPaths]
  change Checked.mk _ _ = _
  simp

/-- No rule fails on a text that is read. -/
theorem ofPath_readable {path : Path} {text : List Char} (read : readText world path = .ok text)
    (source : String) :
    ∃ findings, ((Engine.builtIn source).validate .utf16 text).result = .ok findings ∧
      Checked.ofPath world source path = { files := [(path, findings)] } := by
  refine ⟨_, Engine.result_builtIn source .utf16 text, ?_⟩
  simp only [Checked.ofPath, checkFile, read, Engine.findings_builtIn]

theorem ofPath_unreadable {path : Path} {fault : ReadFault}
    (read : readText world path = .error fault) (source : String) :
    Checked.ofPath world source path = { errors := [path.text ++ ": " ++ fault.message path] } := by
  simp only [Checked.ofPath, checkFile, read]

theorem run_checkText (configured : configure world config = .ok (settings, []))
    (paths : List Path) :
    run world (.check paths false config) =
      { ending := .exit (Checked.ofPaths world settings.source paths).exitCode
        output := textLines (Checked.ofPaths world settings.source paths).lines
        complaints := textLines (Checked.ofPaths world settings.source paths).errors } := by
  simp only [run, runCheck, configured]
  rfl

theorem run_checkJson (configured : configure world config = .ok (settings, []))
    (paths : List Path) :
    run world (.check paths true config) =
      { ending := .exit (Checked.ofPaths world settings.source paths).exitCode
        output := (Checked.ofPaths world settings.source paths).value.indented ++ "\n" } := by
  simp only [run, runCheck, configured]
  rfl

/-- A check of several paths is the checks of each one after the other, and exits with the worst of
their codes. What it prints can be read off its result in JSON. -/
theorem run_check_append (configured : configure world config = .ok (settings, []))
    (ps qs : List Path) :
    let collected := Checked.ofPaths world settings.source
    let shown := fun paths => run world (.check paths false config)
    (collected (ps ++ qs)).files = (collected ps).files ++ (collected qs).files ∧
    (collected (ps ++ qs)).errors = (collected ps).errors ++ (collected qs).errors ∧
    (shown (ps ++ qs)).output = (shown ps).output ++ (shown qs).output ∧
    (shown (ps ++ qs)).complaints = (shown ps).complaints ++ (shown qs).complaints ∧
    (∀ path text, readText world path = .ok text → ∃ findings,
      ((Engine.builtIn settings.source).validate .utf16 text).result = .ok findings ∧
      collected [path] = { files := [(path, findings)] }) ∧
    (∀ path fault, readText world path = .error fault →
      collected [path] = { errors := [path.text ++ ": " ++ fault.message path] }) ∧
    ∀ paths,
      let worst := (paths.map (pathCode world settings.source)).foldr max 0
      let value := (collected paths).value
      shown paths =
        { ending := .exit worst
          output := textLines (Checked.linesOf value)
          complaints := textLines (Checked.errorsOf value) } ∧
      run world (.check paths true config) =
        { ending := .exit worst, output := value.indented ++ "\n" } := by
  intro collected shown
  have split : collected (ps ++ qs) = collected ps ++ collected qs :=
    Checked.ofPaths_append world settings.source ps qs
  have text := run_checkText configured
  refine ⟨?_, ?_, ?_, ?_, ?_, ?_, ?_⟩
  · rw [split, Checked.files_append]
  · rw [split, Checked.errors_append]
  · simp only [shown, text, collected] at split ⊢
    rw [split, Checked.lines_append, textLines_append]
  · simp only [shown, text, collected] at split ⊢
    rw [split, Checked.errors_append, textLines_append]
  · intro path text read
    simp only [collected, ofPaths_singleton]
    exact ofPath_readable read settings.source
  · intro path fault read
    simp only [collected, ofPaths_singleton]
    exact ofPath_unreadable read settings.source
  · intro paths worst value
    have code := Checked.exitCode_ofPaths world settings.source paths
    refine ⟨?_, ?_⟩
    · simp only [shown, text, code, value, collected, worst, Checked.linesOf_value,
        Checked.errorsOf_value]
    · rw [run_checkJson configured, code]

end run

theorem run_check_append_mixed :
    let flagged : Path := ⟨0, ["a".toList]⟩
    let clean : Path := ⟨0, ["b".toList]⟩
    let broken : Path := ⟨0, ["c".toList]⟩
    let folder : Path := ⟨0, ["d".toList]⟩
    let absent : Path := ⟨0, ["e".toList]⟩
    let files : List (Path × Lookup) :=
      [(flagged, .file (Utf8.encode "if(".toList)), (clean, .file []), (broken, .file [0xff]),
        (folder, .directory)]
    let world : World :=
      ⟨fun path => (files.lookup path).getD .missing, [], Completion.Tables.ofLists [] []⟩
    let shown := fun paths => run world (.check paths false none)
    configure world none = .ok (Settings.resolve [] [], []) ∧
    (shown ([broken, flagged] ++ [absent, folder])).output =
      (shown [broken, flagged]).output ++ (shown [absent, folder]).output ∧
    (shown [clean, flagged, clean]).ending = .exit 1 ∧
    (shown [flagged, absent, clean]).ending = .exit 2 ∧
    (run world (.check [broken, flagged, absent, folder] true none)).ending = .exit 2 := by
  intro flagged clean broken folder absent files world shown
  have configured : configure world none = .ok (Settings.resolve [] [], []) := rfl
  have flaggedCode : pathCode world Engine.defaultSource flagged = 1 := by
    have found : Engine.builtInFindings Engine.defaultSource .utf16 (unifyBreaks "if(".toList) =
        [⟨.error, ⟨0, 0⟩, ⟨0, 3⟩, "if( needs a space between 'if' and opening paranthesis.",
          "ex"⟩] := by
      simp only [Engine.builtInFindings, Engine.matched, ← PatternRule.spans_eq_hits]
      rfl
    have stored : world.files flagged = .file (Utf8.encode "if(".toList) := rfl
    rw [← Checked.exitCode_ofPath, ofPath_encode stored, found]
    rfl
  have cleanCode : pathCode world Engine.defaultSource clean = 0 := by
    have stored : world.files clean = .file [] := rfl
    have decoded : Utf8.decode [] = .ok [] := Utf8.decode_encode []
    simp only [pathCode, stored, decoded]
    rfl
  have brokenCode : pathCode world Engine.defaultSource broken = 2 := by
    have stored : world.files broken = .file [0xff] := rfl
    have decoded : Utf8.decode [0xff] = .error ⟨0, 1, 0xff, .invalidStart⟩ := by
      rw [Utf8.decode, Utf8.pieces]
      rfl
    simp only [pathCode, stored, decoded]
  obtain ⟨-, -, output, -, -, -, codes⟩ :=
    run_check_append configured [broken, flagged] [absent, folder]
  have ending (paths : List Path) (json : Bool) :
      (run world (.check paths json none)).ending =
        .exit ((paths.map (pathCode world Engine.defaultSource)).foldr max 0) := by
    cases json with
    | false => exact congrArg Outcome.ending (codes paths).1
    | true => exact congrArg Outcome.ending (codes paths).2
  refine ⟨configured, output, ?_, ?_, ?_⟩
  · simp only [shown, ending, List.map, flaggedCode, cleanCode]
    rfl
  · simp only [shown, ending, List.map, flaggedCode, cleanCode]
    rfl
  · simp only [ending, List.map, flaggedCode, brokenCode]
    rfl

end Command

end ScriptAssist
