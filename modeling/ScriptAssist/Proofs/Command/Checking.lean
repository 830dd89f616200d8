import ScriptAssist.Command.Run
import ScriptAssist.Proofs.Position.Prefix
import ScriptAssist.Proofs.Rule.Breaks
import ScriptAssist.Proofs.Server.Editing
import ScriptAssist.Proofs.Text.Utf8

namespace ScriptAssist

open Text PatternRule

namespace Engine

/-- What the built-in rules find in a text. -/
def builtInFindings (source : String) (encoding : Encoding) (text : List Char) : List Finding :=
  (matched PatternRule.hits PatternRule.builtIn text).map fun found =>
    (builtIn source).findingOf encoding text found.1.message found.2

theorem result_builtIn (source : String) (encoding : Encoding) (text : List Char) :
    ((builtIn source).validate encoding text).result = .ok (builtInFindings source encoding text) :=
  result_toRule rfl encoding text

theorem findings_builtIn (source : String) (encoding : Encoding) (text : List Char) :
    ((builtIn source).validate encoding text).findings = builtInFindings source encoding text := by
  have result := result_builtIn source encoding text
  unfold Report.result at result
  split at result
  · exact Except.ok.inj result
  · contradiction

theorem findingOf_aligned (engine : Engine) (encoding : Encoding) (message : String)
    {text : List Char} {span unified : Pattern.Span} (h : Aligned text span unified) :
    engine.findingOf encoding (unifyBreaks text) message unified =
      engine.findingOf encoding text message span := by
  obtain @⟨before, found, behind, text_eq, whole, whole'⟩ := h
  have first := LineTable.walk_unifyBreaks encoding whole
  have last := LineTable.walk_unifyBreaks encoding whole'
  rw [List.append_assoc] at last
  simp only [findingOf, text_eq, first, last]

theorem aligned_of_clear {rule : PatternRule} (hrule : rule ∈ PatternRule.builtIn)
    {text : List Char}
    (clear : ∀ span ∈ rule.hits (unifyBreaks text), ¬CoversReturn text span) :
    List.Forall₂ (Aligned text) (rule.hits text) (rule.hits (unifyBreaks text)) := by
  obtain ⟨shape, finds, stable⟩ := exists_stable hrule
  rw [← spans_eq_hits] at clear
  rw [← spans_eq_hits, ← spans_eq_hits]
  have whole : ¬Parts [] text := by simp [Parts]
  exact finds.forall₂_aligned stable whole clear

/-- Unified breaks make no difference, unless a match covers one that was a carriage return. -/
theorem findings_of_clear (source : String) (encoding : Encoding) {text : List Char}
    (clear : ∀ rule ∈ PatternRule.builtIn, ∀ span ∈ rule.hits (unifyBreaks text),
      ¬CoversReturn text span) :
    builtInFindings source encoding (unifyBreaks text) =
      builtInFindings source encoding text := by
  simp only [builtInFindings, matched, List.map_flatMap, List.map_map]
  apply List.flatMap_congr
  intro rule hrule
  have aligned := aligned_of_clear hrule (clear rule hrule)
  rw [← List.forall₂_eq_eq_eq, List.forall₂_map_left_iff, List.forall₂_map_right_iff]
  apply List.Forall₂.flip
  apply aligned.imp
  intro span unified h
  exact findingOf_aligned _ encoding rule.message h

theorem return_notMem_message {rule : PatternRule} (h : rule ∈ PatternRule.builtIn) :
    '\r' ∉ rule.message.toList := by
  obtain rfl | rfl := mem_builtIn.1 h
  · decide
  · decide

theorem return_notMem_text {rule : PatternRule} {text : List Char} {span : Pattern.Span}
    (h : span ∈ rule.hits (unifyBreaks text)) : '\r' ∉ span.text := by
  intro mem
  rw [((rule.hits_cuts _).1 span h).text_eq] at mem
  exact return_notMem_unifyBreaks text (List.mem_of_mem_drop (List.mem_of_mem_take mem))

/-- A finding about a text with unified breaks quotes no carriage return. -/
theorem return_notMem_of_finding {engine : Engine} {encoding : Encoding} {text : List Char}
    {rule other : PatternRule} (hrule : rule ∈ PatternRule.builtIn) {span place : Pattern.Span}
    (hspan : span ∈ rule.hits (unifyBreaks text))
    (same : engine.findingOf encoding text other.message place =
      engine.findingOf encoding (unifyBreaks text) rule.message span) : '\r' ∉ place.text := by
  intro mem
  have message := congrArg (fun finding => finding.message.toList) same
  simp only [findingOf, String.toList_append, String.toList_ofList] at message
  have moved : '\r' ∈ span.text ++ " ".toList ++ rule.message.toList := by
    rw [← message]
    simp [mem]
  simp [return_notMem_text hspan, return_notMem_message hrule] at moved

/-- A match that covers a carriage return is not found without unified breaks: the same place has
the carriage return in it, and what is said about it would differ. -/
theorem clear_of_findings {source : String} {encoding : Encoding} {text : List Char}
    (h : builtInFindings source encoding (unifyBreaks text) =
      builtInFindings source encoding text) {rule : PatternRule}
    (hrule : rule ∈ PatternRule.builtIn) {span : Pattern.Span}
    (hspan : span ∈ rule.hits (unifyBreaks text)) : ¬CoversReturn text span := by
  have reported : (builtIn source).findingOf encoding (unifyBreaks text) rule.message span ∈
      builtInFindings source encoding text := by
    rw [← h]
    exact List.mem_map.2 ⟨(rule, span), mem_matched.2 ⟨hrule, hspan⟩, rfl⟩
  obtain ⟨⟨other, place⟩, hplace, same⟩ := List.mem_map.1 reported
  obtain ⟨hother, hplace, -⟩ := cuts_of_mem_matched hplace
  have clear := return_notMem_of_finding hrule hspan same
  obtain ⟨shape, finds, stable⟩ := exists_stable hother
  rw [← spans_eq_hits] at hplace
  obtain ⟨unified, aligned⟩ := finds.exists_aligned stable hplace
  rw [← findingOf_aligned _ encoding other.message aligned] at same
  have cuts := (rule.hits_cuts _).1 span hspan
  have first_le := Nat.le_trans (Nat.le_of_lt cuts.first_lt) cuts.last_le
  have first := LineTable.walk_inj aligned.le_length.1 first_le (congrArg Finding.first same)
  have last := LineTable.walk_inj aligned.le_length.2 cuts.last_le (congrArg Finding.last same)
  have uncovered := aligned.not_coversReturn clear
  rw [CoversReturn, first, last] at uncovered
  exact uncovered

end Engine

namespace Command

theorem ofPath_encode {world : World} {path : Path} {text : List Char}
    (h : world.files path = .file (Utf8.encode text)) (source : String) :
    Checked.ofPath world source path =
      { files := [(path, Engine.builtInFindings source .utf16 (unifyBreaks text))] } := by
  have read : readText world path = .ok (unifyBreaks text) := by
    simp only [readText, h, Lookup.text, Utf8.decode_encode]
  simp only [Checked.ofPath, checkFile, read, Engine.findings_builtIn]

theorem run_check {world : World} {path : Path} {source : String} {findings : List Finding}
    (h : Checked.ofPath world source path = { files := [(path, findings)] }) {config : Option Path}
    {settings : Settings} {events : List Log.Event}
    (configured : configure world config = .ok (settings, events))
    (tagged : settings.source = source) (json : Bool) :
    run world (.check [path] json config) =
      { ending := .exit (if findings.isEmpty then 0 else 1)
        output :=
          if json then (Checked.mk [(path, findings)] []).value.indented ++ "\n"
          else textLines (findings.map (Checked.findingLine path))
        events } := by
  have checked : Checked.ofPaths world settings.source [path] = ⟨[(path, findings)], []⟩ := by
    rw [Checked.ofPaths, tagged, h]
    rfl
  have lines : Checked.lines ⟨[(path, findings)], []⟩ =
      findings.map (Checked.findingLine path) := by
    simp [Checked.lines]
  have code : Checked.exitCode ⟨[(path, findings)], []⟩ = if findings.isEmpty then 0 else 1 := by
    cases findings <;> rfl
  simp only [run, runCheck, configured, checked, code, lines]
  cases json <;> rfl

/-- Checking a file and opening its text in an editor come to the same findings exactly if no match
covers a carriage return. A file is read with unified breaks, a document is taken as it is. -/
theorem check_published_iff (world : World) (path : Path) (text : List Char)
    (h : world.files path = .file (Utf8.encode text)) (source : String) (server : Server)
    (utf16 : server.encoding = .utf16) (uri : String) (version : Int) :
    let configured := (server.step (.configure source)).1
    ∃ reported published,
      Checked.ofPath world source path = { files := [(path, reported)] } ∧
      (∀ json config settings events, configure world config = .ok (settings, events) →
        settings.source = source →
        run world (.check [path] json config) =
          { ending := .exit (if reported.isEmpty then 0 else 1)
            output :=
              if json then (Checked.mk [(path, reported)] []).value.indented ++ "\n"
              else textLines (reported.map (Checked.findingLine path))
            events }) ∧
      (configured.step (.openDocument uri text version)).2.sent =
        [.publish uri (some version) published] ∧
      (configured.step (.openDocument uri (unifyBreaks text) version)).2.sent =
        [.publish uri (some version) reported] ∧
      (reported = published ↔
        ∀ rule ∈ PatternRule.builtIn, ∀ span ∈ rule.hits (unifyBreaks text),
          ¬CoversReturn text span) := by
  intro configured
  have sent (text : List Char) : (configured.step (.openDocument uri text version)).2.sent =
      [.publish uri (some version) (Engine.builtInFindings source .utf16 text)] := by
    apply Server.sent_open
    change ((Engine.builtIn source).validate server.encoding text).result = _
    rw [utf16, Engine.result_builtIn]
  have reported := ofPath_encode h source
  refine ⟨_, _, reported, ?_, sent text, sent (unifyBreaks text), ?_, ?_⟩
  · intro json config settings events configured tagged
    exact run_check reported configured tagged json
  · intro same rule hrule span hspan
    exact Engine.clear_of_findings same hrule hspan
  · exact Engine.findings_of_clear source .utf16

theorem check_published_iff_crlf :
    let text := "buffer\tx=1\r\nif(".toList
    let path : Path := ⟨0, ["a".toList]⟩
    let world : World :=
      ⟨fun other => if other = path then .file (Utf8.encode text) else .missing, [],
        Completion.Tables.ofLists [] []⟩
    let server := Server.fresh (Engine.builtIn "") ⟨Completion.Tables.ofLists [] [], rfl⟩ .utf16
    ∃ findings, run world (.check [path] true none) =
        { ending := .exit (if findings.isEmpty then 0 else 1)
          output := (Checked.mk [(path, findings)] []).value.indented ++ "\n" } ∧
      ((server.step (.configure "ex")).1.step (.openDocument "u" text 1)).2.sent =
        [.publish "u" (some 1) findings] := by
  intro text path world server
  have stored : world.files path = .file (Utf8.encode text) := by simp [world]
  obtain ⟨reported, published, -, checked, sent, -, same⟩ :=
    check_published_iff world path text stored "ex" server rfl "u" 1
  have clear : ∀ rule ∈ PatternRule.builtIn, ∀ span ∈ rule.hits (unifyBreaks text),
      ¬CoversReturn text span := by
    have buffer : Aligned text ⟨0, 10, "buffer\tx=1".toList⟩ ⟨0, 10, "buffer\tx=1".toList⟩ :=
      @Aligned.intro text [] "buffer\tx=1".toList "\r\nif(".toList rfl (by decide) (by decide)
    have paren : Aligned text ⟨12, 15, "if(".toList⟩ ⟨11, 14, "if(".toList⟩ :=
      @Aligned.intro text "buffer\tx=1\r\n".toList "if(".toList [] rfl (by decide) (by decide)
    have first : bufferSpacing.hits (unifyBreaks text) = [⟨0, 10, "buffer\tx=1".toList⟩] := by
      rw [← spans_eq_hits]
      rfl
    have second : ifParenSpacing.hits (unifyBreaks text) = [⟨11, 14, "if(".toList⟩] := by
      rw [← spans_eq_hits]
      rfl
    simp only [PatternRule.builtIn, List.forall_mem_cons, first, second]
    refine ⟨⟨buffer.not_coversReturn (by decide), by simp⟩,
      ⟨paren.not_coversReturn (by decide), by simp⟩, by simp⟩
  have run := checked true none _ _ rfl rfl
  rw [same.2 clear] at run
  exact ⟨published, run, sent⟩

/-- A pair of breaks within an assignment is one space in a file and two in a document. -/
theorem check_differs :
    let text := "buffer\r\nx=1".toList
    let path : Path := ⟨0, ["a".toList]⟩
    let world : World :=
      ⟨fun other => if other = path then .file (Utf8.encode text) else .missing, [],
        Completion.Tables.ofLists [] []⟩
    let server := Server.fresh (Engine.builtIn "") ⟨Completion.Tables.ofLists [] [], rfl⟩ .utf16
    Checked.ofPath world "ex" path = { files := [(path,
      [⟨.error, ⟨0, 0⟩, ⟨1, 3⟩, "buffer\nx=1 requires spaces before and after =.", "ex"⟩])] } ∧
    (run world (.check [path] false none)).ending = .exit 1 ∧
    ((server.step (.configure "ex")).1.step (.openDocument "u" text 1)).2.sent =
      [.publish "u" (some 1) []] := by
  intro text path world server
  have one : Engine.builtInFindings "ex" .utf16 (unifyBreaks text) =
      [⟨.error, ⟨0, 0⟩, ⟨1, 3⟩, "buffer\nx=1 requires spaces before and after =.", "ex"⟩] := by
    simp only [Engine.builtInFindings, Engine.matched, ← spans_eq_hits]
    rfl
  have none : Engine.builtInFindings "ex" .utf16 text = [] := by
    simp only [Engine.builtInFindings, Engine.matched, ← spans_eq_hits]
    rfl
  have stored : world.files path = .file (Utf8.encode text) := by simp [world]
  have checked := ofPath_encode stored "ex"
  rw [one] at checked
  refine ⟨checked, ?_, ?_⟩
  · rw [run_check checked rfl rfl]
    rfl
  · rw [← none]
    exact Server.sent_open (Engine.result_builtIn "ex" .utf16 text) "u" 1

end Command

end ScriptAssist
