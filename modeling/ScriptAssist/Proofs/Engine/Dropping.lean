import ScriptAssist.Proofs.Engine.Findings

namespace ScriptAssist

open Text

namespace Match

/-- Both ends of a match lie in a text, in whatever order they stand. -/
def Within (text : List Char) (found : Match) : Prop :=
  (0 ≤ found.first ∧ found.first ≤ text.length) ∧ 0 ≤ found.last ∧ found.last ≤ text.length

instance (text : List Char) (found : Match) : Decidable (found.Within text) :=
  inferInstanceAs (Decidable (_ ∧ _))

/-- The end of a match to which no place can be given: its start, unless only its last end is
outside of the text. -/
def stray (text : List Char) (found : Match) : Int :=
  if 0 ≤ found.first ∧ found.first ≤ text.length then found.last else found.first

/-- That a match lies outside of a text can be said. -/
def Sayable (text : List Char) (found : Match) : Prop :=
  Writable (found.stray text) ∧ Writable text.length

instance (text : List Char) (found : Match) : Decidable (found.Sayable text) :=
  inferInstanceAs (Decidable (_ ∧ _))

/-- The match itself can be named. -/
def Named (found : Match) : Prop := Writable found.first ∧ Writable found.last

instance (found : Match) : Decidable found.Named := inferInstanceAs (Decidable (_ ∧ _))

/-- The warning about a match that lies outside of a text. -/
def warning (text : List Char) (rule : Rule) (found : Match) : String :=
  let stray := found.stray text
  let length : Int := text.length
  let reason := s!"offset range [{stray}, {stray}) falls outside text of length {length}"
  s!"dropping {rule.name} finding at [{found.first}, {found.last}): {reason}"

end Match

namespace LineTable

theorem position_inside (encoding : Encoding) {text : List Char} {offset : Int}
    (h : 0 ≤ offset ∧ offset ≤ text.length) :
    (ofText text).position encoding offset =
      .ok (walk encoding (splitLines text) offset.toNat) := by
  obtain ⟨place, rfl⟩ := Int.eq_ofNat_of_zero_le h.1
  exact position_ofText encoding (Int.ofNat_le.1 h.2)

theorem position_stray (encoding : Encoding) {text : List Char} {offset : Int}
    (h : ¬(0 ≤ offset ∧ offset ≤ text.length)) :
    (ofText text).position encoding offset = .error (outsideFault offset text.length) := by
  have outside : offset < 0 ∨ ((splitLines text).flatten.length : Int) < offset := by
    rw [flatten_splitLines]
    omega
  rw [ofText, position_outside encoding _ outside, flatten_splitLines]

end LineTable

namespace Engine

/-- A finding stands where a match says, quotes it in front of what its rule has to say, and is
tagged by the engine. -/
structure Reports (engine : Engine) (encoding : Encoding) (text : List Char) (rule : Rule)
    (found : Match) (finding : Finding) : Prop where
  first_eq : (LineTable.ofText text).position encoding found.first = .ok finding.first
  last_eq : (LineTable.ofText text).position encoding found.last = .ok finding.last
  message_eq : finding.message = String.ofList found.text ++ " " ++ rule.message
  source_eq : finding.source = engine.source
  severity_eq : finding.severity = engine.severity

/-- The finding that a match within a text becomes, whatever the order of its ends. -/
def placed (engine : Engine) (encoding : Encoding) (text : List Char) (rule : Rule)
    (found : Match) : Finding where
  severity := engine.severity
  first := LineTable.walk encoding (splitLines text) found.first.toNat
  last := LineTable.walk encoding (splitLines text) found.last.toNat
  message := String.ofList found.text ++ " " ++ rule.message
  source := engine.source

/-- What is kept of a match that lies outside of a text. -/
def droppedOf (text : List Char) (rule : Rule) (found : Match) : Dropped :=
  ⟨rule.name, found.first, found.last, found.stray text, text.length⟩

def verdict (engine : Engine) (encoding : Encoding) (text : List Char) (rule : Rule)
    (found : Match) : Except Dropped Finding :=
  if found.Within text then .ok (engine.placed encoding text rule found)
  else .error (droppedOf text rule found)

theorem reports_placed (engine : Engine) (encoding : Encoding) {text : List Char} (rule : Rule)
    {found : Match} (h : found.Within text) :
    engine.Reports encoding text rule found (engine.placed encoding text rule found) where
  first_eq := LineTable.position_inside encoding h.1
  last_eq := LineTable.position_inside encoding h.2
  message_eq := rfl
  source_eq := rfl
  severity_eq := rfl

theorem finding_within (engine : Engine) (encoding : Encoding) {text : List Char} (rule : Rule)
    {found : Match} (h : found.Within text) :
    engine.finding ((LineTable.ofText text).position encoding) rule found =
      .ok (engine.placed encoding text rule found) := by
  simp only [finding, LineTable.position_inside encoding h.1,
    LineTable.position_inside encoding h.2]
  rfl

/-- Whichever of the two ends is outside, the fault is about it; the start is looked at first. -/
theorem finding_stray (engine : Engine) (encoding : Encoding) {text : List Char} (rule : Rule)
    {found : Match} (h : ¬found.Within text) :
    engine.finding ((LineTable.ofText text).position encoding) rule found =
      .error (LineTable.outsideFault (found.stray text) text.length) := by
  by_cases start : 0 ≤ found.first ∧ found.first ≤ text.length
  · have finish : ¬(0 ≤ found.last ∧ found.last ≤ text.length) := fun inside => h ⟨start, inside⟩
    rw [finding, LineTable.position_inside encoding start, LineTable.position_stray encoding finish,
      Match.stray, if_pos start]
    rfl
  · rw [finding, LineTable.position_stray encoding start, Match.stray, if_neg start]
    rfl

theorem examine_sayable (engine : Engine) (encoding : Encoding) {text : List Char} (rule : Rule)
    {found : Match} (h : found.Within text ∨ found.Sayable text) :
    engine.examine ((LineTable.ofText text).position encoding) rule found =
      .ok (engine.verdict encoding text rule found) := by
  by_cases within : found.Within text
  · rw [examine, engine.finding_within encoding rule within, verdict, if_pos within]
  · have fault := LineTable.outsideFault_eq_outside_iff.2 (h.resolve_left within)
    rw [examine, engine.finding_stray encoding rule within, fault, verdict, if_neg within]
    rfl

theorem examine_unsayable (engine : Engine) (encoding : Encoding) {text : List Char} (rule : Rule)
    {found : Match} (h : ¬(found.Within text ∨ found.Sayable text)) :
    engine.examine ((LineTable.ofText text).position encoding) rule found =
      .error (.number .tooLarge) := by
  rw [not_or] at h
  have fault := LineTable.outsideFault_eq_number_iff.2 ⟨rfl, h.2⟩
  rw [examine, engine.finding_stray encoding rule h.1, fault]

/-! ## Rules that do not fail -/

theorem judge_sayable (engine : Engine) (encoding : Encoding) {text : List Char} (rule : Rule)
    {founds : List Match} (h : ∀ found ∈ founds, found.Within text ∨ found.Sayable text) :
    engine.judge ((LineTable.ofText text).position encoding) rule founds =
      ⟨founds.map (engine.verdict encoding text rule), none⟩ := by
  induction founds with
  | nil => rfl
  | cons found founds ih =>
    rw [judge, engine.examine_sayable encoding rule (h found (by simp)),
      ih fun other hother => h other (by simp [hother])]
    rfl

/-- The first match that is outside and cannot be said to be stops everything. -/
theorem judge_unsayable (engine : Engine) (encoding : Encoding) {text : List Char} (rule : Rule)
    {founds : List Match} (h : ¬∀ found ∈ founds, found.Within text ∨ found.Sayable text) :
    (engine.judge ((LineTable.ofText text).position encoding) rule founds).failure =
      some (.place (.number .tooLarge)) := by
  induction founds with
  | nil => simp at h
  | cons found founds ih =>
    by_cases here : found.Within text ∨ found.Sayable text
    · rw [judge, engine.examine_sayable encoding rule here]
      exact ih fun later => h (List.forall_mem_cons.2 ⟨here, later⟩)
    · rw [judge, engine.examine_unsayable encoding rule here]

/-- What some rules yield, each match with its rule, in rule order and then in the rule's own. -/
def yielded (text : List Char) (rules : List Rule) : List (Rule × Match) :=
  rules.flatMap fun rule => (rule.scan text).found.map fun found => (rule, found)

theorem yielded_append (text : List Char) (former latter : List Rule) :
    yielded text (former ++ latter) = yielded text former ++ yielded text latter :=
  List.flatMap_append

theorem forall_mem_yielded_cons {text : List Char} {rule : Rule} {rules : List Rule}
    {p : Match → Prop} :
    (∀ found ∈ yielded text (rule :: rules), p found.2) ↔
      (∀ found ∈ (rule.scan text).found, p found) ∧ ∀ found ∈ yielded text rules, p found.2 := by
  simp [yielded, or_imp, forall_and]

theorem apply_sayable (engine : Engine) (encoding : Encoding) {text : List Char}
    {rules : List Rule} (unfailing : ∀ rule ∈ rules, (rule.scan text).failure = none)
    (h : ∀ found ∈ yielded text rules, found.2.Within text ∨ found.2.Sayable text) :
    engine.apply ((LineTable.ofText text).position encoding) text rules =
      ⟨(yielded text rules).map fun found => engine.verdict encoding text found.1 found.2,
        none⟩ := by
  induction rules with
  | nil => rfl
  | cons rule rules ih =>
    obtain ⟨here, later⟩ :=
      (forall_mem_yielded_cons (p := fun found => found.Within text ∨ found.Sayable text)).1 h
    rw [apply, engine.judge_sayable encoding rule here, unfailing rule (by simp),
      ih (fun other hother => unfailing other (by simp [hother])) later]
    simp [Report.andThen, yielded, Function.comp_def]

theorem apply_unsayable (engine : Engine) (encoding : Encoding) {text : List Char}
    {rules : List Rule} (unfailing : ∀ rule ∈ rules, (rule.scan text).failure = none)
    (h : ¬∀ found ∈ yielded text rules, found.2.Within text ∨ found.2.Sayable text) :
    (engine.apply ((LineTable.ofText text).position encoding) text rules).failure =
      some (.place (.number .tooLarge)) := by
  induction rules with
  | nil => simp [yielded] at h
  | cons rule rules ih =>
    by_cases here : ∀ found ∈ (rule.scan text).found, found.Within text ∨ found.Sayable text
    · have later := ih (fun other hother => unfailing other (by simp [hother]))
        fun later => h (forall_mem_yielded_cons.2 ⟨here, later⟩)
      rw [apply, engine.judge_sayable encoding rule here, unfailing rule (by simp)]
      exact later
    · have stopped := engine.judge_unsayable encoding rule here
      simp only [apply, Report.andThen, stopped]

theorem validate_nonempty (engine : Engine) (encoding : Encoding) {text : List Char}
    (nonempty : text ≠ []) :
    engine.validate encoding text =
      engine.apply ((LineTable.ofText text).position encoding) text engine.rules := by
  have filled : ¬text.isEmpty := by simpa using nonempty
  rw [validate, if_neg filled]

theorem validate_sayable (engine : Engine) (encoding : Encoding) {text : List Char}
    (nonempty : text ≠ []) (unfailing : ∀ rule ∈ engine.rules, (rule.scan text).failure = none)
    (h : ∀ found ∈ yielded text engine.rules, found.2.Within text ∨ found.2.Sayable text) :
    engine.validate encoding text =
      ⟨(yielded text engine.rules).map fun found => engine.verdict encoding text found.1 found.2,
        none⟩ := by
  rw [engine.validate_nonempty encoding nonempty, engine.apply_sayable encoding unfailing h]

/-- The verdicts sort the matches into findings and dropped ones. -/
theorem sorted_verdicts (engine : Engine) (encoding : Encoding) (text : List Char)
    (founds : List (Rule × Match)) (failure : Option Failure) :
    let report : Report :=
      ⟨founds.map fun found => engine.verdict encoding text found.1 found.2, failure⟩
    report.findings = (founds.filter (·.2.Within text)).map (fun found =>
      engine.placed encoding text found.1 found.2) ∧
    report.dropped = (founds.filter (¬·.2.Within text)).map (fun found =>
      droppedOf text found.1 found.2) := by
  induction founds with
  | nil => exact ⟨rfl, rfl⟩
  | cons found founds ih =>
    simp only [Report.findings, Report.dropped] at ih ⊢
    by_cases within : found.2.Within text
    · have kept : engine.verdict encoding text found.1 found.2 =
          .ok (engine.placed encoding text found.1 found.2) := if_pos within
      simp [kept, within, ih]
    · have lost : engine.verdict encoding text found.1 found.2 =
          .error (droppedOf text found.1 found.2) := if_neg within
      simp [lost, within, ih]

/-- A dropped match is warned of exactly if it can be named. -/
theorem message_droppedOf (text : List Char) (rule : Rule) (found : Match) :
    (droppedOf text rule found).message.toOption =
      if found.Named then some (found.warning text rule) else none := by
  rw [Dropped.message, droppedOf]
  by_cases first : Writable found.first
  · rw [numeral_of_writable first]
    by_cases last : Writable found.last
    · rw [numeral_of_writable last, if_pos ⟨first, last⟩]
      rfl
    · rw [numeral_of_not_writable last, if_neg fun named => last named.2]
      rfl
  · rw [numeral_of_not_writable first, if_neg fun named => first named.1]
    rfl

theorem warnings_dropped (text : List Char) (founds : List (Rule × Match)) :
    (founds.map fun found => droppedOf text found.1 found.2).filterMap
        (fun dropped => dropped.message.toOption) =
      (founds.filter (·.2.Named)).map fun found => found.2.warning text found.1 := by
  induction founds with
  | nil => rfl
  | cons found founds ih =>
    rw [List.map_cons, List.filterMap_cons, message_droppedOf, ih]
    by_cases named : found.2.Named <;> simp [named]

/-- The verdict on a match depends on the engine by its tags only. -/
theorem verdict_congr {engine other : Engine} (source : other.source = engine.source)
    (severity : other.severity = engine.severity) : other.verdict = engine.verdict := by
  funext encoding text rule found
  rw [verdict, verdict, placed, placed, source, severity]

/-- What the first rules find stands before what the others find. -/
theorem result_append {engine former latter : Engine} (encoding : Encoding) {text : List Char}
    (nonempty : text ≠ []) (unfailing : ∀ rule ∈ engine.rules, (rule.scan text).failure = none)
    (h : ∀ found ∈ yielded text engine.rules, found.2.Within text ∨ found.2.Sayable text)
    (rules : engine.rules = former.rules ++ latter.rules)
    (former_verdict : former.verdict = engine.verdict)
    (latter_verdict : latter.verdict = engine.verdict) :
    ∃ earlier later, (former.validate encoding text).result = .ok earlier ∧
      (latter.validate encoding text).result = .ok later ∧
      (engine.validate encoding text).result = .ok (earlier ++ later) := by
  have whole := engine.validate_sayable encoding nonempty unfailing h
  rw [rules, yielded_append] at whole
  rw [rules] at unfailing
  rw [rules, yielded_append] at h
  have first := former.validate_sayable encoding nonempty
    (fun rule hrule => unfailing rule (by simp [hrule])) fun found hfound => h found (by simp [hfound])
  have second := latter.validate_sayable encoding nonempty
    (fun rule hrule => unfailing rule (by simp [hrule])) fun found hfound => h found (by simp [hfound])
  rw [former_verdict] at first
  rw [latter_verdict] at second
  rw [whole, first, second]
  refine ⟨_, _, rfl, rfl, ?_⟩
  simp only [Report.result, Report.findings, List.map_append, List.filterMap_append]

/-- As long as no rule fails, and for each match outside of the text it can be said so, the matches
within the text become findings in order, each of the others is dropped, and there is a warning for
each of these that can be named; so rules have no influence on each other. The first match for which
it cannot be said ends the validation. -/
theorem validate_drops_stray (engine : Engine) (encoding : Encoding) {text : List Char}
    (nonempty : text ≠ []) (unfailing : ∀ rule ∈ engine.rules, (rule.scan text).failure = none) :
    ((∀ found ∈ yielded text engine.rules, found.2.Within text ∨ found.2.Sayable text) →
      (∃ findings, (engine.validate encoding text).result = .ok findings ∧
        List.Forall₂ (fun found finding => engine.Reports encoding text found.1 found.2 finding)
          ((yielded text engine.rules).filter (·.2.Within text)) findings) ∧
      (engine.validate encoding text).dropped =
        ((yielded text engine.rules).filter (¬·.2.Within text)).map (fun found =>
          droppedOf text found.1 found.2) ∧
      (engine.validate encoding text).warnings =
        (((yielded text engine.rules).filter (¬·.2.Within text)).filter (·.2.Named)).map
          (fun found => found.2.warning text found.1) ∧
      ∀ former latter : Engine, engine.rules = former.rules ++ latter.rules →
        former.source = engine.source → former.severity = engine.severity →
        latter.source = engine.source → latter.severity = engine.severity →
        ∃ earlier later, (former.validate encoding text).result = .ok earlier ∧
          (latter.validate encoding text).result = .ok later ∧
          (engine.validate encoding text).result = .ok (earlier ++ later)) ∧
    ((¬∀ found ∈ yielded text engine.rules, found.2.Within text ∨ found.2.Sayable text) →
      (engine.validate encoding text).result = .error (.place (.number .tooLarge))) := by
  constructor
  · intro h
    have report := engine.validate_sayable encoding nonempty unfailing h
    obtain ⟨findings, dropped⟩ :=
      engine.sorted_verdicts encoding text (yielded text engine.rules) none
    rw [← report] at findings dropped
    refine ⟨⟨(engine.validate encoding text).findings, ?_, ?_⟩, dropped, ?_, ?_⟩
    · rw [Report.result, report]
    · rw [findings, List.forall₂_map_right_iff, List.forall₂_same]
      intro found hfound
      exact engine.reports_placed encoding found.1 (by simpa using (List.mem_filter.1 hfound).2)
    · rw [Report.warnings, dropped, warnings_dropped]
    · intro former latter rules former_source former_severity latter_source latter_severity
      exact result_append encoding nonempty unfailing h rules
        (verdict_congr former_source former_severity) (verdict_congr latter_source latter_severity)
  · intro h
    rw [Report.result, engine.validate_nonempty encoding nonempty,
      engine.apply_unsayable encoding unfailing h]

/-- A match that begins before the text, one that is turned round and one that is far too long. -/
theorem validate_drops_stray_mixed :
    let former := Rule.fixed "former" "is odd." [⟨-1, 2, ['a']⟩, ⟨3, 0, ['b']⟩]
    let latter := Rule.fixed "latter" "is even." [⟨1, 18446744073709551616, ['c']⟩, ⟨2, 2, []⟩]
    let engine : Engine := ⟨[former, latter], "ex", .error, by decide⟩
    (∃ findings, (engine.validate .utf16 "a\nb".toList).result = .ok findings ∧
      List.Forall₂
        (fun found finding => engine.Reports .utf16 "a\nb".toList found.1 found.2 finding)
        [(former, ⟨3, 0, ['b']⟩), (latter, ⟨2, 2, []⟩)] findings) ∧
    (engine.validate .utf16 "a\nb".toList).warnings =
      ["dropping former finding at [-1, 2): offset range [-1, -1) falls outside text of length 3",
        "dropping latter finding at [1, 18446744073709551616): offset range " ++
          "[18446744073709551616, 18446744073709551616) falls outside text of length 3"] := by
  intro former latter engine
  have sayable : ∀ found ∈ yielded "a\nb".toList engine.rules,
      found.2.Within "a\nb".toList ∨ found.2.Sayable "a\nb".toList := by
    simp only [yielded, engine, former, latter, Rule.fixed, List.flatMap_cons, List.flatMap_nil,
      List.map_cons, List.map_nil, List.cons_append, List.nil_append, List.append_nil,
      List.forall_mem_cons, List.not_mem_nil, false_implies, implies_true, and_true]
    refine ⟨.inr ?_, .inl ?_, .inr ?_, .inl ?_⟩ <;> decide +kernel
  obtain ⟨shown, -, warnings, -⟩ :=
    (validate_drops_stray engine .utf16 (by decide) (by simp [engine, former, latter, Rule.fixed])).1
      sayable
  exact ⟨shown, warnings.trans (by decide +kernel)⟩

/-- A match whose start is so large that it cannot be named ends the validation, and one whose end
is so large is dropped without a warning. -/
theorem validate_unnamed :
    let large : Int := writingBound
    let stopping := Rule.fixed "stopping" "is odd." [⟨large, 0, ['a']⟩]
    let silent := Rule.fixed "silent" "is even." [⟨-1, large, ['a']⟩]
    let engine (rule : Rule) : Engine := ⟨[rule], "ex", .error, by simp⟩
    ((engine stopping).validate .utf16 ['a']).result = .error (.place (.number .tooLarge)) ∧
    ((engine silent).validate .utf16 ['a']).dropped = [⟨"silent", -1, large, -1, 1⟩] ∧
    ((engine silent).validate .utf16 ['a']).warnings = [] := by
  decide +kernel

end Engine

end ScriptAssist
