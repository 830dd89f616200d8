import Mathlib.Data.List.Forall2
import ScriptAssist.Engine
import ScriptAssist.Proofs.Pattern.Scan
import ScriptAssist.Proofs.Position

namespace ScriptAssist

open Text

namespace CompiledRule

theorem spans_cuts (rule : CompiledRule) (text : List Char) :
    (∀ span ∈ rule.spans text, span.Cuts text) ∧
    (rule.spans text).Pairwise fun earlier later => earlier.last ≤ later.first :=
  rule.expression.spans_cuts text

/-- There is nothing in the empty text that an expression could match without being empty. -/
theorem spans_nil (rule : CompiledRule) : rule.spans [] = [] := by
  rw [List.eq_nil_iff_forall_not_mem]
  intro span hspan
  obtain ⟨first_lt, last_le, -⟩ := (rule.spans_cuts []).1 span hspan
  simp only [List.length_nil] at last_le
  omega

end CompiledRule

namespace PatternRule

/-- The rule with its pattern as an expression. -/
def compiled (rule : PatternRule) : CompiledRule :=
  ⟨rule.name, rule.message, rule.pattern.expression rule.options⟩

/-- The matches of a rule that are not empty. -/
def hits (rule : PatternRule) (text : List Char) : List Pattern.Span := rule.compiled.spans text

theorem spans_eq_hits (rule : PatternRule) (text : List Char) : rule.spans text = rule.hits text :=
  Pattern.scan_eq_spans rule.pattern rule.options text

theorem hits_cuts (rule : PatternRule) (text : List Char) :
    (∀ span ∈ rule.hits text, span.Cuts text) ∧
    (rule.hits text).Pairwise fun earlier later => earlier.last ≤ later.first :=
  rule.compiled.spans_cuts text

/-- It makes no difference to an engine which of the two scans a rule is made with. -/
theorem toRule_compiled (rule : PatternRule) : rule.compiled.toRule = rule.toRule := by
  have same : rule.compiled.spans = rule.spans := funext fun text => (rule.spans_eq_hits text).symm
  rw [CompiledRule.toRule, same]
  rfl

theorem map_toRule (rules : List PatternRule) :
    rules.map toRule = (rules.map compiled).map CompiledRule.toRule := by
  rw [List.map_map]
  exact List.map_congr_left fun rule _ => rule.toRule_compiled.symm

end PatternRule

namespace Engine

/-- A finding shows a piece of a text: it lies where its two positions say, and is quoted in front of
what the rule has to say. -/
structure Shows (engine : Engine) (encoding : Encoding) (text : List Char) (message : String)
    (span : Pattern.Span) (finding : Finding) : Prop where
  before : finding.first.Before finding.last
  first_eq : LineTable.offsetOf encoding (splitLines text) finding.first = span.first
  last_eq : LineTable.offsetOf encoding (splitLines text) finding.last = span.last
  slice_eq : (text.drop (LineTable.offsetOf encoding (splitLines text) finding.first)).take
    (LineTable.offsetOf encoding (splitLines text) finding.last -
      LineTable.offsetOf encoding (splitLines text) finding.first) = span.text
  message_eq : finding.message = String.ofList span.text ++ " " ++ message
  source_eq : finding.source = engine.source
  severity_eq : finding.severity = engine.severity

/-- The finding that a match within a text becomes. -/
def findingOf (engine : Engine) (encoding : Encoding) (text : List Char) (message : String)
    (span : Pattern.Span) : Finding where
  severity := engine.severity
  first := LineTable.walk encoding (splitLines text) span.first
  last := LineTable.walk encoding (splitLines text) span.last
  message := String.ofList span.text ++ " " ++ message
  source := engine.source

/-- A match within the text is never dropped. -/
theorem examine_eq_findingOf (engine : Engine) (encoding : Encoding) {text : List Char}
    (rule : Rule) {span : Pattern.Span} (h : span.Cuts text) :
    engine.examine ((LineTable.ofText text).position encoding) rule
      ⟨span.first, span.last, span.text⟩ =
        .ok (.ok (engine.findingOf encoding text rule.message span)) := by
  have first_le : span.first ≤ text.length := Nat.le_trans (Nat.le_of_lt h.first_lt) h.last_le
  simp only [examine, finding, LineTable.position_ofText encoding first_le,
    LineTable.position_ofText encoding h.last_le]
  rfl

theorem shows_findingOf (engine : Engine) (encoding : Encoding) {text : List Char}
    (message : String) {span : Pattern.Span} (h : span.Cuts text) :
    engine.Shows encoding text message span (engine.findingOf encoding text message span) := by
  have lines := lines_splitLines text
  have last_le : span.last ≤ (splitLines text).flatten.length := by
    rw [flatten_splitLines]
    exact h.last_le
  have first_le := Nat.le_trans (Nat.le_of_lt h.first_lt) last_le
  have first_eq := LineTable.offsetOf_walk encoding lines first_le
  have last_eq := LineTable.offsetOf_walk encoding lines last_le
  exact {
    before := LineTable.walk_before encoding lines h.first_lt last_le
    first_eq := first_eq
    last_eq := last_eq
    slice_eq := by rw [findingOf, first_eq, last_eq, h.text_eq]
    message_eq := rfl
    source_eq := rfl
    severity_eq := rfl }

/-- The matches of some rules, each with its rule, in rule order. -/
def matched {α : Type} (hits : α → List Char → List Pattern.Span) (rules : List α)
    (text : List Char) : List (α × Pattern.Span) :=
  rules.flatMap fun rule => (hits rule text).map fun span => (rule, span)

theorem mem_matched {α : Type} {hits : α → List Char → List Pattern.Span} {rules : List α}
    {text : List Char} {found : α × Pattern.Span} :
    found ∈ matched hits rules text ↔ found.1 ∈ rules ∧ found.2 ∈ hits found.1 text := by
  obtain ⟨rule, span⟩ := found
  simp [matched]

/-- Matches within the text become findings one after the other. -/
theorem judge_spans (engine : Engine) (encoding : Encoding) {text : List Char} (rule : Rule)
    {spans : List Pattern.Span} (h : ∀ span ∈ spans, span.Cuts text) :
    engine.judge ((LineTable.ofText text).position encoding) rule
        (spans.map fun span => ⟨span.first, span.last, span.text⟩) =
      ⟨spans.map fun span => .ok (engine.findingOf encoding text rule.message span), none⟩ := by
  induction spans with
  | nil => rfl
  | cons span spans ih =>
    have placed := engine.examine_eq_findingOf encoding rule (h span (by simp))
    rw [List.map_cons, judge, placed, ih fun other hother => h other (by simp [hother])]
    rfl

/-- Rules on expressions never fail, and each of their matches is found. -/
theorem apply_toRule (engine : Engine) (encoding : Encoding) (text : List Char)
    (rules : List CompiledRule) :
    engine.apply ((LineTable.ofText text).position encoding) text
        (rules.map CompiledRule.toRule) =
      ⟨(matched CompiledRule.spans rules text).map fun found =>
        .ok (engine.findingOf encoding text found.1.message found.2), none⟩ := by
  induction rules with
  | nil => rfl
  | cons rule rules ih =>
    have reported := engine.judge_spans encoding rule.toRule (rule.spans_cuts text).1
    rw [List.map_cons, apply, ih]
    simp only [CompiledRule.toRule] at reported ⊢
    simp [reported, Report.andThen, matched]

/-- No rule has a match in the empty text, so it makes no difference that none is tried. -/
theorem validate_eq_apply {engine : Engine} {rules : List CompiledRule}
    (h : engine.rules = rules.map CompiledRule.toRule) (encoding : Encoding) (text : List Char) :
    engine.validate encoding text =
      engine.apply ((LineTable.ofText text).position encoding) text engine.rules := by
  cases text with
  | nil =>
    have unmatched : matched CompiledRule.spans rules [] = [] := by
      simp [matched, CompiledRule.spans_nil]
    rw [h, apply_toRule, unmatched]
    rfl
  | cons c cs => rfl

theorem validate_compiled {engine : Engine} {rules : List CompiledRule}
    (h : engine.rules = rules.map CompiledRule.toRule) (encoding : Encoding) (text : List Char) :
    engine.validate encoding text =
      ⟨(matched CompiledRule.spans rules text).map fun found =>
        .ok (engine.findingOf encoding text found.1.message found.2), none⟩ := by
  rw [validate_eq_apply h, h, apply_toRule]

theorem matched_compiled (rules : List PatternRule) (text : List Char) :
    matched CompiledRule.spans (rules.map PatternRule.compiled) text =
      (matched PatternRule.hits rules text).map fun found => (found.1.compiled, found.2) := by
  simp [matched, List.flatMap_map, List.map_flatMap, PatternRule.hits, Function.comp_def]

/-- What pattern rules find, one finding for each match. -/
theorem result_toRule {engine : Engine} {rules : List PatternRule}
    (h : engine.rules = rules.map PatternRule.toRule) (encoding : Encoding) (text : List Char) :
    (engine.validate encoding text).result =
      .ok ((matched PatternRule.hits rules text).map fun found =>
        engine.findingOf encoding text found.1.message found.2) := by
  rw [PatternRule.map_toRule] at h
  rw [validate_compiled h, matched_compiled]
  simp [Report.result, Report.findings, List.filterMap_map, PatternRule.compiled]

theorem cuts_of_mem_matched {rules : List PatternRule} {text : List Char}
    {found : PatternRule × Pattern.Span} (h : found ∈ matched PatternRule.hits rules text) :
    found.1 ∈ rules ∧ found.2 ∈ found.1.hits text ∧ found.2.Cuts text := by
  obtain ⟨hrule, hspan⟩ := mem_matched.1 h
  exact ⟨hrule, hspan, (found.1.hits_cuts text).1 found.2 hspan⟩

/-- With rules on expressions of any make an engine reports every match that is not empty once and
in order, at the place where it stands, and it drops nothing, warns of nothing and never fails. -/
theorem validate_patternRules (engine : Engine) (rules : List CompiledRule)
    (h : engine.rules = rules.map CompiledRule.toRule) (encoding : Encoding) (text : List Char) :
    (∃ findings, (engine.validate encoding text).result = .ok findings ∧
      (engine.validate encoding text).dropped = [] ∧
      (engine.validate encoding text).warnings = [] ∧
      List.Forall₂
        (fun found finding => engine.Shows encoding text found.1.message found.2 finding)
        (rules.flatMap fun rule => (rule.spans text).map fun span => (rule, span)) findings) ∧
    (∀ rule ∈ rules,
      (rule.spans text = (rule.expression.everyMatch text 0 false).filter
        fun span => span.first ≠ span.last) ∧
      (∀ span ∈ rule.spans text, span.first < span.last ∧ span.last ≤ text.length) ∧
      (rule.spans text).Pairwise fun earlier later => earlier.last ≤ later.first) ∧
    engine.validate encoding [] =
      engine.apply ((LineTable.ofText []).position encoding) [] engine.rules := by
  refine ⟨?_, ?_, validate_eq_apply h encoding []⟩
  · have report := validate_compiled h encoding text
    have dropped : (engine.validate encoding text).dropped = [] := by
      rw [report]
      simp [Report.dropped]
    refine ⟨(matched CompiledRule.spans rules text).map fun found =>
      engine.findingOf encoding text found.1.message found.2, ?_, dropped, ?_, ?_⟩
    · rw [report]
      simp [Report.result, Report.findings, List.filterMap_map]
    · rw [Report.warnings, dropped]
      rfl
    · rw [List.forall₂_map_right_iff]
      apply List.forall₂_same.2
      intro found hfound
      obtain ⟨-, hspan⟩ := mem_matched.1 hfound
      exact engine.shows_findingOf encoding found.1.message
        ((found.1.spans_cuts text).1 found.2 hspan)
  · intro rule _
    obtain ⟨cuts, apart⟩ := rule.spans_cuts text
    exact ⟨rfl, fun span hspan => ⟨(cuts span hspan).first_lt, (cuts span hspan).last_le⟩, apart⟩

/-- The end of a character with the same one behind it. -/
def doubleEnd? (text : List Char) (start : Nat) : Option Nat :=
  match text.drop start with
  | c :: d :: _ => if c = d then some (start + 2) else none
  | _ => none

theorem doubleEnd?_eq_some {text : List Char} {start last : Nat}
    (h : doubleEnd? text start = some last) : last = start + 2 ∧ last ≤ text.length := by
  unfold doubleEnd? at h
  split at h
  · case h_1 c d rest cut =>
    obtain ⟨-, same⟩ := Option.ite_none_right_eq_some.1 h
    have length := congrArg List.length cut
    simp only [List.length_drop, List.length_cons, Option.some.injEq] at length same
    omega
  · contradiction

/-- An expression that is no pattern: it refers back to the character in its group. -/
def doubled : Expression where
  endAt? text start _ := doubleEnd? text start
  start_le found := by have := doubleEnd?_eq_some found; omega
  last_le found := (doubleEnd?_eq_some found).2
  moves found := by have := doubleEnd?_eq_some found; omega

theorem spans_doubled : doubled.spans "aa😀a".toList = [⟨0, 2, ['a', 'a']⟩] := by
  have first : doubled.everyMatch "aa😀a".toList 0 false =
      ⟨0, 2, ['a', 'a']⟩ :: doubled.everyMatch "aa😀a".toList 2 false := by
    rw [Expression.everyMatch]
    rfl
  have second : doubled.everyMatch "aa😀a".toList 2 false =
      doubled.everyMatch "aa😀a".toList 3 false := by
    rw [Expression.everyMatch]
    rfl
  have third : doubled.everyMatch "aa😀a".toList 3 false =
      doubled.everyMatch "aa😀a".toList 4 false := by
    rw [Expression.everyMatch]
    rfl
  have last : doubled.everyMatch "aa😀a".toList 4 false = [] := by
    rw [Expression.everyMatch]
    rfl
  rw [Expression.spans, first, second, third, last]
  rfl

/-- A rule whose pattern matches the empty text everywhere, and one whose expression is no pattern. -/
theorem validate_patternRules_starred :
    let starred : PatternRule := ⟨"run", "is a run.", "a*", .rounds (.char 'a') 0 none true, {}⟩
    let run : CompiledRule := starred.compiled
    let twice : CompiledRule := ⟨"twice", "is double.", doubled⟩
    let engine : Engine := ⟨[run, twice].map CompiledRule.toRule, "ex", .error, by decide⟩
    ∃ findings, (engine.validate .utf16 "aa😀a".toList).result = .ok findings ∧
      (engine.validate .utf16 "aa😀a".toList).warnings = [] ∧
      List.Forall₂
        (fun found finding => engine.Shows .utf16 "aa😀a".toList found.1.message found.2 finding)
        [(run, ⟨0, 2, ['a', 'a']⟩), (run, ⟨3, 4, ['a']⟩), (twice, ⟨0, 2, ['a', 'a']⟩)]
        findings := by
  intro starred run twice engine
  obtain ⟨⟨findings, result, -, silent, shown⟩, -, -⟩ :=
    validate_patternRules engine [run, twice] rfl .utf16 "aa😀a".toList
  have runs : run.spans "aa😀a".toList = [⟨0, 2, ['a', 'a']⟩, ⟨3, 4, ['a']⟩] :=
    (starred.spans_eq_hits _).symm
  have doubles : twice.spans "aa😀a".toList = [⟨0, 2, ['a', 'a']⟩] := spans_doubled
  simp only [List.flatMap_cons, List.flatMap_nil, runs, doubles] at shown
  exact ⟨findings, result, silent, shown⟩

end Engine

end ScriptAssist
