import ScriptAssist.Position
import ScriptAssist.Rule

namespace ScriptAssist

inductive Severity where
  | error
  | warning
  | information
  | hint
  deriving DecidableEq, Repr

namespace Severity

def code : Severity → Nat
  | error => 1
  | warning => 2
  | information => 3
  | hint => 4

def ofCode? (code : Nat) : Option Severity :=
  [error, warning, information, hint].find? (·.code = code)

def name : Severity → String
  | error => "error"
  | warning => "warning"
  | information => "information"
  | hint => "hint"

end Severity

/-- A match as it is shown to a client. -/
structure Finding where
  severity : Severity
  first : Position
  last : Position
  message : String
  source : String
  deriving DecidableEq, Repr

/-- A match that has no place in the text: an end of it is an offset outside of it. -/
structure Dropped where
  rule : String
  first : Int
  last : Int
  offset : Int
  length : Int
  deriving DecidableEq, Repr

/-- The warning about a dropped match. The fault has its message already; the ends of the match are
written now. -/
def Dropped.message (dropped : Dropped) : Except Text.NumberFault String := do
  let first ← Text.numeral dropped.first
  let last ← Text.numeral dropped.last
  let fault := LineTable.Fault.outside dropped.offset dropped.length
  return s!"dropping {dropped.rule} finding at [{first}, {last}): {fault.message}"

/-- Why a validation stops before its end. -/
inductive Failure where
  | rule (reason : String)
  | place (fault : LineTable.Fault)
  deriving DecidableEq, Repr

/-- What came of validating a text: each match in order, as a finding or dropped, up to a failure. -/
structure Report where
  verdicts : List (Except Dropped Finding) := []
  failure : Option Failure := none

namespace Report

/-- What comes after a failure is not reached. -/
def andThen (first second : Report) : Report :=
  match first.failure with
  | none => ⟨first.verdicts ++ second.verdicts, second.failure⟩
  | some _ => first

def findings (report : Report) : List Finding :=
  report.verdicts.filterMap fun
    | .ok finding => some finding
    | .error _ => none

def dropped (report : Report) : List Dropped :=
  report.verdicts.filterMap fun
    | .ok _ => none
    | .error dropped => some dropped

/-- The warnings about dropped matches. One that cannot be written is lost. -/
def warnings (report : Report) : List String :=
  report.dropped.filterMap fun dropped => dropped.message.toOption

/-- The findings, unless the validation failed. -/
def result (report : Report) : Except Failure (List Finding) :=
  match report.failure with
  | none => .ok report.findings
  | some failure => .error failure

end Report

/-- Rules with distinct names, and what their findings are tagged with. -/
structure Engine where
  rules : List Rule
  source : String
  severity : Severity
  names_nodup : (rules.map Rule.name).Nodup

namespace Engine

/-- Two rules share a name. -/
structure Fault where
  names : List String
  deriving DecidableEq, Repr

def Fault.complaint (fault : Fault) : Complaint :=
  ⟨"duplicate diagnostic rule names", [("rules", .list (fault.names.map .string))]⟩

def ofRules (rules : List Rule) (source : String) (severity : Severity) : Except Fault Engine :=
  if h : (rules.map Rule.name).Nodup then .ok ⟨rules, source, severity, h⟩
  else .error ⟨rules.map Rule.name⟩

/-- The tag of findings when none is configured. -/
def defaultSource : String := "ex"

/-- The engine with the built-in rules. -/
def builtIn (source : String) : Engine where
  rules := PatternRule.builtIn.map PatternRule.toRule
  source := source
  severity := .error
  names_nodup := by decide

/-- Places a match: its start first, then its end. -/
def finding (engine : Engine) (place : Int → Except LineTable.Fault Position) (rule : Rule)
    (found : Match) : Except LineTable.Fault Finding := do
  let first ← place found.first
  let last ← place found.last
  return ⟨engine.severity, first, last, String.ofList found.text ++ " " ++ rule.message,
    engine.source⟩

/-- The verdict on a match. One that lies outside of the text is dropped; any other fault goes on. -/
def examine (engine : Engine) (place : Int → Except LineTable.Fault Position) (rule : Rule)
    (found : Match) : Except LineTable.Fault (Except Dropped Finding) :=
  match engine.finding place rule found with
  | .ok finding => .ok (.ok finding)
  | .error (.outside offset length) =>
    .ok (.error ⟨rule.name, found.first, found.last, offset, length⟩)
  | .error fault => .error fault

/-- The verdicts on the matches of a rule, one after the other. -/
def judge (engine : Engine) (place : Int → Except LineTable.Fault Position) (rule : Rule) :
    List Match → Report
  | [] => {}
  | found :: later =>
    match engine.examine place rule found with
    | .ok verdict => Report.andThen ⟨[verdict], none⟩ (engine.judge place rule later)
    | .error fault => ⟨[], some (.place fault)⟩

/-- Applies rules in order until one fails. A rule that fails has reported its matches before. -/
def apply (engine : Engine) (place : Int → Except LineTable.Fault Position) (text : List Char) :
    List Rule → Report
  | [] => {}
  | rule :: rules =>
    let reported := engine.judge place rule (rule.scan text).found
    let ended : Report := ⟨[], (rule.scan text).failure.map .rule⟩
    (reported.andThen ended).andThen (engine.apply place text rules)

/-- Validates a text with positions in the given encoding. No rule looks at the empty text. -/
def validate (engine : Engine) (encoding : Text.Encoding) (text : List Char) : Report :=
  if text.isEmpty then {}
  else
    let table := LineTable.ofText text
    engine.apply (table.position encoding) text engine.rules

end Engine

end ScriptAssist
