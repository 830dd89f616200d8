import ScriptAssist.Text.Line
import ScriptAssist.Value

namespace ScriptAssist.Log

/-- How serious a line is. -/
inductive Level where
  | debug
  | info
  | warning
  | error
  deriving DecidableEq, Repr

namespace Level

def name : Level → String
  | debug => "debug"
  | info => "info"
  | warning => "warning"
  | error => "error"

def rank : Level → Int
  | debug => 10
  | info => 20
  | warning => 30
  | error => 40

end Level

structure Line where
  level : Level
  text : String
  deriving DecidableEq, Repr

/-- The threshold when none is set. -/
def defaultThreshold : Int := 30

/-- The least rank that is kept. Zero stands for "not set". -/
def inForce (threshold : Int) : Int := if threshold = 0 then defaultThreshold else threshold

/-- What happens to a log: a line is offered to it, or its threshold is set. -/
inductive Event where
  | line (line : Line)
  | threshold (rank : Int)
  deriving DecidableEq, Repr

def debug (text : String) : Event := .line ⟨.debug, text⟩
def info (text : String) : Event := .line ⟨.info, text⟩
def warning (text : String) : Event := .line ⟨.warning, text⟩
def error (text : String) : Event := .line ⟨.error, text⟩

/-- The lines that are kept, each judged by the threshold of its moment. -/
def kept (threshold : Int) : List Event → List Line
  | [] => []
  | .threshold rank :: events => kept rank events
  | .line line :: events =>
    if inForce threshold ≤ line.level.rank then line :: kept threshold events
    else kept threshold events

/-- The threshold after some events. -/
def thresholdAfter (threshold : Int) : List Event → Int
  | [] => threshold
  | .threshold rank :: events => thresholdAfter rank events
  | .line _ :: events => thresholdAfter threshold events

/-- The names of thresholds. -/
def names : List (String × Int) :=
  [("CRITICAL", 50), ("FATAL", 50), ("ERROR", 40), ("WARNING", 30), ("WARN", 30), ("INFO", 20),
    ("DEBUG", 10), ("NOTSET", 0)]

/-- The capital form of a letter that occurs in a name. Apart from the ASCII letters only the
dotless i and the long s have one of these capitals; every other character is left alone, since its
capital form occurs in no name. -/
def capital (c : Char) : Char :=
  if c = '\u0131' then 'I' else if c = '\u017f' then 'S' else c.toUpper

/-- The threshold of a name, in any case and with blanks around it. -/
def named? (text : String) : Option Int :=
  names.lookup (String.ofList ((Text.trim text.toList).map capital))

/-- The threshold that a value asks for: an integer itself, a string by its name. -/
def asked? : Value → Option Int
  | .int rank => some rank
  | .string text => named? text
  | _ => none

end ScriptAssist.Log
