import ScriptAssist.Pattern.Expression
import ScriptAssist.Pattern.Reader
import ScriptAssist.Value

namespace ScriptAssist

/-- A piece of a text that a rule objects to. A rule may report offsets outside the text. -/
structure Match where
  first : Int
  last : Int
  text : List Char
  deriving DecidableEq, Repr

/-- What a rule reports on a text: matches one after the other and, if it fails in the end, why. -/
structure Yield where
  found : List Match
  failure : Option String := none
  deriving DecidableEq, Repr

/-- A named check on texts. -/
structure Rule where
  name : String
  /-- What is said about each match, after the matched text. -/
  message : String
  scan : List Char → Yield

/-- A rule that reports the same matches for every text. -/
def Rule.fixed (name message : String) (found : List Match) : Rule :=
  ⟨name, message, fun _ => ⟨found, none⟩⟩

/-- A rule that objects to every match of an expression. -/
structure CompiledRule where
  name : String
  message : String
  expression : Expression

namespace CompiledRule

/-- The matches of the rule's expression; none of them is empty. -/
def spans (rule : CompiledRule) (text : List Char) : List Pattern.Span := rule.expression.spans text

def toRule (rule : CompiledRule) : Rule :=
  ⟨rule.name, rule.message, fun text =>
    ⟨(rule.spans text).map fun span => ⟨span.first, span.last, span.text⟩, none⟩⟩

end CompiledRule

/-- A rule whose expression is one of the patterns that are read and matched here: those that the
built-in rules are made of, and those of the same kind. -/
structure PatternRule where
  name : String
  message : String
  written : String
  pattern : Pattern
  options : Pattern.Options

namespace PatternRule

/-- The written pattern of a rule cannot be read. -/
structure Fault where
  rule : String
  written : String
  fault : Pattern.Fault
  deriving DecidableEq, Repr

def Fault.complaint (fault : Fault) : Complaint :=
  ⟨"diagnostic pattern does not compile",
    [("rule", .string fault.rule), ("pattern", .string fault.written),
      ("error", .string (fault.fault.message fault.written.toList))]⟩

/-- Makes a rule from a written pattern. A kind of expression that no pattern covers is refused as
well, for a reason of its own. -/
def ofWritten (name written message : String) (options : Pattern.Options) :
    Except Fault PatternRule :=
  match Pattern.read written.toList with
  | .ok pattern => .ok ⟨name, message, written, pattern, options⟩
  | .error fault => .error ⟨name, written, fault⟩

/-- The matches of the rule's pattern; none of them is empty. -/
def spans (rule : PatternRule) (text : List Char) : List Pattern.Span :=
  rule.pattern.scan rule.options text

def toRule (rule : PatternRule) : Rule :=
  ⟨rule.name, rule.message, fun text =>
    ⟨(rule.spans text).map fun span => ⟨span.first, span.last, span.text⟩, none⟩⟩

/-- A rule is shown by its name and its written pattern. -/
def describe (rule : PatternRule) : String :=
  s!"PatternRule({Text.quoted rule.name}, {Text.quoted rule.written})"

end PatternRule

namespace Pattern

/-- The characters of a text one after the other. -/
def exact (text : String) : Pattern := sequence (text.toList.map char)

/-- Every space that separates words in a script, the byte-order mark among them. -/
def space : Pattern :=
  set false
    [('\t', '\t'), ('\n', '\n'), ('\x0b', '\x0b'), ('\x0c', '\x0c'), ('\r', '\r'), (' ', ' '),
      ('\u00a0', '\u00a0'), ('\u1680', '\u1680'), ('\u2000', '\u200a'), ('\u2028', '\u2028'),
      ('\u2029', '\u2029'), ('\u202f', '\u202f'), ('\u205f', '\u205f'), ('\u3000', '\u3000'),
      ('\ufeff', '\ufeff')]

/-- A character of a name in a script. -/
def wordChar : Pattern := set false [('A', 'Z'), ('a', 'z'), ('0', '9'), ('_', '_')]

def word : Pattern := rounds wordChar 1 none true

end Pattern

namespace PatternRule

/-- A buffer must be set with a space on both sides of the equals sign. The three branches take a
space behind it only, before it only, and none; a space on both sides is fine. -/
def bufferSpacing : PatternRule where
  name := "buffer-spacing"
  message := "requires spaces before and after =."
  written :=
    let space :=
      "[\\t\\n\\v\\f\\r \\u00a0\\u1680\\u2000-\\u200a\\u2028\\u2029\\u202f\\u205f\\u3000\\ufeff]"
    let wordChar := "[A-Za-z0-9_]"
    "buffer" ++ space ++ wordChar ++ "+(=" ++ space ++ "|" ++ space ++ "=" ++ space ++
      "\x7b0\x7d|=)" ++ wordChar ++ "+"
  pattern :=
    .sequence
      ("buffer".toList.map .char ++
        [.space, .word,
          .group (.choice
            [.sequence [.char '=', .space],
              .sequence [.space, .char '=', .rounds .space 0 (some 0) true],
              .char '=']),
          .word])
  options := {}

/-- A condition must not begin right behind its keyword. -/
def ifParenSpacing : PatternRule where
  name := "if-paren-spacing"
  message := "needs a space between 'if' and opening paranthesis."
  written := "(if\\()"
  pattern := .group (.exact "if(")
  options := {}

def builtIn : List PatternRule := [bufferSpacing, ifParenSpacing]

end PatternRule

end ScriptAssist
