import ScriptAssist.Template
import ScriptAssist.Text.Number

namespace ScriptAssist.Template

open Text

/-- What is wrong with the form of a template. -/
inductive Reason where
  | headExpected
  | tailExpected
  | unterminated
  deriving DecidableEq, Repr

def Reason.message : Reason → String
  | .headExpected => "expected tab-stop index or variable name after '$\x7b'"
  | .tailExpected => "expected ':' or '\x7d' in placeholder"
  | .unterminated => "unterminated placeholder"

/-- Why a text is no template: its form breaks at an offset, or an index has no value. -/
inductive Fault where
  | malformed (reason : Reason) (offset : Nat)
  | index (fault : NumberFault)
  deriving DecidableEq, Repr

def Fault.message (text : List Char) : Fault → String
  | .malformed reason offset =>
    reason.message ++ s!" at offset {offset}: " ++ String.ofList (quotedChars text)
  | .index fault => fault.message

/-- A reader's fault, placed by the number of characters that it left unread. -/
inductive Halt where
  | malformed (reason : Reason) (left : Nat)
  | index (fault : NumberFault)
  deriving DecidableEq, Repr

/-- A template read from the front of `text`, with what is left of it. -/
structure Read (text : List Char) where
  template : Template
  rest : List Char
  rest_le : rest.length ≤ text.length

/-- The same reading seen from a longer text, with `first` put in front of the template. -/
def Read.within {text : List Char} (read : Read text) (first : Template) (outer : List Char)
    (h : text.length ≤ outer.length) : Read outer :=
  ⟨first ++ read.template, read.rest, Nat.le_trans read.rest_le h⟩

def isNameStart (c : Char) : Bool := c = '_' || ('a' ≤ c && c ≤ 'z') || ('A' ≤ c && c ≤ 'Z')

def isNameChar (c : Char) : Bool := isNameStart c || isDigit c

theorem length_dropWhile_le (p : Char → Bool) (cs : List Char) :
    (cs.dropWhile p).length ≤ cs.length :=
  (List.dropWhile_suffix p).length_le

mutual

/-- Reads elements to the end of the text or, inside a placeholder, to the brace that closes it. -/
def readSequence (nested : Bool) (text : List Char) : Except Halt (Read text) :=
  match text with
  | [] => if nested then .error (.malformed .unterminated 0) else .ok ⟨done, [], Nat.le_refl _⟩
  | '\\' :: c :: cs =>
    if isEscapable c then
      match readSequence nested cs with
      | .error halt => .error halt
      | .ok more => .ok (more.within (char c done) _ (Nat.le_succ_of_le (Nat.le_succ _)))
    else
      match readSequence nested (c :: cs) with
      | .error halt => .error halt
      | .ok more => .ok (more.within (char '\\' done) _ (Nat.le_succ _))
  | '$' :: cs =>
    match readDollar cs with
    | .error halt => .error halt
    | .ok placeholder =>
      have := placeholder.rest_le
      match readSequence nested placeholder.rest with
      | .error halt => .error halt
      | .ok more => .ok (more.within placeholder.template _ (Nat.le_succ_of_le placeholder.rest_le))
  | c :: cs =>
    if c = '}' ∧ nested then .ok ⟨done, c :: cs, Nat.le_refl _⟩
    else
      match readSequence nested cs with
      | .error halt => .error halt
      | .ok more => .ok (more.within (char c done) _ (Nat.le_succ _))
termination_by text.length
decreasing_by all_goals simp only [List.length_cons] at *; omega

/-- Reads what a dollar sign begins: a bare placeholder, one in braces, or nothing, in which case
the sign is literal. -/
def readDollar (text : List Char) : Except Halt (Read text) :=
  match text with
  | [] => .ok ⟨char '$' done, [], Nat.le_refl _⟩
  | c :: cs =>
    if isDigit c then
      match readNumber ((c :: cs).takeWhile isDigit) with
      | .error fault => .error (.index fault)
      | .ok index =>
        .ok ⟨bare (.index index) done, (c :: cs).dropWhile isDigit, length_dropWhile_le _ _⟩
    else if isNameStart c then
      .ok ⟨bare (.name ((c :: cs).takeWhile isNameChar)) done, (c :: cs).dropWhile isNameChar,
        length_dropWhile_le _ _⟩
    else if c = '{' then
      match cs with
      | [] => .error (.malformed .headExpected 0)
      | d :: ds =>
        if isDigit d then
          match readNumber ((d :: ds).takeWhile isDigit) with
          | .error fault => .error (.index fault)
          | .ok index =>
            match readTail (.index index) ((d :: ds).dropWhile isDigit) with
            | .error halt => .error halt
            | .ok tail => .ok (tail.within done _ (Nat.le_succ_of_le (length_dropWhile_le _ _)))
        else if isNameStart d then
          match readTail (.name ((d :: ds).takeWhile isNameChar))
              ((d :: ds).dropWhile isNameChar) with
          | .error halt => .error halt
          | .ok tail => .ok (tail.within done _ (Nat.le_succ_of_le (length_dropWhile_le _ _)))
        else .error (.malformed .headExpected (d :: ds).length)
    else .ok ⟨char '$' done, c :: cs, Nat.le_refl _⟩
termination_by text.length
decreasing_by all_goals exact Nat.lt_succ_of_le (length_dropWhile_le _ _)

/-- Reads the end of a placeholder in braces: the closing brace, or a colon, the default and the
closing brace. -/
def readTail (head : Head) (text : List Char) : Except Halt (Read text) :=
  match text with
  | [] => .error (.malformed .tailExpected 0)
  | c :: cs =>
    if c = '}' then .ok ⟨closed head done, cs, Nat.le_succ _⟩
    else if c = ':' then
      match readSequence true cs with
      | .error halt => .error halt
      | .ok default =>
        .ok ⟨filled head default.template done, default.rest.drop 1,
          Nat.le_succ_of_le (Nat.le_trans (List.drop_suffix _ _).length_le default.rest_le)⟩
    else .error (.malformed .tailExpected (c :: cs).length)
termination_by text.length
decreasing_by simp only [List.length_cons]; omega

end

/-- Reads a whole text as a template. -/
def read (text : List Char) : Except Fault Template :=
  match readSequence false text with
  | .ok whole => .ok whole.template
  | .error (.malformed reason left) => .error (.malformed reason (text.length - left))
  | .error (.index fault) => .error (.index fault)

end ScriptAssist.Template
