import ScriptAssist.Pattern
import ScriptAssist.Text.Digit

namespace ScriptAssist.Pattern

open Text

/-- What is wrong with a written pattern. -/
inductive Reason where
  | danglingBackslash
  | incompleteEscape (spelling : List Char)
  | badEscape (spelling : List Char)
  | unterminatedSet
  | badRange (name : List Char)
  | nothingToRepeat
  | multipleRepeat
  | reversedBounds
  | unknownExtension (name : List Char)
  | unexpectedEnd
  | unclosedGroup
  | unopenedGroup
  /-- Expressions may have it, but no pattern does. -/
  | uncovered (spelling : List Char)
  deriving DecidableEq, Repr

def Reason.message : Reason → String
  | .danglingBackslash => "bad escape (end of pattern)"
  | .incompleteEscape spelling => "incomplete escape " ++ String.ofList spelling
  | .badEscape spelling => "bad escape " ++ String.ofList spelling
  | .unterminatedSet => "unterminated character set"
  | .badRange name => "bad character range " ++ String.ofList name
  | .nothingToRepeat => "nothing to repeat"
  | .multipleRepeat => "multiple repeat"
  | .reversedBounds => "min repeat greater than max repeat"
  | .unknownExtension name => "unknown extension ?" ++ String.ofList name
  | .unexpectedEnd => "unexpected end of pattern"
  | .unclosedGroup => "missing ), unterminated subpattern"
  | .unopenedGroup => "unbalanced parenthesis"
  | .uncovered spelling => "no pattern covers " ++ String.ofList spelling

/-- Why a text is no pattern, and the offset that shows it. -/
structure Fault where
  reason : Reason
  offset : Nat
  deriving DecidableEq, Repr

/-- The reason and its offset; if the pattern has several lines, also line and column from one. -/
def Fault.message (pattern : List Char) (fault : Fault) : String :=
  let before := pattern.take fault.offset
  let line := before.count '\n' + 1
  let column := (before.reverse.takeWhile (· ≠ '\n')).length + 1
  s!"{fault.reason.message} at position {fault.offset}" ++
    if pattern.contains '\n' then s!" (line {line}, column {column})" else ""

/-! ## Lexemes -/

/-- What one lexeme of a written pattern means. -/
inductive Token where
  /-- A character that may have a meaning of its own. -/
  | plain (c : Char)
  /-- An escape that stands for a character. -/
  | literal (c : Char)
  /-- An escape without a meaning here. -/
  | unknown (reason : Reason)
  /-- A backslash at the very end. -/
  | dangling
  deriving DecidableEq, Repr

/-- A token with its spelling and the offset where it begins. -/
structure Lexeme where
  token : Token
  spelling : List Char
  offset : Nat
  deriving DecidableEq, Repr

namespace Lexeme

def finish (lexeme : Lexeme) : Nat := lexeme.offset + lexeme.spelling.length

/-- How complaints name the lexeme: an escape by its backslash and letter alone. -/
def name (lexeme : Lexeme) : List Char := lexeme.spelling.take 2

/-- Whether the lexeme is the unescaped character `c`. -/
def isPlain (lexeme : Lexeme) (c : Char) : Bool := lexeme.token = .plain c

def digit? (lexeme : Lexeme) : Option Nat :=
  match lexeme.token with
  | .plain c => if '0' ≤ c && c ≤ '9' then some (c.toNat - '0'.toNat) else none
  | _ => none

end Lexeme

/-- The number of hexadecimal digits that an escape letter asks for. -/
def hexWidth? (c : Char) : Option Nat :=
  if c = 'x' then some 2 else if c = 'u' then some 4 else if c = 'U' then some 8 else none

/-- The control characters that have a letter of their own. -/
def control? (c : Char) : Option Char :=
  [('a', '\x07'), ('f', '\x0c'), ('n', '\n'), ('r', '\r'), ('t', '\t'), ('v', '\x0b')].lookup c

/-- Escapes of expressions that patterns do without: classes and boundaries of words, both ends of the
text, characters by name, and groups by number. -/
def isUncoveredEscape (c : Char) : Bool := "AbBdDsSwWZN".toList.contains c || isAsciiDigit c

/-- Extensions of groups that patterns do without: names, references, comments, conditions, what
stands before a place, and flags. -/
def isUncoveredExtension (c : Char) : Bool := "P#(<-aiLmsux".toList.contains c

/-- The meaning of a backslash and `c`, followed by the hexadecimal `digits` that it asks for. -/
def escapeToken (c : Char) (digits : List Char) : Token :=
  let spelling := '\\' :: c :: digits
  match hexWidth? c with
  | some width =>
    if digits.length < width then .unknown (.incompleteEscape spelling)
    else if (hexNumber digits).isValidChar then .literal (Char.ofNat (hexNumber digits))
    else .unknown (.badEscape spelling)
  | none =>
    match control? c with
    | some control => .literal control
    | none =>
      if isUncoveredEscape c then .unknown (.uncovered spelling)
      else if c.isAlphanum then .unknown (.badEscape spelling)
      else .literal c

/-- Cuts a written pattern into lexemes; an escape is one lexeme. -/
def lexemes (offset : Nat) (text : List Char) : List Lexeme :=
  match text with
  | [] => []
  | '\\' :: c :: cs =>
    let digits := (cs.take ((hexWidth? c).getD 0)).takeWhile isHexDigit
    ⟨escapeToken c digits, '\\' :: c :: digits, offset⟩ ::
      lexemes (offset + 2 + digits.length) (cs.drop digits.length)
  | c :: cs =>
    ⟨if c = '\\' then .dangling else .plain c, [c], offset⟩ :: lexemes (offset + 1) cs
termination_by text.length
decreasing_by all_goals simp only [List.length_cons, List.length_drop] at *; omega

/-- What is left of some lexemes. -/
abbrev Rest (input : List Lexeme) := { rest : List Lexeme // rest.length ≤ input.length }

/-- A fault seen once everything before `rest` has been read. A backslash at the very end is noticed
one lexeme ahead, so it is reported instead if it comes next. -/
def refuse {α : Type} (rest : List Lexeme) (reason : Reason) (offset : Nat) : Except Fault α :=
  match rest with
  | ⟨.dangling, _, last⟩ :: _ => .error ⟨.danglingBackslash, last⟩
  | _ => .error ⟨reason, offset⟩

/-! ## Sets -/

/-- The character that a lexeme of a set stands for. -/
def setMember (lexeme : Lexeme) (rest : List Lexeme) : Except Fault Char :=
  match lexeme.token with
  | .plain c => .ok c
  | .literal c => .ok c
  | .unknown reason => refuse rest reason lexeme.offset
  | .dangling => .error ⟨.danglingBackslash, lexeme.offset⟩

/-- Reads the members of a set up to the bracket that closes it. A closing bracket is a member if it
comes first, a hyphen if it comes last; `opened` is the offset of the opening bracket. -/
def readMembers (opened : Nat) (found : List (Char × Char)) (input : List Lexeme) :
    Except Fault (List (Char × Char) × Rest input) :=
  match input with
  | [] => .error ⟨.unterminatedSet, opened⟩
  | lexeme :: rest =>
    if lexeme.isPlain ']' && !found.isEmpty then .ok (found, ⟨rest, Nat.le_succ _⟩)
    else
      match setMember lexeme rest with
      | .error fault => .error fault
      | .ok low =>
        match rest with
        | [] => .error ⟨.unterminatedSet, opened⟩
        | hyphen :: more =>
          if hyphen.isPlain '-' then
            match more with
            | [] => .error ⟨.unterminatedSet, opened⟩
            | upper :: more =>
              if upper.isPlain ']' then
                .ok (found ++ [(low, low), ('-', '-')], ⟨more, Nat.le_add_right _ 3⟩)
              else
                match setMember upper more with
                | .error fault => .error fault
                | .ok high =>
                  if high < low then
                    let name := lexeme.name ++ '-' :: upper.name
                    refuse more (.badRange name) (upper.finish - name.length)
                  else
                    match readMembers opened (found ++ [(low, high)]) more with
                    | .error fault => .error fault
                    | .ok (all, after) =>
                      .ok (all, ⟨after.val, Nat.le_trans after.property (Nat.le_add_right _ 3)⟩)
          else
            match readMembers opened (found ++ [(low, low)]) (hyphen :: more) with
            | .error fault => .error fault
            | .ok (all, after) => .ok (all, ⟨after.val, Nat.le_succ_of_le after.property⟩)
termination_by input.length
decreasing_by all_goals simp only [List.length_cons] at *; omega

/-- Reads a set behind its opening bracket; a caret in front negates it. -/
def readSet (opened : Nat) (input : List Lexeme) : Except Fault (Pattern × Rest input) :=
  match input with
  | [] => .error ⟨.unterminatedSet, opened⟩
  | mark :: more =>
    if mark.isPlain '^' then
      match readMembers opened [] more with
      | .error fault => .error fault
      | .ok (ranges, after) => .ok (.set true ranges, ⟨after.val, Nat.le_succ_of_le after.property⟩)
    else
      match readMembers opened [] (mark :: more) with
      | .error fault => .error fault
      | .ok (ranges, after) => .ok (.set false ranges, after)

/-! ## Repetitions -/

/-- Reads a decimal number off the front, if there is a digit. -/
def readCount (input : List Lexeme) : Option Nat × Rest input :=
  let digits := (input.map Lexeme.digit?).takeWhile Option.isSome |>.filterMap id
  (if digits.isEmpty then none else some (digits.foldl (fun n d => 10 * n + d) 0),
    ⟨input.drop digits.length, (List.drop_suffix _ _).length_le⟩)

/-- Reads the inside of a counted repetition and its closing brace: a count, or two counts with a
comma between them, either of which may be missing. -/
def readBounds (input : List Lexeme) : Option ((Nat × Option Nat) × Rest input) :=
  match readCount input with
  | (_, ⟨[], _⟩) => none
  | (least, ⟨next :: more, h⟩) =>
    if next.isPlain ',' then
      match readCount more with
      | (_, ⟨[], _⟩) => none
      | (most, ⟨close :: after, h'⟩) =>
        if close.isPlain '}' then
          some ((least.getD 0, most),
            ⟨after, Nat.le_trans (Nat.le_of_succ_le h') (Nat.le_of_succ_le h)⟩)
        else none
    else if next.isPlain '}' && least.isSome then
      some ((least.getD 0, least), ⟨more, Nat.le_of_succ_le h⟩)
    else none

/-- Reads the mark behind a repetition: a question mark makes it reluctant, a plus sign makes it
keep what it has taken. -/
def readMark (body : Pattern) (least : Nat) (most : Option Nat) (input : List Lexeme) :
    Pattern × Rest input :=
  match input with
  | [] => (.rounds body least most true, ⟨[], Nat.le_refl _⟩)
  | mark :: rest =>
    if mark.isPlain '?' then (.rounds body least most false, ⟨rest, Nat.le_succ _⟩)
    else if mark.isPlain '+' then
      (.once (.rounds (.once body) least most true), ⟨rest, Nat.le_succ _⟩)
    else (.rounds body least most true, ⟨mark :: rest, Nat.le_refl _⟩)

/-- Why an item cannot be repeated: it is an anchor, or a repetition itself. -/
def repeatObstacle? : Pattern → Option Reason
  | .lineStart => some .nothingToRepeat
  | .lineEnd => some .nothingToRepeat
  | .rounds .. => some .multipleRepeat
  | .once _ => some .multipleRepeat
  | _ => none

/-! ## Groups -/

/-- What an opening parenthesis begins. -/
inductive GroupKind where
  | plain
  | ahead (positive : Bool)
  | once
  deriving DecidableEq, Repr

/-- The pattern of a group from that of its inside. -/
def GroupKind.close : GroupKind → Pattern → Pattern
  | .plain, body => .group body
  | .ahead positive, body => .ahead positive body
  | .once, body => .group (.once body)

/-- Reads the kind of a group behind its opening parenthesis; `length` is that of the whole text. -/
def readKind (length : Nat) (input : List Lexeme) : Except Fault (GroupKind × Rest input) :=
  match input with
  | [] => .ok (.plain, ⟨[], Nat.le_refl _⟩)
  | mark :: rest =>
    if mark.isPlain '?' then
      match rest with
      | [] => .error ⟨.unexpectedEnd, length⟩
      | kind :: more =>
        let rest : Rest (mark :: kind :: more) := ⟨more, Nat.le_add_right _ 2⟩
        match kind.token with
        | .plain ':' => .ok (.plain, rest)
        | .plain '=' => .ok (.ahead true, rest)
        | .plain '!' => .ok (.ahead false, rest)
        | .plain '>' => .ok (.once, rest)
        | .dangling => .error ⟨.danglingBackslash, kind.offset⟩
        | .plain c =>
          let reason : Reason :=
            if isUncoveredExtension c then .uncovered ['?', c] else .unknownExtension kind.name
          refuse more reason mark.offset
        | _ => refuse more (.unknownExtension kind.name) mark.offset
    else .ok (.plain, ⟨mark :: rest, Nat.le_refl _⟩)

/-- A parenthesis that is still open: where it stands, and what had been read before it. -/
structure OpenGroup where
  kind : GroupKind
  offset : Nat
  branches : List Pattern
  items : List Pattern

/-- What has been read: the open groups, innermost first, and the finished branches and the items of
the current branch, both last first. -/
structure Draft where
  groups : List OpenGroup := []
  branches : List Pattern := []
  items : List Pattern := []

namespace Draft

def add (draft : Draft) (item : Pattern) : Draft := { draft with items := item :: draft.items }

/-- Begins another branch. -/
def branch (draft : Draft) : Draft :=
  { draft with branches := sequence draft.items.reverse :: draft.branches, items := [] }

/-- The pattern of the innermost group so far. -/
def inside (draft : Draft) : Pattern := choice draft.branch.branches.reverse

def openGroup (draft : Draft) (kind : GroupKind) (offset : Nat) : Draft :=
  { groups := ⟨kind, offset, draft.branches, draft.items⟩ :: draft.groups }

/-- Makes the innermost group an item of the one around it. -/
def closeGroup? (draft : Draft) : Option Draft :=
  match draft.groups with
  | [] => none
  | innermost :: outer =>
    some ⟨outer, innermost.branches, innermost.kind.close draft.inside :: innermost.items⟩

end Draft

/-- Reads the rest of a written pattern; `length` is that of the whole text. -/
def readItems (length : Nat) (draft : Draft) (input : List Lexeme) : Except Fault Pattern :=
  match input with
  | [] =>
    match draft.groups with
    | [] => .ok draft.inside
    | innermost :: _ => .error ⟨.unclosedGroup, innermost.offset⟩
  | lexeme :: rest =>
    let repeated := fun (least : Nat) (most : Option Nat) (tail : Rest rest) =>
      match draft.items with
      | [] => refuse tail.val .nothingToRepeat lexeme.offset
      | item :: before =>
        match repeatObstacle? item with
        | some reason => refuse tail.val reason lexeme.offset
        | none =>
          have := (readMark item least most tail.val).2.property
          have := tail.property
          readItems length { draft with items := (readMark item least most tail.val).1 :: before }
            (readMark item least most tail.val).2.val
    match lexeme.token with
    | .dangling => .error ⟨.danglingBackslash, lexeme.offset⟩
    | .unknown reason => refuse rest reason lexeme.offset
    | .literal c => readItems length (draft.add (.char c)) rest
    | .plain '.' => readItems length (draft.add .any) rest
    | .plain '^' => readItems length (draft.add .lineStart) rest
    | .plain '$' => readItems length (draft.add .lineEnd) rest
    | .plain '|' => readItems length draft.branch rest
    | .plain '(' =>
      match readKind length rest with
      | .error fault => .error fault
      | .ok (kind, tail) =>
        have := tail.property
        readItems length (draft.openGroup kind lexeme.offset) tail.val
    | .plain ')' =>
      match draft.closeGroup? with
      | none => .error ⟨.unopenedGroup, lexeme.offset⟩
      | some draft => readItems length draft rest
    | .plain '[' =>
      match readSet lexeme.offset rest with
      | .error fault => .error fault
      | .ok (item, tail) =>
        have := tail.property
        readItems length (draft.add item) tail.val
    | .plain '*' => repeated 0 none ⟨rest, Nat.le_refl _⟩
    | .plain '+' => repeated 1 none ⟨rest, Nat.le_refl _⟩
    | .plain '?' => repeated 0 (some 1) ⟨rest, Nat.le_refl _⟩
    | .plain '{' =>
      match readBounds rest with
      | none => readItems length (draft.add (.char '{')) rest
      | some ((least, most), tail) =>
        if most.any (· < least) then refuse tail.val .reversedBounds lexeme.finish
        else repeated least most tail
    | .plain c => readItems length (draft.add (.char c)) rest
termination_by input.length
decreasing_by all_goals simp only [List.length_cons] at *; omega

/-- Reads a written pattern. An expression that is none is refused for what no pattern covers. -/
def read (text : List Char) : Except Fault Pattern :=
  readItems text.length {} (lexemes 0 text)

end ScriptAssist.Pattern
