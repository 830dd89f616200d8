import ScriptAssist.Text.Number
import ScriptAssist.Toml

namespace ScriptAssist.Toml

open Text

/-- Why a text is no configuration: it breaks the grammar, or a number has too many digits. -/
inductive Fault where
  | malformed
  | number (fault : NumberFault)
  deriving DecidableEq, Repr

/-- Takes a value off the front of a text, and gives the text behind it. -/
abbrev Reader (α : Type) := List Char → Except Fault (α × List Char)

/-- Control characters other than the tab are not allowed in comments and strings. -/
def isControl (c : Char) : Bool := (c.toNat < 0x20 && c ≠ '\t') || c.toNat = 0x7F

def isSpace (c : Char) : Bool := c = ' ' || c = '\t'

def skipSpace (text : List Char) : List Char := text.dropWhile isSpace

def skipSpaceAndBreaks (text : List Char) : List Char :=
  text.dropWhile fun c => isSpace c || c = '\n'

/-! ## Strings -/

/-- The text before the first occurrence of `mark`, and the text behind it. -/
def splitAt? (mark : List Char) : List Char → Option (List Char × List Char)
  | [] => none
  | c :: cs =>
    if mark.isPrefixOf (c :: cs) then some ([], (c :: cs).drop mark.length)
    else (splitAt? mark cs).map fun found => (c :: found.1, found.2)

/-- A literal string behind its opening mark. -/
def readLiteral (mark : List Char) (text : List Char) : Except Fault (List Char × List Char) :=
  match splitAt? mark text with
  | none => .error .malformed
  | some (inside, rest) =>
    if inside.any fun c => isControl c && !(c = '\n' && mark.length = 3) then .error .malformed
    else .ok (inside, rest)

/-- The characters that an escape writes, and how long it is without its backslash. -/
def readEscape (multiLine : Bool) (text : List Char) : Except Fault (List Char × Nat) :=
  let code := fun width =>
    let digits := (text.drop 1).take width
    if digits.length = width && digits.all isHexDigit && (hexNumber digits).isValidChar then
      .ok ([Char.ofNat (hexNumber digits)], width + 1)
    else .error .malformed
  match text with
  | [] => .error .malformed
  | c :: _ =>
    if multiLine && (isSpace c || c = '\n') then
      -- A backslash at the end of a line takes the break and all space behind it with it.
      match skipSpace text with
      | [] => .ok ([], text.length)
      | d :: _ =>
        if d = '\n' then .ok ([], text.length - (skipSpaceAndBreaks text).length)
        else .error .malformed
    else if c = 'u' then code 4
    else if c = 'U' then code 8
    else
      match [('b', '\x08'), ('t', '\t'), ('n', '\n'), ('f', '\x0c'), ('r', '\r'), ('"', '"'),
          ('\\', '\\')].lookup c with
      | some d => .ok ([d], 1)
      | none => .error .malformed

/-- A basic string behind its opening mark; `found` is in reverse order. -/
def readBasic (multiLine : Bool) (found text : List Char) : Except Fault (List Char × List Char) :=
  match text with
  | [] => .error .malformed
  | c :: cs =>
    if c = '"' then
      if !multiLine then .ok (found.reverse, cs)
      else if ['"', '"'].isPrefixOf cs then .ok (found.reverse, cs.drop 2)
      else readBasic multiLine (c :: found) cs
    else if c = '\\' then
      match readEscape multiLine cs with
      | .error fault => .error fault
      | .ok (written, size) => readBasic multiLine (written.reverse ++ found) (cs.drop size)
    else if isControl c && !(c = '\n' && multiLine) then .error .malformed
    else readBasic multiLine (c :: found) cs
termination_by text.length
decreasing_by all_goals simp only [List.length_cons, List.length_drop] at *; omega

/-- Up to two more quotes at the end of a string of several lines belong to it. -/
def withExtraQuotes (quote : Char) (result : List Char × List Char) : List Char × List Char :=
  let extra := (result.2.takeWhile (· = quote)).take 2
  (result.1 ++ extra, result.2.drop extra.length)

/-- A string of several lines behind its opening mark; a break right behind the mark is dropped. -/
def readMultiLine (quote : Char) (text : List Char) : Except Fault (List Char × List Char) :=
  let text := if text.head? = some '\n' then text.drop 1 else text
  let body := if quote = '"' then readBasic true [] text else readLiteral ['\'', '\'', '\''] text
  body.map (withExtraQuotes quote)

/-- A string on one line behind its opening quote. -/
def readOneLine (quote : Char) (text : List Char) : Except Fault (List Char × List Char) :=
  if quote = '"' then readBasic false [] text else readLiteral ['\''] text

/-! ## Numbers -/

/-- A number with a letter for its base behind the zero. -/
def basedNumber? (text : List Char) : Option (Value × List Char) :=
  let based := fun (base : Nat) (test : Char → Bool) (text : List Char) =>
    (digitRun? test text).map fun found =>
      let n := found.1.foldl (fun n c => base * n + (hexValue? c).getD 0) 0
      (Value.integer n, found.2)
  match text with
  | '0' :: 'x' :: cs => based 16 isHexDigit cs
  | '0' :: 'b' :: cs => based 2 (fun c => c = '0' || c = '1') cs
  | '0' :: 'o' :: cs => based 8 (fun c => '0' ≤ c && c ≤ '7') cs
  | _ => none

/-- The fraction of a number, if there is one. -/
def skipFraction (text : List Char) : List Char :=
  match text with
  | '.' :: cs => ((digitRun? isAsciiDigit cs).map Prod.snd).getD text
  | _ => text

/-- The exponent of a number, if there is one. -/
def skipExponent (text : List Char) : List Char :=
  match text with
  | c :: cs =>
    if c = 'e' || c = 'E' then
      let digits := match cs with
        | '+' :: ds => ds
        | '-' :: ds => ds
        | ds => ds
      ((digitRun? isAsciiDigit digits).map Prod.snd).getD text
    else text
  | [] => text

/-- A decimal number, which is a float if it has a fraction or an exponent. -/
def decimalNumber? (text : List Char) : Option (Except Fault Value × List Char) :=
  let (negative, unsigned) := match text with
    | '-' :: cs => (true, cs)
    | '+' :: cs => (false, cs)
    | cs => (false, cs)
  let whole := match unsigned with
    | '0' :: cs => some (['0'], cs)
    | cs => digitRun? isAsciiDigit cs
  whole.map fun (digits, rest) =>
    let after := skipExponent (skipFraction rest)
    if after.length < rest.length then
      (.ok (.float (String.ofList (text.take (text.length - after.length)))), after)
    else
      match readNumber digits with
      | .ok n => (.ok (.integer (if negative then -n else n)), rest)
      | .error fault => (.error (.number fault), rest)

/-- An infinity or a not-a-number. -/
def specialNumber? (text : List Char) : Option (Value × List Char) :=
  ["inf", "nan", "-inf", "+inf", "-nan", "+nan"].findSome? fun name =>
    if name.toList.isPrefixOf text then some (.float name, text.drop name.length) else none

/-! ## Moments -/

/-- A two-digit number within bounds. -/
def twoDigits? (low high : Nat) : List Char → Option (Nat × List Char)
  | a :: b :: cs =>
    let n := 10 * (a.toNat - '0'.toNat) + (b.toNat - '0'.toNat)
    if isAsciiDigit a && isAsciiDigit b && low ≤ n && n ≤ high then some (n, cs) else none
  | _ => none

/-- Passes one given character. -/
def pass? (c : Char) : List Char → Option (List Char)
  | d :: cs => if d = c then some cs else none
  | [] => none

/-- Passes a time of day. -/
def time? (text : List Char) : Option (List Char) := do
  let (_, text) ← twoDigits? 0 23 text
  let text ← pass? ':' text
  let (_, text) ← twoDigits? 0 59 text
  let text ← pass? ':' text
  let (_, text) ← twoDigits? 0 59 text
  match text with
  | '.' :: c :: cs => if isAsciiDigit c then some (cs.dropWhile isAsciiDigit) else some text
  | _ => some text

/-- Passes an offset from universal time, if there is one. -/
def skipOffset (text : List Char) : List Char :=
  match text with
  | 'Z' :: cs => cs
  | 'z' :: cs => cs
  | c :: cs =>
    let offset := do
      let (_, text) ← twoDigits? 0 23 cs
      let text ← pass? ':' text
      let (_, text) ← twoDigits? 0 59 text
      some text
    if c = '+' || c = '-' then offset.getD text else text
  | [] => []

def daysIn (year month : Nat) : Nat :=
  if month = 2 then if year % 4 = 0 ∧ (year % 100 ≠ 0 ∨ year % 400 = 0) then 29 else 28
  else if month = 4 ∨ month = 6 ∨ month = 9 ∨ month = 11 then 30
  else 31

/-- A date, with a time of day and an offset if they follow: whether there is such a day, and the
text behind it. -/
def date? (text : List Char) : Option (Bool × List Char) := do
  let (century, text) ← twoDigits? 0 99 text
  let (year, text) ← twoDigits? 0 99 text
  let text ← pass? '-' text
  let (month, text) ← twoDigits? 1 12 text
  let text ← pass? '-' text
  let (day, text) ← twoDigits? 1 31 text
  let year := 100 * century + year
  let withTime := match text with
    | c :: cs => if c = 'T' || c = 't' || c = ' ' then (time? cs).map skipOffset else none
    | [] => none
  some (0 < year && day ≤ daysIn year month, withTime.getD text)

/-- A value that is neither string, array, table nor boolean. -/
def readPlain (text : List Char) : Except Fault (Value × List Char) :=
  let spelling := fun rest : List Char => String.ofList (text.take (text.length - rest.length))
  match date? text with
  | some (false, _) => .error .malformed
  | some (true, rest) => .ok (.moment (spelling rest), rest)
  | none =>
    match time? text with
    | some rest => .ok (.moment (spelling rest), rest)
    | none =>
      match basedNumber? text with
      | some found => .ok found
      | none =>
        match decimalNumber? text with
        | some (.ok value, rest) => .ok (value, rest)
        | some (.error fault, _) => .error fault
        | none =>
          match specialNumber? text with
          | some found => .ok found
          | none => .error .malformed

end ScriptAssist.Toml
