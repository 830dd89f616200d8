import ScriptAssist.Pattern
import ScriptAssist.Text.Case

namespace ScriptAssist.Pattern

open Text

/-- A place in a text: its offset, the character before it and the text from it on. -/
structure Cursor where
  offset : Nat
  previous : Option Char
  rest : List Char
  deriving DecidableEq, Repr

namespace Cursor

/-- Passes one character that satisfies `test`. -/
def pass? (cursor : Cursor) (test : Char → Bool) : Option Cursor :=
  match cursor.rest with
  | [] => none
  | c :: cs => if test c then some ⟨cursor.offset + 1, some c, cs⟩ else none

end Cursor

/-- What is left to match after a pattern: it takes the place where the pattern ended and gives the
place where the whole match ends. -/
abbrev Continue := Cursor → Option Cursor

/-- A pattern's way of matching: the ends it offers are tried in its order of preference. -/
abbrev Matcher := Cursor → Continue → Option Cursor

/-- Whether `c` lies in one of the ranges, in some case if case is ignored. -/
def inRanges (options : Options) (ranges : List (Char × Char)) (c : Char) : Bool :=
  if options.ignoreCase then
    (caseVariants c).any fun n => ranges.any fun range => range.1.toNat ≤ n && n ≤ range.2.toNat
  else ranges.any fun range => range.1 ≤ c && c ≤ range.2

/-- The start of the text, or of a line in multi-line mode. -/
def isLineStart (options : Options) (cursor : Cursor) : Bool :=
  match cursor.previous with
  | none => true
  | some c => options.multiLine && c = '\n'

/-- The end of the text or before a line feed that ends it, or before any line feed in multi-line
mode. -/
def isLineEnd (options : Options) (cursor : Cursor) : Bool :=
  match cursor.rest with
  | [] => true
  | c :: cs => c = '\n' && (options.multiLine || cs.isEmpty)

/-- Exactly `count` rounds. -/
def exactly (body : Matcher) : Nat → Matcher
  | 0, cursor, next => next cursor
  | count + 1, cursor, next => body cursor fun after => exactly body count after next

/-- At most `count` rounds, none of them from a place where the round before it, which began at
`last`, did not move on. -/
def atMost (body : Matcher) (greedy : Bool) : Nat → Option Nat → Matcher
  | 0, _, cursor, next => next cursor
  | count + 1, last, cursor, next =>
    if last = some cursor.offset then next cursor
    else
      let another := fun (_ : Unit) =>
        body cursor fun after => atMost body greedy count (some cursor.offset) after next
      if greedy then (another ()).or (next cursor) else (next cursor).or (another ())

/-- How many rounds beyond the least are worth trying: a round that does not move on is the last
one, so there is at most one more of them than characters left. -/
def spare (least : Nat) (most : Option Nat) (cursor : Cursor) : Nat :=
  match most with
  | none => cursor.rest.length + 1
  | some most => min (most - least) (cursor.rest.length + 1)

/-- Backtracking: the first end, in order of preference, from which `next` succeeds. -/
def run (options : Options) : Pattern → Matcher
  | empty, cursor, next => next cursor
  | char c, cursor, next => (cursor.pass? (inRanges options [(c, c)])).bind next
  | any, cursor, next => (cursor.pass? fun c => options.dotAll || c ≠ '\n').bind next
  | set negated ranges, cursor, next =>
    (cursor.pass? fun c => inRanges options ranges c ≠ negated).bind next
  | lineStart, cursor, next => if isLineStart options cursor then next cursor else none
  | lineEnd, cursor, next => if isLineEnd options cursor then next cursor else none
  | seq first second, cursor, next =>
    first.run options cursor fun after => second.run options after next
  | alt first second, cursor, next =>
    (first.run options cursor next).or (second.run options cursor next)
  | group body, cursor, next => body.run options cursor next
  | rounds body least most greedy, cursor, next =>
    exactly (body.run options) least cursor fun after =>
      atMost (body.run options) greedy (spare least most after) none after next
  | once body, cursor, next => (body.run options cursor some).bind next
  | ahead positive body, cursor, next =>
    if (body.run options cursor some).isSome = positive then next cursor else none

/-- The end of the preferred match that begins at the cursor and is not empty. -/
def endAt? (pattern : Pattern) (options : Options) (cursor : Cursor) : Option Nat :=
  (pattern.run options cursor fun after =>
    if cursor.offset < after.offset then some after else none).map Cursor.offset

/-- A matched piece of a text. -/
structure Span where
  first : Nat
  last : Nat
  text : List Char
  deriving DecidableEq, Repr

/-- Scans from a place on, after `skip` more characters that belong to the match before. -/
def scanFrom (pattern : Pattern) (options : Options) :
    Nat → Nat → Option Char → List Char → List Span
  | _, _, _, [] => []
  | skip + 1, offset, _, c :: cs => scanFrom pattern options skip (offset + 1) (some c) cs
  | 0, offset, previous, c :: cs =>
    match pattern.endAt? options ⟨offset, previous, c :: cs⟩ with
    | none => scanFrom pattern options 0 (offset + 1) (some c) cs
    | some last =>
      ⟨offset, last, (c :: cs).take (last - offset)⟩ ::
        scanFrom pattern options (last - offset - 1) (offset + 1) (some c) cs

/-- The matches of a pattern from left to right. None is empty and none overlaps another. -/
def scan (pattern : Pattern) (options : Options) (text : List Char) : List Span :=
  pattern.scanFrom options 0 0 none text

end ScriptAssist.Pattern
