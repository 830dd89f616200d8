import ScriptAssist.Text.Line
import ScriptAssist.Toml.Scalar

namespace ScriptAssist.Toml

/-- Passes a comment, if one begins here. -/
def skipComment (text : List Char) : Except Fault (List Char) :=
  if text.head? = some '#' then
    if (text.takeWhile (· ≠ '\n')).any isControl then .error .malformed
    else .ok (text.dropWhile (· ≠ '\n'))
  else .ok text

/-- Passes space, breaks and comments; there are at most as many comments as characters. -/
def skipFiller : Nat → List Char → Except Fault (List Char)
  | 0, text => .ok text
  | count + 1, text =>
    let rest := skipSpaceAndBreaks text
    if rest.head? = some '#' then
      match skipComment rest with
      | .ok after => skipFiller count after
      | .error fault => .error fault
    else .ok rest

def filler (text : List Char) : Except Fault (List Char) := skipFiller (text.length + 1) text

/-! ## Keys -/

def isBare (c : Char) : Bool :=
  ('a' ≤ c && c ≤ 'z') || ('A' ≤ c && c ≤ 'Z') || ('0' ≤ c && c ≤ '9') || c = '-' || c = '_'

/-- One name of a key, bare or quoted. -/
def readName (text : List Char) : Except Fault (String × List Char) :=
  match text with
  | [] => .error .malformed
  | c :: cs =>
    if isBare c then .ok (String.ofList (text.takeWhile isBare), text.dropWhile isBare)
    else if c = '\'' || c = '"' then
      (readOneLine c cs).map fun (name, rest) => (String.ofList name, rest)
    else .error .malformed

/-- The names of a key with dots between them, and the space around them. -/
def readNames : Nat → List Char → Except Fault (Key × List Char)
  | 0, _ => .error .malformed
  | count + 1, text => do
    let (name, rest) ← readName text
    match skipSpace rest with
    | '.' :: after =>
      let (names, rest) ← readNames count (skipSpace after)
      .ok (name :: names, rest)
    | rest => .ok ([name], rest)

def readKey (text : List Char) : Except Fault (Key × List Char) := readNames (text.length + 1) text

/-! ## Values -/

/-- A key, an equals sign and a value. -/
def readPair (element : Reader Value) (text : List Char) :
    Except Fault ((Key × Value) × List Char) := do
  let (key, rest) ← readKey text
  match rest with
  | '=' :: after =>
    let (value, rest) ← element (skipSpace after)
    .ok ((key, value), rest)
  | _ => .error .malformed

/-- The items of an array behind its opening bracket or a comma. -/
def readArray (element : Reader Value) : Nat → List Value → Reader Value
  | 0, _, _ => .error .malformed
  | count + 1, items, text => do
    match ← filler text with
    | ']' :: rest => .ok (.array items, rest)
    | text =>
      let (item, rest) ← element text
      match ← filler rest with
      | ']' :: rest => .ok (.array (items ++ [item]), rest)
      | ',' :: rest => readArray element count (items ++ [item]) rest
      | _ => .error .malformed

/-- Adds a pair to an inline table, unless it would extend an inline value. -/
def inlineAdd? (document : Document) (key : Key) (value : Value) : Option Document :=
  if document.isFrozen key then none
  else
    (document.root.change false (Table.add? (key.getLastD "") value) key.dropLast).map fun root =>
      { document with
        root
        frozen := if value.isInline then key :: document.frozen else document.frozen }

/-- The pairs of an inline table. -/
def readInline (element : Reader Value) : Nat → Document → Reader Value
  | 0, _, _ => .error .malformed
  | count + 1, document, text => do
    let ((key, value), rest) ← readPair element text
    match inlineAdd? document key value with
    | none => .error .malformed
    | some document =>
      match skipSpace rest with
      | '}' :: rest => .ok (.table document.root, rest)
      | ',' :: rest => readInline element count document (skipSpace rest)
      | _ => .error .malformed

/-- A value in which others are nested at most `depth` deep. -/
def readValue : Nat → List Char → Except Fault (Value × List Char)
  | 0, _ => .error .malformed
  | depth + 1, text =>
    let string := fun (result : Except Fault (List Char × List Char)) =>
      result.map fun (s, rest) => (Value.string (String.ofList s), rest)
    match text with
    | '"' :: '"' :: '"' :: cs => string (readMultiLine '"' cs)
    | '\'' :: '\'' :: '\'' :: cs => string (readMultiLine '\'' cs)
    | '"' :: cs => string (readOneLine '"' cs)
    | '\'' :: cs => string (readOneLine '\'' cs)
    | 't' :: 'r' :: 'u' :: 'e' :: cs => .ok (.boolean true, cs)
    | 'f' :: 'a' :: 'l' :: 's' :: 'e' :: cs => .ok (.boolean false, cs)
    | '[' :: cs => readArray (readValue depth) (cs.length + 1) [] cs
    | '{' :: cs =>
      match skipSpace cs with
      | '}' :: rest => .ok (.table [], rest)
      | rest => readInline (readValue depth) (rest.length + 1) {} rest
    | _ => readPlain text

/-! ## Files -/

/-- A header behind its opening brackets: a key and as many closing brackets. -/
def readHeader (isItem : Bool) (document : Document) (text : List Char) :
    Except Fault ((Document × Key) × List Char) := do
  let (key, rest) ← readKey (skipSpace text)
  let declared := if isItem then document.declareItem? key else document.declareTable? key
  let closing := if isItem then [']', ']'] else [']']
  match declared with
  | none => .error .malformed
  | some document =>
    if closing.isPrefixOf rest then .ok ((document, key), rest.drop closing.length)
    else .error .malformed

/-- One statement, which begins with neither space nor break: the document and header after it. -/
def readStatement (document : Document) (header : Key) (text : List Char) :
    Except Fault ((Document × Key) × List Char) :=
  match text with
  | '[' :: '[' :: cs => readHeader true document.settle cs
  | '[' :: cs => readHeader false document.settle cs
  | '#' :: _ => .ok ((document, header), text)
  | _ => do
    let ((key, value), rest) ← readPair (readValue (text.length + 1)) text
    match document.assign? header key value with
    | none => .error .malformed
    | some document => .ok ((document, header), rest)

/-- The statements of a file, one a line; there are at most as many lines as characters. -/
def readLines : Nat → Document → Key → List Char → Except Fault Document
  | 0, _, _, _ => .error .malformed
  | count + 1, document, header, text =>
    match skipSpace text with
    | [] => .ok document
    | '\n' :: rest => readLines count document header rest
    | text => do
      let ((document, header), rest) ← readStatement document header text
      match ← skipComment (skipSpace rest) with
      | [] => .ok document
      | '\n' :: rest => readLines count document header rest
      | _ => .error .malformed

/-- Reads a configuration file. -/
def read (text : List Char) : Except Fault Table :=
  let text := Text.joinBreaks text
  (readLines (text.length + 1) {} [] text).map Document.root

end ScriptAssist.Toml
