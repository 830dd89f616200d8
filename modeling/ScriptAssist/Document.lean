import ScriptAssist.Position

namespace ScriptAssist

open Text

/-- A text that a client has open. -/
structure Document where
  text : List Char
  version : Int
  deriving DecidableEq, Repr

/-- A change to a text: a new text, or a new piece between two positions. -/
inductive Edit where
  | whole (text : List Char)
  | part (first last : Position) (text : List Char)
  deriving DecidableEq, Repr

namespace Edit

/-- Counts the characters that are passed until `units` code units are reached. -/
def columnOf (encoding : Encoding) (units : Nat) : List Char → Nat
  | [] => 0
  | c :: cs => if units = 0 then 0 else columnOf encoding (units - encoding.units c) cs + 1

/-- The line and the column, in characters, of a position. A position behind the last line is at its
end; one behind the end of its line is before the last unit of the line. -/
def locate (encoding : Encoding) (lines : List (List Char)) (position : Position) : Nat × Nat :=
  match lines.getLast? with
  | none => (0, 0)
  | some last =>
    match lines[position.line]? with
    | none => (lines.length - 1, encoding.width last)
    | some line =>
      let line := joinBreaks line
      let width := encoding.width line
      let units := if width < position.character then width - 1 else position.character
      (position.line, columnOf encoding units line)

/-- Writes the lines with `text` in place of what lies between two places. -/
def splice (first last : Nat × Nat) (text : List Char) (lines : List (List Char)) : List Char :=
  (lines.mapIdx fun i line =>
    if i < first.1 ∨ last.1 < i then line
    else
      (if i = first.1 then line.take first.2 ++ text else []) ++
        if i = last.1 then line.drop last.2 else []).flatten

/-- Applies a change. -/
def apply (encoding : Encoding) (text : List Char) : Edit → List Char
  | .whole new => new
  | .part first last new =>
    let lines := splitLines text
    let start := locate encoding lines first
    if start.1 = lines.length then text ++ new
    else splice start (locate encoding lines last) new lines

end Edit

/-- Applies changes in order; each sets the version. -/
def Document.change (encoding : Encoding) (version : Int) (document : Document)
    (edits : List Edit) : Document :=
  edits.foldl (fun document edit => ⟨edit.apply encoding document.text, version⟩) document

end ScriptAssist
