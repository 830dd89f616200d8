import ScriptAssist.Text.Number
import ScriptAssist.Text.Units

namespace ScriptAssist

open Text

/-- A place as a client counts it: the line from zero, the character in code units from zero. -/
structure Position where
  line : Nat
  character : Nat
  deriving DecidableEq, Repr

/-- The lines of a text with the offset at which each begins, and the total length at the end.
A table made from a text agrees with itself; one handed in need not. -/
structure LineTable where
  lines : List (List Char)
  starts : List Int
  deriving DecidableEq, Repr

namespace LineTable

/-- Why an offset has no position. -/
inductive Fault where
  /-- The offset is negative or beyond the end of the text. -/
  | outside (offset length : Int)
  /-- It is, and it cannot be said so. -/
  | number (fault : NumberFault)
  /-- The table ends before the entry that the search needs. -/
  | missingEntry
  /-- A line that ends in a break was found for the offset behind it, yet more lines follow. -/
  | brokenOrder
  deriving DecidableEq, Repr

def Fault.message : Fault → String
  | .outside offset length =>
    s!"offset range [{offset}, {offset}) falls outside text of length {length}"
  | .number fault => fault.message
  | .missingEntry => "list index out of range"
  | .brokenOrder => "offset at a line break must belong to the next line"

/-- The fault of an offset outside of a text. It names both numbers from the start, so both must be
written. -/
def outsideFault (offset length : Int) : Fault :=
  if Writable offset ∧ Writable length then .outside offset length else .number .tooLarge

def ofLines (lines : List (List Char)) : LineTable := ⟨lines, (lineStarts lines).map Int.ofNat⟩

def ofText (text : List Char) : LineTable := ofLines (splitLines text)

/-- Halves the range from `lo` to `hi` until one place is left: the first entry above `offset`, if
the entries ascend. -/
def search (starts : List Int) (offset : Int) (lo hi : Nat) : Except Fault Nat :=
  if _h : lo < hi then
    match starts[(lo + hi) / 2]? with
    | none => .error .missingEntry
    | some start =>
      if offset < start then search starts offset lo ((lo + hi) / 2)
      else search starts offset ((lo + hi) / 2 + 1) hi
  else .ok lo
termination_by hi - lo

/-- The position of the place `column` characters into line `index`. The end of a line without a
break is on that line; the end of a last line with a break is the start of the line after it. -/
def place (table : LineTable) (encoding : Encoding) (index : Nat) (column : Int) :
    Except Fault Position :=
  match table.lines[index]? with
  | none => .error .missingEntry
  | some line =>
    if column = line.length then
      if line.isEmpty then .error .missingEntry
      else if line.any isBreak then
        if index + 1 = table.lines.length then .ok ⟨table.lines.length, 0⟩
        else .error .brokenOrder
      else .ok ⟨index, encoding.width line⟩
    else .ok ⟨index, encoding.width (line.take column.toNat)⟩

/-- The position of an offset: the last line that begins at or before it, and the code units of
that line up to it. -/
def position (table : LineTable) (encoding : Encoding) (offset : Int) : Except Fault Position :=
  match table.starts.getLast? with
  | none => .error .missingEntry
  | some total =>
    if offset < 0 ∨ total < offset then .error (outsideFault offset total)
    else
      match search table.starts offset 0 table.lines.length with
      | .error fault => .error fault
      | .ok 0 => .ok ⟨0, 0⟩
      | .ok (index + 1) =>
        match table.starts[index]? with
        | none => .error .missingEntry
        | some start => table.place encoding index (offset - start)

end LineTable

end ScriptAssist
