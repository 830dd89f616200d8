namespace ScriptAssist.Text

/-- The characters that end a line. -/
def isBreak (c : Char) : Bool :=
  ['\n', '\r', '\x0b', '\x0c', '\x1c', '\x1d', '\x1e', '\u0085', '\u2028', '\u2029'].contains c

/-- Cuts a text after each line break. A carriage return with the line feed after it is one break,
each line keeps its break, and the empty text has no lines. -/
def splitLines : List Char → List (List Char)
  | [] => []
  | '\r' :: '\n' :: cs => ['\r', '\n'] :: splitLines cs
  | c :: cs =>
    if isBreak c then [c] :: splitLines cs
    else
      match splitLines cs with
      | [] => [[c]]
      | line :: lines => (c :: line) :: lines

/-- A line feed for each carriage return with a line feed behind it. -/
def joinBreaks : List Char → List Char
  | '\r' :: '\n' :: cs => '\n' :: joinBreaks cs
  | c :: cs => c :: joinBreaks cs
  | [] => []

/-- A line feed for each carriage return, whether or not a line feed stands behind it. -/
def unifyBreaks (text : List Char) : List Char :=
  (joinBreaks text).map fun c => if c = '\r' then '\n' else c

/-- Running offsets of the lines when the first begins at `offset`; the last entry is the end. -/
def startsFrom (offset : Nat) : List (List Char) → List Nat
  | [] => [offset]
  | line :: lines => offset :: startsFrom (offset + line.length) lines

/-- The offset at which each line begins, then the total length. -/
def lineStarts (lines : List (List Char)) : List Nat := startsFrom 0 lines

@[simp] theorem splitLines_nil : splitLines [] = [] := rfl

/-- Nothing of a text is lost. -/
@[simp] theorem flatten_splitLines (text : List Char) : (splitLines text).flatten = text := by
  fun_induction splitLines text with
  | case1 => rfl
  | case2 cs ih => simp [ih]
  | case3 c cs _ _ ih => simp [ih]
  | case4 c cs _ _ h ih => simpa [h] using ih
  | case5 c cs _ _ line lines h ih => simpa [h] using ih

@[simp] theorem startsFrom_length (offset : Nat) (lines : List (List Char)) :
    (startsFrom offset lines).length = lines.length + 1 := by
  induction lines generalizing offset with
  | nil => rfl
  | cons line lines ih => simp [startsFrom, ih]

/-! ## Blank characters -/

/-- The blank characters: controls that separate lines or fields, the next-line character and every
Unicode space. -/
def isBlank (c : Char) : Bool :=
  let n := c.toNat
  (0x09 ≤ n && n ≤ 0x0D) || (0x1C ≤ n && n ≤ 0x20) || n == 0x85 || n == 0xA0 || n == 0x1680 ||
  (0x2000 ≤ n && n ≤ 0x200A) || n == 0x2028 || n == 0x2029 || n == 0x202F || n == 0x205F ||
  n == 0x3000

/-- Drops the blank characters at both ends. -/
def trim (cs : List Char) : List Char :=
  ((cs.dropWhile isBlank).reverse.dropWhile isBlank).reverse

/-- Drops the blank characters at both ends of a string. -/
def trimmed (s : String) : String := String.ofList (trim s.toList)

@[simp] theorem trim_nil : trim [] = [] := rfl

end ScriptAssist.Text
