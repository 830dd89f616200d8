import ScriptAssist.Proofs.Position
import ScriptAssist.Proofs.Text.Breaks

namespace ScriptAssist

open Text

namespace Edit

/-! ## Finding a position again -/

/-- Up to a column that is short of the end of a line, it makes no difference to the code units that
a carriage return and its line feed are taken for one character. -/
theorem width_take_joinBreaks (encoding : Encoding) {line : List Char} {column : Nat}
    (h : Terminated line ∧ column < line.length ∨
      (∀ c ∈ line, isBreak c = false) ∧ column ≤ line.length) :
    column ≤ (joinBreaks line).length ∧
    encoding.width ((joinBreaks line).take column) = encoding.width (line.take column) := by
  rcases h with ⟨⟨body, ending, rfl, unbroken, rfl | ⟨c, hc, rfl⟩⟩, less⟩ | ⟨unbroken, le⟩
  · have joined : joinBreaks (body ++ ['\r', '\n']) = body ++ ['\n'] := joinBreaks_append unbroken _
    simp only [List.length_append, List.length_cons, List.length_nil] at less
    rw [joined, List.length_append, List.length_singleton]
    refine ⟨by omega, ?_⟩
    rw [List.take_append, List.take_append, Encoding.width_append, Encoding.width_append]
    obtain none | one : column - body.length = 0 ∨ column - body.length = 1 := by omega
    · rw [none]
      rfl
    · rw [one]
      cases encoding <;> rfl
  · have joined : joinBreaks (body ++ [c]) = body ++ [c] := by
      rw [joinBreaks_append unbroken]
      simp [joinBreaks]
    rw [joined]
    exact ⟨Nat.le_of_lt less, rfl⟩
  · have joined : joinBreaks line = line := by
      have whole := joinBreaks_append unbroken []
      rwa [List.append_nil, joinBreaks, List.append_nil] at whole
    rw [joined]
    exact ⟨le, rfl⟩

theorem locate_column (encoding : Encoding) {lines : List (List Char)} {index : Nat}
    {line : List Char} (found : lines[index]? = some line) {column : Nat}
    (h : Terminated line ∧ column < line.length ∨
      (∀ c ∈ line, isBreak c = false) ∧ column ≤ line.length) :
    locate encoding lines ⟨index, encoding.width (line.take column)⟩ = (index, column) := by
  obtain ⟨bound, same⟩ := width_take_joinBreaks encoding h
  have nonempty : lines ≠ [] := by
    rintro rfl
    simp at found
  have within : ¬encoding.width (joinBreaks line) < encoding.width (line.take column) := by
    have cut := congrArg encoding.width (List.take_append_drop column (joinBreaks line))
    rw [Encoding.width_append] at cut
    omega
  simp only [locate, List.getLast?_eq_some_getLast nonempty, found, if_neg within]
  rw [← same, LineTable.columnOf_width encoding bound]

/-! ## Writing lines with a piece replaced -/

/-- What is written for line `i`. -/
def piece (first last : Nat × Nat) (text : List Char) (i : Nat) (line : List Char) : List Char :=
  if i < first.1 ∨ last.1 < i then line
  else
    (if i = first.1 then line.take first.2 ++ text else []) ++
      if i = last.1 then line.drop last.2 else []

/-- What is written for lines that are counted from `i` on. -/
def spliceFrom (first last : Nat × Nat) (text : List Char) : Nat → List (List Char) → List Char
  | _, [] => []
  | i, line :: lines => piece first last text i line ++ spliceFrom first last text (i + 1) lines

theorem splice_eq_spliceFrom (first last : Nat × Nat) (text : List Char)
    (lines : List (List Char)) :
    splice first last text lines = spliceFrom first last text 0 lines := by
  have shifted (i : Nat) : (lines.mapIdx fun k => piece first last text (k + i)).flatten =
      spliceFrom first last text i lines := by
    induction lines generalizing i with
    | nil => rfl
    | cons line lines ih =>
      rw [List.mapIdx_cons, List.flatten_cons, spliceFrom, ← ih (i + 1)]
      simp [Nat.add_assoc, Nat.add_comm 1]
  exact shifted 0

section

variable {first last : Nat × Nat} (text : List Char)

theorem spliceFrom_behind {i : Nat} (h : last.1 < i) (lines : List (List Char)) :
    spliceFrom first last text i lines = lines.flatten := by
  induction lines generalizing i with
  | nil => rfl
  | cons line lines ih =>
    rw [spliceFrom, piece, if_pos (Or.inr h), ih (by omega), List.flatten_cons]

/-- Between the two places nothing is written until the second of them. -/
theorem spliceFrom_between {i n : Nat} (behind : first.1 < i) (here : last.1 = i + n)
    {lines : List (List Char)} {line : List Char} (found : lines[n]? = some line) :
    spliceFrom first last text i lines =
      line.drop last.2 ++ (lines.drop (n + 1)).flatten := by
  induction lines generalizing i n with
  | nil => simp at found
  | cons next lines ih =>
    have inside : ¬(i < first.1 ∨ last.1 < i) := by omega
    have other : i ≠ first.1 := by omega
    cases n with
    | zero =>
      obtain rfl : next = line := by simpa using found
      rw [spliceFrom, piece, if_neg inside, if_neg other, if_pos (by omega),
        spliceFrom_behind text (by omega)]
      rfl
    | succ n =>
      have apart : i ≠ last.1 := by omega
      rw [spliceFrom, piece, if_neg inside, if_neg other, if_neg apart,
        ih (show first.1 < i + 1 by omega) (show last.1 = i + 1 + n by omega)
          (by simpa using found)]
      rfl

theorem spliceFrom_eq {i n d : Nat} (start : first.1 = i + n) (finish : last.1 = i + n + d)
    {lines : List (List Char)} {line other : List Char} (found : lines[n]? = some line)
    (ends : lines[n + d]? = some other) :
    spliceFrom first last text i lines =
      (lines.take n).flatten ++ line.take first.2 ++ text ++
        (other.drop last.2 ++ (lines.drop (n + d + 1)).flatten) := by
  induction lines generalizing i n with
  | nil => simp at found
  | cons next lines ih =>
    cases n with
    | zero =>
      obtain rfl : next = line := by simpa using found
      have inside : ¬(i < first.1 ∨ last.1 < i) := by omega
      cases d with
      | zero =>
        obtain rfl : next = other := by simpa using ends
        rw [spliceFrom, piece, if_neg inside, if_pos (by omega), if_pos (by omega),
          spliceFrom_behind text (by omega)]
        simp
      | succ d =>
        have apart : i ≠ last.1 := by omega
        rw [spliceFrom, piece, if_neg inside, if_pos (by omega), if_neg apart,
          spliceFrom_between text (by omega) (show last.1 = i + 1 + d by omega)
            (show lines[d]? = some other by simpa using ends)]
        simp
    | succ n =>
      have before : i < first.1 := by omega
      rw [spliceFrom, piece, if_pos (Or.inl before),
        ih (show first.1 = i + 1 + n by omega) (by omega) (by simpa using found)
          (by rw [← ends, Nat.add_right_comm, List.getElem?_cons_succ])]
      simp [Nat.add_right_comm n 1]

end

/-! ## Replacing what lies between two offsets -/

/-- The place of an offset in the lines, unless it is behind a final break. -/
theorem locate_walk (encoding : Encoding) {lines : List (List Char)} (h : Lines lines)
    {index : Nat} {line : List Char} (found : lines[index]? = some line) {column : Nat}
    (hcolumn : column < line.length ∨ column = line.length ∧ index + 1 = lines.length)
    (inside : column < line.length ∨ line.any isBreak = false) :
    locate encoding lines
        (LineTable.walk encoding lines ((lines.take index).flatten.length + column)) =
      (index, column) := by
  rw [LineTable.walk_column encoding h found hcolumn, if_pos inside]
  apply locate_column encoding found
  cases broken : line.any isBreak with
  | true =>
    have less : column < line.length := by simpa [broken] using inside
    exact Or.inl ⟨h.terminated (List.mem_of_getElem? found) broken, less⟩
  | false => exact Or.inr ⟨by simpa using broken, by omega⟩

/-- An offset of a text that is not behind a final break is a column of one of its lines. -/
theorem exists_column (encoding : Encoding) {text : List Char} (nonempty : text ≠ []) {offset : Nat}
    (within : offset ≤ text.length)
    (inside : offset < text.length ∨ ∀ c ∈ text.getLast?, isBreak c = false) :
    ∃ index line column, (splitLines text)[index]? = some line ∧
      offset = ((splitLines text).take index).flatten.length + column ∧
      (column < line.length ∨ column = line.length ∧ index + 1 = (splitLines text).length) ∧
      (column < line.length ∨ line.any isBreak = false) := by
  have lines := lines_splitLines text
  have some_line := splitLines_ne_nil nonempty
  have within : offset ≤ (splitLines text).flatten.length := by rwa [flatten_splitLines]
  obtain ⟨index, line, column, found, rfl, hcolumn, -⟩ :=
    LineTable.position_ofLines some_line encoding within
  refine ⟨index, line, column, found, rfl, hcolumn, ?_⟩
  rcases hcolumn with less | ⟨rfl, last⟩
  · exact Or.inl less
  · -- Here the offset is the end of the text, so the last line has no break.
    have whole := flatten_take_succ found
    rw [last, List.take_length, flatten_splitLines] at whole
    have ended : ∀ c ∈ text.getLast?, isBreak c = false := by
      apply inside.resolve_left
      have length := congrArg List.length whole
      rw [List.length_append] at length
      omega
    right
    rw [← Bool.not_eq_true]
    intro broken
    obtain ⟨c, final, hc⟩ := (lines.terminated (List.mem_of_getElem? found) broken).getLast?_isBreak
    rw [ended c (by rw [whole, List.getLast?_append, final]; rfl)] at hc
    contradiction

theorem take_flatten {lines : List (List Char)} {n : Nat} {line : List Char}
    (found : lines[n]? = some line) {column : Nat} (h : column ≤ line.length) :
    lines.flatten.take ((lines.take n).flatten.length + column) =
      (lines.take n).flatten ++ line.take column := by
  rw [flatten_eq found, List.take_length_add_append, List.take_append_of_le_length h]

theorem drop_flatten {lines : List (List Char)} {n : Nat} {line : List Char}
    (found : lines[n]? = some line) {column : Nat} (h : column ≤ line.length) :
    lines.flatten.drop ((lines.take n).flatten.length + column) =
      line.drop column ++ (lines.drop (n + 1)).flatten := by
  rw [flatten_eq found, List.drop_length_add_append, List.drop_append_of_le_length h]

/-- Replacing what lies between the positions of two offsets replaces what lies between the
offsets. -/
theorem apply_part (encoding : Encoding) {text : List Char} {first last : Nat} (h : first ≤ last)
    (within : last ≤ text.length)
    (inside : last < text.length ∨ ∀ c ∈ text.getLast?, isBreak c = false) (new : List Char) :
    (Edit.part (LineTable.walk encoding (splitLines text) first)
        (LineTable.walk encoding (splitLines text) last) new).apply encoding text =
      text.take first ++ new ++ text.drop last := by
  by_cases nonempty : text = []
  · subst nonempty
    simp [apply, locate]
  · have lines := lines_splitLines text
    have earlier : first < text.length ∨ ∀ c ∈ text.getLast?, isBreak c = false := by
      rcases inside with less | unbroken
      · exact Or.inl (by omega)
      · exact Or.inr unbroken
    obtain ⟨i, line, a, found, rfl, ha, start⟩ :=
      exists_column encoding nonempty (Nat.le_trans h within) earlier
    obtain ⟨j, other, b, ends, rfl, hb, finish⟩ := exists_column encoding nonempty within inside
    have bound : i < (splitLines text).length := (List.getElem?_eq_some_iff.1 found).1
    have ordered : i ≤ j := by
      by_contra less
      have through := LineTable.flatten_take_le (splitLines text) (show j + 1 ≤ i by omega)
      rw [flatten_take_succ ends, List.length_append] at through
      omega
    obtain ⟨d, rfl⟩ := Nat.exists_eq_add_of_le ordered
    have taken := take_flatten found (show a ≤ line.length by omega)
    have dropped := drop_flatten ends (show b ≤ other.length by omega)
    rw [flatten_splitLines] at taken dropped
    rw [apply]
    simp only [locate_walk encoding lines found ha start, locate_walk encoding lines ends hb finish]
    rw [if_neg (by omega), splice_eq_spliceFrom,
      spliceFrom_eq new (show i = 0 + i by omega) (show i + d = 0 + i + d by omega) found ends,
      taken, dropped]

end Edit

end ScriptAssist
