import Mathlib.Data.List.Basic
import ScriptAssist.Document
import ScriptAssist.Proofs.Text.Line

namespace ScriptAssist

open Text

/-- The order of positions: by line, then by character. -/
def Position.Before (first second : Position) : Prop :=
  first.line < second.line ∨ first.line = second.line ∧ first.character < second.character

theorem Position.Before.asymm {first second : Position} (h : first.Before second) :
    ¬second.Before first := by
  unfold Before at h ⊢
  omega

theorem Position.Before.ne {first second : Position} (h : first.Before second) :
    first ≠ second := by
  intro same
  rw [same] at h
  exact h.asymm h

namespace LineTable

/-- The position of an offset, found by walking over the lines one after the other. -/
def walk (encoding : Encoding) : List (List Char) → Nat → Position
  | [], _ => ⟨0, 0⟩
  | line :: lines, offset =>
    if offset < line.length ∨ lines = [] ∧ line.any isBreak = false then
      ⟨0, encoding.width (line.take offset)⟩
    else
      let position := walk encoding lines (offset - line.length)
      ⟨position.line + 1, position.character⟩

/-- The offset at which a position stands. -/
def offsetOf (encoding : Encoding) : List (List Char) → Position → Nat
  | [], _ => 0
  | line :: _, ⟨0, character⟩ => Edit.columnOf encoding character line
  | line :: lines, ⟨index + 1, character⟩ =>
    line.length + offsetOf encoding lines ⟨index, character⟩

/-- The search splits ascending entries at `offset`. -/
theorem search_spec {starts : List Int} {entry : Nat → Int} (offset : Int) {lo hi : Nat}
    (entries : ∀ i, i < hi → starts[i]? = some (entry i))
    (ascending : ∀ i j, i ≤ j → entry i ≤ entry j) (h : lo ≤ hi) :
    ∃ r, search starts offset lo hi = .ok r ∧ lo ≤ r ∧ r ≤ hi ∧
      (∀ i, lo ≤ i → i < r → entry i ≤ offset) ∧ (∀ i, r ≤ i → i < hi → offset < entry i) := by
  fun_induction search starts offset lo hi with
  | case1 lo hi hlt missing =>
    rw [entries ((lo + hi) / 2) (by omega)] at missing
    contradiction
  | case2 lo hi hlt start found less ih =>
    rw [entries ((lo + hi) / 2) (by omega), Option.some.injEq] at found
    obtain ⟨r, result, low, high, below, above⟩ :=
      ih (fun i hi => entries i (by omega)) (by omega)
    refine ⟨r, result, low, by omega, below, ?_⟩
    intro i hr upper
    by_cases hm : i < (lo + hi) / 2
    · exact above i hr hm
    · have := ascending ((lo + hi) / 2) i (by omega)
      omega
  | case3 lo hi hlt start found less ih =>
    rw [entries ((lo + hi) / 2) (by omega), Option.some.injEq] at found
    obtain ⟨r, result, low, high, below, above⟩ := ih entries (by omega)
    refine ⟨r, result, by omega, high, ?_, above⟩
    intro i hl hr
    by_cases hm : (lo + hi) / 2 < i
    · exact below i (by omega) hr
    · have := ascending i ((lo + hi) / 2) (by omega)
      omega
  | case4 lo hi hlt =>
    exact ⟨lo, rfl, Nat.le_refl _, h, fun i hl hr => by omega, fun i hr hi => by omega⟩

@[simp] theorem ofLines_lines (lines : List (List Char)) : (ofLines lines).lines = lines := rfl

theorem flatten_take_le (lines : List (List Char)) {i j : Nat} (h : i ≤ j) :
    (lines.take i).flatten.length ≤ (lines.take j).flatten.length := by
  have cut : lines.take j = lines.take i ++ (lines.take j).drop i := by
    have whole := (List.take_append_drop i (lines.take j)).symm
    rwa [List.take_take, Nat.min_eq_left h] at whole
  rw [cut, List.flatten_append, List.length_append]
  exact Nat.le_add_right _ _

/-- An offset within the lines is a column of the last line that begins at or before it. The column
is behind the end of that line only if no line follows. -/
theorem position_ofLines {lines : List (List Char)} (nonempty : lines ≠ []) (encoding : Encoding)
    {offset : Nat} (h : offset ≤ lines.flatten.length) :
    ∃ index line column, lines[index]? = some line ∧
      offset = (lines.take index).flatten.length + column ∧
      (column < line.length ∨ column = line.length ∧ index + 1 = lines.length) ∧
      (ofLines lines).position encoding offset =
        (ofLines lines).place encoding index column := by
  let entry : Nat → Int := fun i => (lines.take i).flatten.length
  have entries (i : Nat) (hi : i ≤ lines.length) : (ofLines lines).starts[i]? = some (entry i) := by
    simp [ofLines, getElem?_lineStarts hi, entry]
  have ascending (i j : Nat) (hij : i ≤ j) : entry i ≤ entry j :=
    Int.ofNat_le.2 (flatten_take_le lines hij)
  have total : (ofLines lines).starts.getLast? = some (lines.flatten.length : Int) := by
    simp [ofLines, getLast?_lineStarts]
  have positive : 0 < lines.length := List.length_pos_iff.2 nonempty
  obtain ⟨r, found, -, high, below, above⟩ :=
    search_spec offset (fun i hi => entries i (Nat.le_of_lt hi)) ascending
      (Nat.zero_le lines.length)
  have within : ¬((offset : Int) < 0 ∨ (lines.flatten.length : Int) < offset) := by omega
  cases r with
  | zero =>
    -- The first line begins at 0, so the search never ends in front of it.
    have first := above 0 (Nat.le_refl 0) positive
    simp only [entry, List.take_zero, List.flatten_nil, List.length_nil] at first
    omega
  | succ index =>
    have hline := List.getElem?_eq_getElem (show index < lines.length by omega)
    have start := below index (Nat.zero_le _) (Nat.lt_succ_self _)
    have next := congrArg List.length (flatten_take_succ hline)
    rw [List.length_append] at next
    refine ⟨index, lines[index], offset - (lines.take index).flatten.length, hline, ?_, ?_, ?_⟩
    · simp only [entry] at start
      omega
    · simp only [entry] at start
      by_cases last : index + 1 = lines.length
      · rw [last, List.take_length] at next
        omega
      · have behind := above (index + 1) (Nat.le_refl _) (by omega)
        simp only [entry] at behind
        omega
    · simp only [position, total, if_neg within, ofLines_lines, found, entries index (by omega)]
      congr 1
      simp only [entry] at start ⊢
      omega

theorem place_of_lt (encoding : Encoding) {lines : List (List Char)} {index : Nat}
    {line : List Char} (found : lines[index]? = some line) {column : Nat}
    (h : column < line.length) :
    (ofLines lines).place encoding index column =
      .ok ⟨index, encoding.width (line.take column)⟩ := by
  have inside : ¬((column : Int) = (line.length : Int)) := by omega
  simp [place, found, inside]

/-- Behind the end of the last line the next line begins, unless the last line has no break. -/
theorem place_end (encoding : Encoding) {lines : List (List Char)} {index : Nat}
    {line : List Char} (found : lines[index]? = some line) (nonempty : line ≠ [])
    (last : index + 1 = lines.length) :
    (ofLines lines).place encoding index line.length =
      .ok (if line.any isBreak then ⟨lines.length, 0⟩ else ⟨index, encoding.width line⟩) := by
  have nonempty : line.isEmpty = false := by simpa using nonempty
  simp only [place, ofLines_lines, found, if_true, nonempty, Bool.false_eq_true, if_false, last]
  split <;> rfl

theorem walk_of_lt (encoding : Encoding) {line : List Char} {offset : Nat}
    (h : offset < line.length) (lines : List (List Char)) :
    walk encoding (line :: lines) offset = ⟨0, encoding.width (line.take offset)⟩ := by
  rw [walk, if_pos (Or.inl h)]

theorem walk_last (encoding : Encoding) {line : List Char} (h : line.any isBreak = false)
    (offset : Nat) :
    walk encoding [line] offset = ⟨0, encoding.width (line.take offset)⟩ := by
  rw [walk, if_pos (Or.inr ⟨rfl, h⟩)]

theorem walk_terminated (encoding : Encoding) {line : List Char} (h : Terminated line)
    (lines : List (List Char)) (offset : Nat) :
    walk encoding (line :: lines) (line.length + offset) =
      ⟨(walk encoding lines offset).line + 1, (walk encoding lines offset).character⟩ := by
  have beyond : ¬(line.length + offset < line.length ∨ lines = [] ∧ line.any isBreak = false) := by
    simp [h.any_isBreak]
  rw [walk, if_neg beyond, Nat.add_sub_cancel_left]

theorem walk_column (encoding : Encoding) {lines : List (List Char)} (h : Lines lines)
    {index : Nat} {line : List Char} (found : lines[index]? = some line) {column : Nat}
    (hcolumn : column < line.length ∨ column = line.length ∧ index + 1 = lines.length) :
    walk encoding lines ((lines.take index).flatten.length + column) =
      if column < line.length ∨ line.any isBreak = false then
        ⟨index, encoding.width (line.take column)⟩
      else ⟨lines.length, 0⟩ := by
  induction h generalizing index with
  | nil => simp at found
  | @last only nonempty unbroken =>
    have unbroken : only.any isBreak = false := by simpa using unbroken
    cases index with
    | succ index => simp at found
    | zero =>
      have same : only = line := by simpa using found
      subst same
      simp [walk_last encoding unbroken, unbroken]
  | @cons first lines terminated more ih =>
    cases index with
    | zero =>
      have same : first = line := by simpa using found
      subst same
      rcases hcolumn with less | ⟨rfl, single⟩
      · simp [walk_of_lt encoding less, less]
      · have single : lines = [] := by simpa using single
        subst single
        have behind : walk encoding [first] first.length = ⟨1, 0⟩ :=
          walk_terminated encoding terminated [] 0
        simp [terminated.any_isBreak, behind]
    | succ index =>
      have found : lines[index]? = some line := by simpa using found
      have later := ih found (by simpa using hcolumn)
      simp only [List.take_succ_cons, List.flatten_cons, List.length_append, Nat.add_assoc]
      rw [walk_terminated encoding terminated, later]
      split <;> rfl

theorem position_outside (encoding : Encoding) (lines : List (List Char)) {offset : Int}
    (h : offset < 0 ∨ (lines.flatten.length : Int) < offset) :
    (ofLines lines).position encoding offset =
      .error (outsideFault offset lines.flatten.length) := by
  have total : (ofLines lines).starts.getLast? = some (lines.flatten.length : Int) := by
    simp [ofLines, getLast?_lineStarts]
  simp only [position, total, if_pos h]

/-- Without lines there is one place only. -/
theorem position_nil (encoding : Encoding) :
    (ofLines []).position encoding (0 : Nat) = .ok ⟨0, 0⟩ := by
  have found : search (ofLines []).starts 0 0 0 = .ok 0 := by
    rw [search]
    rfl
  have total : (ofLines []).starts.getLast? = some 0 := rfl
  simp only [position, total, ofLines_lines, List.length_nil, Int.ofNat_zero, Int.lt_irrefl,
    or_self, if_false, found]

theorem place_empty (encoding : Encoding) {lines : List (List Char)} {index : Nat}
    (found : lines[index]? = some []) :
    (ofLines lines).place encoding index 0 = .error .missingEntry := by
  simp [place, found]

/-- The offset behind all lines is the end of the last one, and the only offset that is the end of a
line at all. So it has no position exactly if the last line is empty, and every other has one. -/
theorem position_within (encoding : Encoding) {lines : List (List Char)} {offset : Nat}
    (h : offset ≤ lines.flatten.length) :
    ((ofLines lines).position encoding offset = .error .missingEntry ∧
      lines.getLast? = some [] ∧ offset = lines.flatten.length) ∨
    ((∃ position, (ofLines lines).position encoding offset = .ok position) ∧
      ¬(lines.getLast? = some [] ∧ offset = lines.flatten.length)) := by
  by_cases nonempty : lines = []
  · subst nonempty
    have zero : offset = 0 := by simpa using h
    subst zero
    exact Or.inr ⟨⟨_, position_nil encoding⟩, by simp⟩
  · obtain ⟨index, line, column, found, rfl, hcolumn, placed⟩ :=
      position_ofLines nonempty encoding h
    have next := congrArg List.length (flatten_take_succ found)
    rw [List.length_append] at next
    rw [placed]
    rcases hcolumn with less | ⟨rfl, last⟩
    · have bound : index + 1 ≤ lines.length := (List.getElem?_eq_some_iff.1 found).1
      have through := flatten_take_le lines bound
      rw [List.take_length] at through
      refine Or.inr ⟨⟨_, place_of_lt encoding found less⟩, ?_⟩
      rintro ⟨-, whole⟩
      omega
    · have final : lines.getLast? = some line := by
        rw [List.getLast?_eq_getElem?, ← last, Nat.add_sub_cancel, found]
      rw [last, List.take_length] at next
      by_cases filled : line = []
      · subst filled
        exact Or.inl ⟨place_empty encoding found, final, next.symm⟩
      · refine Or.inr ⟨⟨_, place_end encoding found filled last⟩, ?_⟩
        rintro ⟨empty, -⟩
        rw [final, Option.some.injEq] at empty
        exact filled empty

theorem position_eq_walk (encoding : Encoding) {lines : List (List Char)} (h : Lines lines)
    {offset : Nat} (within : offset ≤ lines.flatten.length) :
    (ofLines lines).position encoding offset = .ok (walk encoding lines offset) := by
  by_cases nonempty : lines = []
  · subst nonempty
    have zero : offset = 0 := by simpa using within
    subst zero
    exact position_nil encoding
  · obtain ⟨index, line, column, found, rfl, hcolumn, placed⟩ :=
      position_ofLines nonempty encoding within
    rw [placed, walk_column encoding h found hcolumn]
    rcases hcolumn with less | ⟨rfl, last⟩
    · rw [place_of_lt encoding found less, if_pos (Or.inl less)]
    · have filled : line ≠ [] := h.ne_nil line (List.mem_of_getElem? found)
      rw [place_end encoding found filled last]
      cases line.any isBreak <;> simp

theorem columnOf_width (encoding : Encoding) {line : List Char} {column : Nat}
    (h : column ≤ line.length) :
    Edit.columnOf encoding (encoding.width (line.take column)) line = column := by
  induction line generalizing column with
  | nil =>
    have zero : column = 0 := by simpa using h
    rw [zero]
    rfl
  | cons c cs ih =>
    cases column with
    | zero => simp [Edit.columnOf]
    | succ column =>
      have positive := encoding.units_pos c
      have more := ih (show column ≤ cs.length by simpa using h)
      have nonzero : ¬(encoding.units c + encoding.width (cs.take column) = 0) := by omega
      rw [List.take_succ_cons, Encoding.width_cons, Edit.columnOf, if_neg nonzero,
        Nat.add_sub_cancel_left, more]

/-- The offset of the position of an offset is that offset. -/
theorem offsetOf_walk (encoding : Encoding) {lines : List (List Char)} (h : Lines lines)
    {offset : Nat} (within : offset ≤ lines.flatten.length) :
    offsetOf encoding lines (walk encoding lines offset) = offset := by
  induction h generalizing offset with
  | nil =>
    have zero : offset = 0 := by simpa using within
    rw [zero]
    rfl
  | last nonempty unbroken =>
    rw [walk_last encoding (by simpa using unbroken)]
    exact columnOf_width encoding (by simpa using within)
  | @cons line lines terminated more ih =>
    by_cases less : offset < line.length
    · rw [walk_of_lt encoding less]
      exact columnOf_width encoding (Nat.le_of_lt less)
    · obtain ⟨rest, rfl⟩ := Nat.exists_eq_add_of_le (Nat.le_of_not_lt less)
      have later := ih (show rest ≤ lines.flatten.length by simpa using within)
      rw [walk_terminated encoding terminated]
      simp only [offsetOf, later]

theorem width_take_lt (encoding : Encoding) {line : List Char} {a b : Nat} (hab : a < b)
    (hb : b ≤ line.length) : encoding.width (line.take a) < encoding.width (line.take b) := by
  induction line generalizing a b with
  | nil =>
    simp only [List.length_nil] at hb
    omega
  | cons c cs ih =>
    obtain ⟨b, rfl⟩ := Nat.exists_eq_succ_of_ne_zero (show b ≠ 0 by omega)
    cases a with
    | zero =>
      have positive := encoding.units_pos c
      simp only [List.take_zero, Encoding.width_nil, List.take_succ_cons, Encoding.width_cons]
      omega
    | succ a =>
      have more := ih (show a < b by omega) (by simpa using hb)
      simp only [List.take_succ_cons, Encoding.width_cons]
      omega

/-- A later offset has a later position. -/
theorem walk_before (encoding : Encoding) {lines : List (List Char)} (h : Lines lines) {a b : Nat}
    (hab : a < b) (hb : b ≤ lines.flatten.length) :
    (walk encoding lines a).Before (walk encoding lines b) := by
  induction h generalizing a b with
  | nil =>
    simp only [List.flatten_nil, List.length_nil] at hb
    omega
  | @last line nonempty unbroken =>
    have unbroken : line.any isBreak = false := by simpa using unbroken
    rw [walk_last encoding unbroken, walk_last encoding unbroken]
    exact Or.inr ⟨rfl, width_take_lt encoding hab (by simpa using hb)⟩
  | @cons line lines terminated more ih =>
    by_cases less : b < line.length
    · rw [walk_of_lt encoding (Nat.lt_trans hab less), walk_of_lt encoding less]
      exact Or.inr ⟨rfl, width_take_lt encoding hab (Nat.le_of_lt less)⟩
    · obtain ⟨b, rfl⟩ := Nat.exists_eq_add_of_le (Nat.le_of_not_lt less)
      rw [walk_terminated encoding terminated]
      by_cases inside : a < line.length
      · rw [walk_of_lt encoding inside]
        exact Or.inl (Nat.succ_pos _)
      · obtain ⟨a, rfl⟩ := Nat.exists_eq_add_of_le (Nat.le_of_not_lt inside)
        rw [walk_terminated encoding terminated]
        rcases ih (show a < b by omega) (by simpa using hb) with line_lt | ⟨same, character_lt⟩
        · exact Or.inl (Nat.succ_lt_succ line_lt)
        · exact Or.inr ⟨congrArg (· + 1) same, character_lt⟩

/-- Where an offset stands: so many characters into a line, short of its end unless it is the last
line and has no break, or else at the start of the line behind a text that ends in a break. -/
def Stands (encoding : Encoding) (text : List Char) (position : Position) (offset : Nat) : Prop :=
  (∃ line start column, (splitLines text)[position.line]? = some line ∧
    (lineStarts (splitLines text))[position.line]? = some start ∧ offset = start + column ∧
    (column < line.length ∨
      column = line.length ∧ position.line + 1 = (splitLines text).length ∧
        line.any isBreak = false) ∧
    position.character = encoding.width (line.take column)) ∨
  (position = ⟨(splitLines text).length, 0⟩ ∧ offset = text.length ∧
    (text = [] ∨ ∃ c, text.getLast? = some c ∧ isBreak c))

theorem stands_walk (encoding : Encoding) (text : List Char) {offset : Nat}
    (h : offset ≤ text.length) :
    Stands encoding text (walk encoding (splitLines text) offset) offset := by
  have lines := lines_splitLines text
  have within : offset ≤ (splitLines text).flatten.length := by rwa [flatten_splitLines]
  by_cases nonempty : splitLines text = []
  · have empty : text = [] := by rw [← flatten_splitLines text, nonempty, List.flatten_nil]
    subst empty
    have zero : offset = 0 := by simpa using h
    exact Or.inr ⟨rfl, zero, Or.inl rfl⟩
  · obtain ⟨index, line, column, found, rfl, hcolumn, -⟩ :=
      position_ofLines nonempty encoding within
    have bound : index < (splitLines text).length := (List.getElem?_eq_some_iff.1 found).1
    rw [walk_column encoding lines found hcolumn]
    split
    · case isTrue here =>
      refine Or.inl ⟨line, _, column, found, getElem?_lineStarts (Nat.le_of_lt bound), rfl, ?_, rfl⟩
      rcases hcolumn with less | ⟨same, last⟩
      · exact Or.inl less
      · exact Or.inr ⟨same, last, here.resolve_left (by omega)⟩
    · case isFalse behind =>
      rw [not_or] at behind
      have broken : line.any isBreak := by simpa using behind.2
      obtain ⟨same, last⟩ := hcolumn.resolve_left behind.1
      have whole := flatten_take_succ found
      rw [last, List.take_length, flatten_splitLines] at whole
      refine Or.inr ⟨rfl, ?_, Or.inr ?_⟩
      · rw [same, ← List.length_append, ← whole]
      · obtain ⟨c, final, hc⟩ :=
          (lines.terminated (List.mem_of_getElem? found) broken).getLast?_isBreak
        refine ⟨c, ?_, hc⟩
        rw [whole, List.getLast?_append, final]
        rfl

theorem position_ofText (encoding : Encoding) {text : List Char} {offset : Nat}
    (h : offset ≤ text.length) :
    (ofText text).position encoding offset = .ok (walk encoding (splitLines text) offset) :=
  position_eq_walk encoding (lines_splitLines text) (by rwa [flatten_splitLines])

theorem outsideFault_eq_outside_iff {offset length : Int} :
    outsideFault offset length = .outside offset length ↔ Writable offset ∧ Writable length := by
  rw [outsideFault]
  split <;> simp_all

theorem outsideFault_eq_number_iff {offset length : Int} {fault : NumberFault} :
    outsideFault offset length = .number fault ↔
      fault = .tooLarge ∧ ¬(Writable offset ∧ Writable length) := by
  rw [outsideFault]
  split <;> simp_all [eq_comm]

/-- An offset has a position exactly if it lies in the text. The position says on which line and how
many code units into it the offset stands, so the offset can be found again. An offset outside of
the text is refused as such if it can be named, with the length of the text, and by the limit on
numerals if it cannot. -/
theorem position_exact (text : List Char) (encoding : Encoding) (offset : Int) :
    let result := (ofText text).position encoding offset
    (result = .error (.outside offset text.length) ↔
      (offset < 0 ∨ (text.length : Int) < offset) ∧ Writable offset ∧ Writable text.length) ∧
    (∀ fault, result = .error (.number fault) ↔
      (offset < 0 ∨ (text.length : Int) < offset) ∧ fault = .tooLarge ∧
        ¬(Writable offset ∧ Writable text.length)) ∧
    result ≠ .error .missingEntry ∧ result ≠ .error .brokenOrder ∧
    (0 ≤ offset → offset ≤ text.length →
      ∃ position, result = .ok position ∧ Stands encoding text position offset.toNat ∧
        (offsetOf encoding (splitLines text) position : Int) = offset) := by
  intro result
  by_cases within : 0 ≤ offset ∧ offset ≤ text.length
  · obtain ⟨place, rfl⟩ := Int.eq_ofNat_of_zero_le within.1
    have inside : ¬((place : Int) < 0 ∨ (text.length : Int) < place) := by omega
    have bound : place ≤ text.length := Int.ofNat_le.1 within.2
    have found : result = .ok (walk encoding (splitLines text) place) :=
      position_ofText encoding bound
    have recovered : offsetOf encoding (splitLines text) (walk encoding (splitLines text) place) =
        place := offsetOf_walk encoding (lines_splitLines text) (by rwa [flatten_splitLines])
    refine ⟨iff_of_false (by simp [found]) fun h => inside h.1,
      fun fault => iff_of_false (by simp [found]) fun h => inside h.1, by simp [found],
      by simp [found], ?_⟩
    intro _ _
    exact ⟨_, found, stands_walk encoding text bound, by rw [recovered]⟩
  · have outside : offset < 0 ∨ (text.length : Int) < offset := by omega
    have refused : result = .error (outsideFault offset text.length) := by
      have fault := position_outside encoding (splitLines text) (by rwa [flatten_splitLines])
      rwa [flatten_splitLines] at fault
    have sayable : outsideFault offset text.length ≠ .missingEntry ∧
        outsideFault offset text.length ≠ .brokenOrder := by
      rw [outsideFault]
      split <;> simp
    rw [refused]
    simp only [Except.error.injEq, ne_eq]
    exact ⟨outsideFault_eq_outside_iff.trans (and_iff_right outside).symm,
      fun fault => outsideFault_eq_number_iff.trans (and_iff_right outside).symm,
      sayable.1, sayable.2, fun low high => absurd ⟨low, high⟩ within⟩

theorem position_exact_astral :
    ∃ position, (ofText "a\r\n😀b".toList).position .utf16 4 = .ok position ∧
      Stands .utf16 "a\r\n😀b".toList position 4 ∧
      (offsetOf .utf16 (splitLines "a\r\n😀b".toList) position : Int) = 4 :=
  (position_exact "a\r\n😀b".toList .utf16 4).2.2.2.2 (by decide) (by decide)

/-- The first offset that cannot be named lies behind the empty text, and is not refused as such. -/
theorem position_unnamed :
    0 < writingBound ∧
    (ofText []).position .utf16 writingBound ≠ .error (.outside writingBound 0) ∧
    (ofText []).position .utf16 writingBound = .error (.number .tooLarge) := by
  decide +kernel

/-- Positions are in the order of their offsets, whatever breaks lie between them: a later offset has
a later position, and no two offsets share one. -/
theorem position_before_iff_lt (text : List Char) (encoding : Encoding) {a b : Int} (ha : 0 ≤ a)
    (a_le : a ≤ text.length) (hb : 0 ≤ b) (b_le : b ≤ text.length) :
    ∃ first second, (ofText text).position encoding a = .ok first ∧
      (ofText text).position encoding b = .ok second ∧
      (first.Before second ↔ a < b) ∧ (first = second ↔ a = b) := by
  obtain ⟨a, rfl⟩ := Int.eq_ofNat_of_zero_le ha
  obtain ⟨b, rfl⟩ := Int.eq_ofNat_of_zero_le hb
  have a_le : a ≤ text.length := Int.ofNat_le.1 a_le
  have b_le : b ≤ text.length := Int.ofNat_le.1 b_le
  have before {i j : Nat} (hij : i < j) (hj : j ≤ text.length) :
      (walk encoding (splitLines text) i).Before (walk encoding (splitLines text) j) := by
    apply walk_before encoding (lines_splitLines text) hij
    rwa [flatten_splitLines]
  refine ⟨_, _, position_ofText encoding a_le, position_ofText encoding b_le, ?_⟩
  rw [Int.ofNat_lt, Int.ofNat_inj]
  rcases Nat.lt_trichotomy a b with less | same | greater
  · have earlier := before less b_le
    exact ⟨iff_of_true earlier less, iff_of_false earlier.ne (by omega)⟩
  · subst same
    exact ⟨iff_of_false (fun earlier => earlier.ne rfl) (by omega), by simp⟩
  · have later := before greater a_le
    exact ⟨iff_of_false later.asymm (by omega), iff_of_false later.ne.symm (by omega)⟩

/-- Between a carriage return and its line feed, and behind the break at the end of a text. -/
theorem position_before_iff_lt_crlf :
    ∃ first second, (ofText "😀\r\n".toList).position .utf16 2 = .ok first ∧
      (ofText "😀\r\n".toList).position .utf16 3 = .ok second ∧ first.Before second := by
  obtain ⟨first, second, hfirst, hsecond, before, -⟩ :=
    position_before_iff_lt "😀\r\n".toList .utf16 (show (0 : Int) ≤ 2 by decide) (by decide)
      (show (0 : Int) ≤ 3 by decide) (by decide)
  exact ⟨first, second, hfirst, hsecond, before.2 (by decide)⟩

/-- Lines of any kind, empty ones and such with breaks within them among them, never bring the search
to a line that ends in a break before others. An offset outside of them is refused as such, or by
the limit on numerals; the one behind an empty last line finds no entry, and every other has a
position. -/
theorem position_never_brokenOrder (lines : List (List Char)) (encoding : Encoding)
    (offset : Int) :
    let result := (ofLines lines).position encoding offset
    let total := lines.flatten.length
    result ≠ .error .brokenOrder ∧
    ((∃ place length, result = .error (.outside place length)) ↔
      (offset < 0 ∨ total < offset) ∧ Writable offset ∧ Writable total) ∧
    (offset < 0 ∨ total < offset → result = .error (outsideFault offset total)) ∧
    ((∃ fault, result = .error (.number fault)) ↔
      (offset < 0 ∨ total < offset) ∧ ¬(Writable offset ∧ Writable total)) ∧
    (result = .error .missingEntry ↔ lines.getLast? = some [] ∧ offset = total) ∧
    ((∃ position, result = .ok position) ↔
      0 ≤ offset ∧ offset ≤ total ∧ ¬(lines.getLast? = some [] ∧ offset = total)) := by
  intro result total
  by_cases outside : offset < 0 ∨ (total : Int) < offset
  · have refused : result = .error (outsideFault offset total) :=
      position_outside encoding lines outside
    have behind : ¬(lines.getLast? = some [] ∧ offset = total) := by omega
    have within : ¬(0 ≤ offset ∧ offset ≤ total ∧ ¬(lines.getLast? = some [] ∧ offset = total)) := by
      omega
    by_cases named : Writable offset ∧ Writable total
    · have fault : outsideFault offset total = .outside offset total :=
        outsideFault_eq_outside_iff.2 named
      rw [fault] at refused
      exact ⟨by simp [refused], iff_of_true ⟨_, _, refused⟩ ⟨outside, named⟩,
        fun _ => by rw [refused, fault], iff_of_false (by simp [refused]) fun h => h.2 named,
        iff_of_false (by simp [refused]) behind, iff_of_false (by simp [refused]) within⟩
    · have fault : outsideFault offset total = .number .tooLarge :=
        outsideFault_eq_number_iff.2 ⟨rfl, named⟩
      rw [fault] at refused
      exact ⟨by simp [refused], iff_of_false (by simp [refused]) fun h => named h.2,
        fun _ => by rw [refused, fault], iff_of_true ⟨_, refused⟩ ⟨outside, named⟩,
        iff_of_false (by simp [refused]) behind, iff_of_false (by simp [refused]) within⟩
  · have low : 0 ≤ offset := by omega
    have high : offset ≤ total := by omega
    obtain ⟨place, rfl⟩ := Int.eq_ofNat_of_zero_le low
    rcases position_within encoding (Int.ofNat_le.1 high) with
      ⟨missing, empty, behind⟩ | ⟨⟨position, found⟩, other⟩
    · have missing : result = .error .missingEntry := missing
      have ended : lines.getLast? = some [] ∧ (place : Int) = total := ⟨empty, by rw [behind]⟩
      exact ⟨by simp [missing], iff_of_false (by simp [missing]) fun h => outside h.1,
        fun h => absurd h outside, iff_of_false (by simp [missing]) fun h => outside h.1,
        iff_of_true missing ended, iff_of_false (by simp [missing]) fun h => h.2.2 ended⟩
    · have found : result = .ok position := found
      have short : ¬(lines.getLast? = some [] ∧ (place : Int) = total) := fun h =>
        other ⟨h.1, Int.ofNat_inj.1 h.2⟩
      exact ⟨by simp [found], iff_of_false (by simp [found]) fun h => outside h.1,
        fun h => absurd h outside, iff_of_false (by simp [found]) fun h => outside h.1,
        iff_of_false (by simp [found]) short, iff_of_true ⟨position, found⟩ ⟨low, high, short⟩⟩

/-- Behind an empty line other lines follow, and then it is the last one. -/
theorem position_never_brokenOrder_empty :
    (∃ position, (ofLines [['a', '\n'], [], ['b']]).position .utf16 2 = .ok position) ∧
    (ofLines [['a', '\n', 'b'], []]).position .utf16 3 = .error .missingEntry ∧
    (ofLines [['a', '\n', 'b'], []]).position .utf16 4 = .error (.outside 4 3) := by
  obtain ⟨-, -, -, -, -, placed⟩ := position_never_brokenOrder [['a', '\n'], [], ['b']] .utf16 2
  obtain ⟨-, -, -, -, missing, -⟩ := position_never_brokenOrder [['a', '\n', 'b'], []] .utf16 3
  obtain ⟨-, -, refused, -⟩ := position_never_brokenOrder [['a', '\n', 'b'], []] .utf16 4
  have named : outsideFault 4 3 = .outside 4 3 := by decide +kernel
  refine ⟨placed.2 (by decide), missing.2 (by decide), ?_⟩
  rw [← named]
  exact refused (by decide)

/-- An offset behind all lines that cannot be named. -/
theorem position_unnamed_lines :
    2 < writingBound ∧
    (ofLines [['a'], ['b']]).position .utf16 writingBound = .error (.number .tooLarge) := by
  decide +kernel

end LineTable

end ScriptAssist
