import Mathlib.Data.List.Chain
import ScriptAssist.Proofs.Text.Breaks
import ScriptAssist.Proofs.Text.Line

namespace ScriptAssist.Text

/-! ## Where lines meet -/

theorem parts_of_cons {c : Char} {line next : List Char} (nonempty : line ≠ [])
    (h : Parts (c :: line) next) : Parts line next := by
  obtain ⟨d, ds, rfl⟩ := List.exists_cons_of_ne_nil nonempty
  exact ⟨by simpa using h.1, h.2⟩

/-- No two lines that meet part a carriage return from its line feed. -/
theorem isChain_splitLines (text : List Char) :
    (splitLines text).IsChain fun line next => ¬Parts line next := by
  fun_induction splitLines text with
  | case1 => exact .nil
  | case2 cs ih => exact List.isChain_cons.2 ⟨fun next _ parts => by simp [Parts] at parts, ih⟩
  | case3 c cs unpaired _ ih =>
    refine List.isChain_cons.2 ⟨?_, ih⟩
    intro next hnext parts
    -- The next line is what the rest of the text begins with.
    obtain ⟨later, cut⟩ := List.head?_eq_some_iff.1 hnext
    have rest : next ++ later.flatten = cs := by
      rw [← flatten_splitLines cs, cut, List.flatten_cons]
    have parts' := parts.append_right later.flatten
    rw [rest] at parts'
    exact not_parts_head unpaired parts'
  | case4 c cs _ _ _ _ => exact .singleton [c]
  | case5 c cs _ _ line lines cut ih =>
    have nonempty : line ≠ [] := (lines_splitLines cs).ne_nil line (by simp [cut])
    rw [cut, List.isChain_cons] at ih
    refine List.isChain_cons.2 ⟨?_, ih.2⟩
    intro next hnext parts
    exact ih.1 next hnext (parts_of_cons nonempty parts)

theorem Lines.terminated_or_last {lines : List (List Char)} (h : Lines lines) {i : Nat}
    {line : List Char} (found : lines[i]? = some line) :
    Terminated line ∨ i + 1 = lines.length ∧ ∀ c ∈ line, isBreak c = false := by
  induction h generalizing i with
  | nil => simp at found
  | @last only nonempty unbroken =>
    cases i with
    | zero =>
      obtain rfl : only = line := by simpa using found
      exact Or.inr ⟨rfl, unbroken⟩
    | succ i => simp at found
  | @cons first lines terminated more ih =>
    cases i with
    | zero =>
      obtain rfl : first = line := by simpa using found
      exact Or.inl terminated
    | succ i =>
      rcases ih (by simpa using found) with terminated' | ⟨last, unbroken⟩
      · exact Or.inl terminated'
      · exact Or.inr ⟨by simpa using last, unbroken⟩

/-! ## Where lines begin -/

theorem le_of_mem_startsFrom {offset start : Nat} {lines : List (List Char)}
    (h : start ∈ startsFrom offset lines) : offset ≤ start := by
  induction lines generalizing offset with
  | nil =>
    have same : start = offset := by simpa [startsFrom] using h
    omega
  | cons line lines ih =>
    rcases List.mem_cons.1 h with same | later
    · omega
    · have bound := ih later
      omega

/-- Lines begin one behind the other if none of them is empty. -/
theorem startsFrom_ascending {lines : List (List Char)} (h : ∀ line ∈ lines, line ≠ [])
    (offset : Nat) : (startsFrom offset lines).Pairwise (· < ·) := by
  induction lines generalizing offset with
  | nil => exact List.pairwise_singleton _ _
  | cons line lines ih =>
    have positive : 0 < line.length := List.length_pos_iff.2 (h line (by simp))
    have later := ih (fun other hother => h other (by simp [hother])) (offset + line.length)
    refine List.pairwise_cons.2 ⟨?_, later⟩
    intro start hstart
    have bound := le_of_mem_startsFrom hstart
    omega

/-- A line stands between its beginning and that of the next. -/
theorem extract_lineStarts {lines : List (List Char)} {i : Nat} {line : List Char}
    (found : lines[i]? = some line) :
    ∃ start stop, (lineStarts lines)[i]? = some start ∧ (lineStarts lines)[i + 1]? = some stop ∧
      lines.flatten.extract start stop = line := by
  have bound : i < lines.length := (List.getElem?_eq_some_iff.1 found).1
  refine ⟨_, _, getElem?_lineStarts (Nat.le_of_lt bound), getElem?_lineStarts bound, ?_⟩
  have length : (lines.take (i + 1)).flatten.length - (lines.take i).flatten.length =
      line.length := by
    rw [flatten_take_succ found, List.length_append]
    omega
  rw [List.extract, length, flatten_eq found, List.drop_left, List.take_left]

/-- The lines of a text are a partition of it. Put together they are the text, none of them is empty,
each but the last ends in one line break and has no other, and no carriage return is parted from its
line feed. The offsets at which they begin ascend from zero to the length of the text, and cut each
line out of it. -/
theorem splitLines_partition (text : List Char) :
    let lines := splitLines text
    let starts := lineStarts lines
    lines.flatten = text ∧ (∀ line ∈ lines, line ≠ []) ∧
    (∀ i line, lines[i]? = some line →
      Terminated line ∨ i + 1 = lines.length ∧ ∀ c ∈ line, isBreak c = false) ∧
    (∀ i line next, lines[i]? = some line → lines[i + 1]? = some next → ¬Parts line next) ∧
    starts.length = lines.length + 1 ∧ starts.head? = some 0 ∧ starts.Pairwise (· < ·) ∧
    starts.getLast? = some text.length ∧
    ∀ i line, lines[i]? = some line →
      ∃ start stop, starts[i]? = some start ∧ starts[i + 1]? = some stop ∧
        text.extract start stop = line := by
  intro lines starts
  have formed : Lines lines := lines_splitLines text
  have whole : lines.flatten = text := flatten_splitLines text
  refine ⟨whole, formed.ne_nil, ?_, ?_, startsFrom_length 0 lines, ?_, ?_, ?_, ?_⟩
  · intro i line found
    exact formed.terminated_or_last found
  · intro i line next found follows
    obtain ⟨bound, rfl⟩ := List.getElem?_eq_some_iff.1 found
    obtain ⟨bound', rfl⟩ := List.getElem?_eq_some_iff.1 follows
    exact (isChain_splitLines text).getElem i bound'
  · rw [List.head?_eq_getElem?, getElem?_lineStarts (Nat.zero_le _)]
    rfl
  · exact startsFrom_ascending formed.ne_nil 0
  · rw [getLast?_lineStarts, whole]
  · intro i line found
    have cut := extract_lineStarts found
    rwa [whole] at cut

/-- A pair of breaks with a carriage return of its own behind it, and a last line without a break. -/
theorem splitLines_partition_pair :
    let text := "a\r\n\rb".toList
    splitLines text = [['a', '\r', '\n'], ['\r'], ['b']] ∧ ¬Parts ['a', '\r', '\n'] ['\r'] ∧
    (∃ start stop, (lineStarts (splitLines text))[1]? = some start ∧
      (lineStarts (splitLines text))[2]? = some stop ∧ text.extract start stop = ['\r']) ∧
    (Terminated ['b'] ∨ 3 = (splitLines text).length ∧ ∀ c ∈ ['b'], isBreak c = false) := by
  intro text
  have lines : splitLines text = [['a', '\r', '\n'], ['\r'], ['b']] := by decide
  obtain ⟨-, -, broken, unparted, -, -, -, -, cut⟩ := splitLines_partition text
  exact ⟨lines, unparted 0 _ _ (by rw [lines]; rfl) (by rw [lines]; rfl),
    cut 1 _ (by rw [lines]; rfl), broken 2 _ (by rw [lines]; rfl)⟩

end ScriptAssist.Text
