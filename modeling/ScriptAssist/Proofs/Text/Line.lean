import ScriptAssist.Proofs.Text.Digit
import ScriptAssist.Text.Line

namespace ScriptAssist.Text

/-- A single line break: one break character, or a carriage return with its line feed. -/
def IsLineBreak (ending : List Char) : Prop :=
  ending = ['\r', '\n'] ∨ ∃ c, isBreak c ∧ ending = [c]

/-- A line that ends in one line break and has no other. -/
def Terminated (line : List Char) : Prop :=
  ∃ body ending, line = body ++ ending ∧ (∀ c ∈ body, isBreak c = false) ∧ IsLineBreak ending

/-- The lines of a text: each is terminated, but the last one need not be. -/
inductive Lines : List (List Char) → Prop where
  | nil : Lines []
  | last {line : List Char} : line ≠ [] → (∀ c ∈ line, isBreak c = false) → Lines [line]
  | cons {line : List Char} {lines : List (List Char)} :
      Terminated line → Lines lines → Lines (line :: lines)

theorem IsLineBreak.ne_nil {ending : List Char} (h : IsLineBreak ending) : ending ≠ [] := by
  rcases h with rfl | ⟨c, -, rfl⟩ <;> simp

theorem IsLineBreak.all_isBreak {ending : List Char} (h : IsLineBreak ending) :
    ∀ c ∈ ending, isBreak c := by
  rcases h with rfl | ⟨c, hc, rfl⟩
  · simp [isBreak]
  · simpa using hc

theorem IsLineBreak.terminated {ending : List Char} (h : IsLineBreak ending) :
    Terminated ending := ⟨[], ending, rfl, by simp, h⟩

theorem isLineBreak_pair : IsLineBreak ['\r', '\n'] := Or.inl rfl

theorem isLineBreak_singleton {c : Char} (h : isBreak c) : IsLineBreak [c] := Or.inr ⟨c, h, rfl⟩

namespace Terminated

variable {line : List Char}

theorem cons {c : Char} (hc : isBreak c = false) (h : Terminated line) : Terminated (c :: line) := by
  obtain ⟨body, ending, rfl, unbroken, single⟩ := h
  refine ⟨c :: body, ending, rfl, ?_, single⟩
  intro d hd
  rcases List.mem_cons.1 hd with rfl | hd
  · exact hc
  · exact unbroken d hd

theorem ne_nil (h : Terminated line) : line ≠ [] := by
  obtain ⟨body, ending, rfl, -, single⟩ := h
  simp [single.ne_nil]

theorem getLast?_isBreak (h : Terminated line) : ∃ c, line.getLast? = some c ∧ isBreak c := by
  obtain ⟨body, ending, rfl, -, single⟩ := h
  have last := List.getLast?_eq_some_getLast single.ne_nil
  refine ⟨ending.getLast single.ne_nil, ?_, single.all_isBreak _ (List.getLast_mem _)⟩
  rw [List.getLast?_append, last]
  rfl

theorem any_isBreak (h : Terminated line) : line.any isBreak := by
  obtain ⟨c, last, hc⟩ := h.getLast?_isBreak
  exact List.any_eq_true.2 ⟨c, List.mem_of_getLast? last, hc⟩

end Terminated

namespace Lines

variable {lines : List (List Char)}

theorem ne_nil (h : Lines lines) : ∀ line ∈ lines, line ≠ [] := by
  induction h with
  | nil => simp
  | last nonempty unbroken => simpa using nonempty
  | cons terminated more ih =>
    intro line hline
    rcases List.mem_cons.1 hline with rfl | hline
    · exact terminated.ne_nil
    · exact ih line hline

/-- A line with a break in it has it at its end. -/
theorem terminated (h : Lines lines) {line : List Char} (hline : line ∈ lines)
    (broken : line.any isBreak) : Terminated line := by
  induction h with
  | nil => simp at hline
  | last nonempty unbroken =>
    obtain ⟨c, hc, isBreak⟩ := List.any_eq_true.1 broken
    rw [List.mem_singleton.1 hline] at hc
    simp [unbroken c hc] at isBreak
  | cons terminated more ih =>
    rcases List.mem_cons.1 hline with rfl | hline
    · exact terminated
    · exact ih hline

end Lines

theorem lines_splitLines (text : List Char) : Lines (splitLines text) := by
  fun_induction splitLines text with
  | case1 => exact .nil
  | case2 cs ih => exact .cons isLineBreak_pair.terminated ih
  | case3 c cs _ hc ih => exact .cons (isLineBreak_singleton hc).terminated ih
  | case4 c cs _ hc h ih => exact .last (by simp) (by simpa using hc)
  | case5 c cs _ hc line lines h ih =>
    rw [h] at ih
    have hc : isBreak c = false := by simpa using hc
    cases ih with
    | last nonempty unbroken =>
      refine .last (by simp) ?_
      intro d hd
      rcases List.mem_cons.1 hd with rfl | hd
      · exact hc
      · exact unbroken d hd
    | cons terminated more => exact .cons (terminated.cons hc) more

theorem splitLines_ne_nil {text : List Char} (h : text ≠ []) : splitLines text ≠ [] := by
  intro none
  have whole := flatten_splitLines text
  rw [none] at whole
  exact h whole.symm

theorem flatten_take_succ {lines : List (List Char)} {i : Nat} {line : List Char}
    (h : lines[i]? = some line) :
    (lines.take (i + 1)).flatten = (lines.take i).flatten ++ line := by
  simp [List.take_add_one, h]

theorem flatten_eq {lines : List (List Char)} {n : Nat} {line : List Char}
    (found : lines[n]? = some line) :
    lines.flatten = (lines.take n).flatten ++ (line ++ (lines.drop (n + 1)).flatten) := by
  obtain ⟨bound, rfl⟩ := List.getElem?_eq_some_iff.1 found
  rw [← List.flatten_cons, ← List.drop_eq_getElem_cons bound, ← List.flatten_append,
    List.take_append_drop]

/-- Line `i` begins behind all the lines before it. -/
theorem getElem?_lineStarts {lines : List (List Char)} {i : Nat} (h : i ≤ lines.length) :
    (lineStarts lines)[i]? = some (lines.take i).flatten.length := by
  have shifted (offset : Nat) :
      (startsFrom offset lines)[i]? = some (offset + (lines.take i).flatten.length) := by
    induction lines generalizing i offset with
    | nil =>
      have hi : i = 0 := by simpa using h
      simp [hi, startsFrom]
    | cons line lines ih =>
      cases i with
      | zero => simp [startsFrom]
      | succ i =>
        have hi : i ≤ lines.length := by simpa using h
        simp [startsFrom, ih hi, Nat.add_assoc]
  simpa [lineStarts] using shifted 0

theorem getLast?_lineStarts (lines : List (List Char)) :
    (lineStarts lines).getLast? = some lines.flatten.length := by
  have last := getElem?_lineStarts (Nat.le_refl lines.length)
  rw [List.take_length] at last
  rw [List.getLast?_eq_getElem?, ← last]
  simp [lineStarts]

/-! ## Blank characters -/

/-- Only blank characters are cut off. -/
theorem exists_trim (text : List Char) :
    ∃ before after, text = before ++ trim text ++ after ∧ (∀ c ∈ before, isBlank c) ∧
      ∀ c ∈ after, isBlank c := by
  let left := text.dropWhile isBlank
  refine ⟨text.takeWhile isBlank, (left.reverse.takeWhile isBlank).reverse, ?_, ?_, ?_⟩
  · have cut : trim text ++ (left.reverse.takeWhile isBlank).reverse = left := by
      rw [trim, ← List.reverse_append, List.takeWhile_append_dropWhile, List.reverse_reverse]
    rw [List.append_assoc, cut, List.takeWhile_append_dropWhile]
  · exact fun c hc => List.mem_takeWhile_imp hc
  · exact fun c hc => List.mem_takeWhile_imp (List.mem_reverse.1 hc)

/-- Everything up to the first and from the last character that is not blank is cut off. -/
theorem trim_append {before middle after : List Char} (hbefore : ∀ c ∈ before, isBlank c)
    (hafter : ∀ c ∈ after, isBlank c) (hmiddle : middle ≠ [])
    (first : ∀ c ∈ middle.head?, isBlank c = false)
    (last : ∀ c ∈ middle.getLast?, isBlank c = false) :
    trim (before ++ middle ++ after) = middle := by
  have front : (before ++ (middle ++ after)).dropWhile isBlank = middle ++ after := by
    apply dropWhile_run hbefore
    intro c hc
    rw [List.head?_append_of_ne_nil _ hmiddle] at hc
    exact first c hc
  have back : (after.reverse ++ middle.reverse).dropWhile isBlank = middle.reverse := by
    apply dropWhile_run
    · exact fun c hc => hafter c (List.mem_reverse.1 hc)
    · intro c hc
      rw [List.head?_reverse] at hc
      exact last c hc
  rw [trim, List.append_assoc, front, List.reverse_append, back, List.reverse_reverse]

theorem trim_eq_nil_iff {text : List Char} : trim text = [] ↔ ∀ c ∈ text, isBlank c := by
  constructor
  · intro empty c hc
    obtain ⟨before, after, split, hbefore, hafter⟩ := exists_trim text
    rw [split, empty, List.append_nil] at hc
    rcases List.mem_append.1 hc with front | back
    · exact hbefore c front
    · exact hafter c back
  · intro blank
    have dropped : text.dropWhile isBlank = [] := List.dropWhile_eq_nil_iff.2 blank
    rw [trim, dropped]
    rfl

end ScriptAssist.Text
