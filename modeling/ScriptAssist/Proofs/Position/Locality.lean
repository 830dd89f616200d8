import ScriptAssist.Proofs.Position.Prefix

namespace ScriptAssist

open Text

namespace Text

/-- A text behind which a line begins: it is empty, or it ends in a line break. -/
def EndsLine (text : List Char) : Prop := ∀ c ∈ text.getLast?, isBreak c

theorem EndsLine.of_append (first : List Char) {second : List Char}
    (h : EndsLine (first ++ second)) : EndsLine second := by
  intro c hc
  apply h c
  rw [Option.mem_def] at hc ⊢
  rw [List.getLast?_append, hc]
  rfl

theorem not_parts_nil (text : List Char) : ¬Parts text [] := by simp [Parts]

theorem EndsLine.ne_nil {c : Char} {cs : List Char} (h : EndsLine (c :: cs))
    (hc : isBreak c = false) : cs ≠ [] := by
  intro none
  subst none
  have broken := h c (by simp)
  rw [hc] at broken
  contradiction

/-- Behind the end of a line the lines of a text are cut as if nothing stood before them. -/
theorem splitLines_append {first second : List Char} (ended : EndsLine first)
    (whole : ¬Parts first second) :
    splitLines (first ++ second) = splitLines first ++ splitLines second := by
  fun_induction splitLines first with
  | case1 => rfl
  | case2 cs ih =>
    have later := ih (.of_append ['\r', '\n'] ended) fun parts =>
      whole (parts.append_left ['\r', '\n'])
    rw [List.cons_append, List.cons_append, splitLines, later]
    rfl
  | case3 c cs unpaired hc ih =>
    have later := ih (.of_append [c] ended) fun parts => whole (parts.append_left [c])
    have single := not_parts_append (not_parts_head unpaired) whole
    rw [List.cons_append, LineTable.splitLines_break single hc, later]
    rfl
  | case4 c cs unpaired hc none ih =>
    have more := ended.ne_nil (by simpa using hc)
    exact absurd none (splitLines_ne_nil more)
  | case5 c cs unpaired hc line lines cut ih =>
    have later := ih (.of_append [c] ended) fun parts => whole (parts.append_left [c])
    rw [List.cons_append, LineTable.splitLines_other (by simpa using hc), later, cut]
    rfl

theorem Lines.all_terminated {lines : List (List Char)} (h : Lines lines)
    (ended : EndsLine lines.flatten) : ∀ line ∈ lines, Terminated line := by
  induction h with
  | nil => simp
  | @last line nonempty unbroken =>
    -- A last line without a break is where the text would end.
    have last := List.getLast?_eq_some_getLast nonempty
    have broken := ended (line.getLast nonempty) (by simpa using last)
    rw [unbroken _ (List.getLast_mem nonempty)] at broken
    contradiction
  | @cons line lines terminated more ih =>
    intro other hother
    rcases List.mem_cons.1 hother with same | later
    · rwa [same]
    · exact ih (.of_append line ended) other later

end Text

namespace LineTable

theorem walk_append_lines (encoding : Encoding) {above : List (List Char)}
    (h : ∀ line ∈ above, Terminated line) (lines : List (List Char)) (offset : Nat) :
    walk encoding (above ++ lines) (above.flatten.length + offset) =
      ⟨above.length + (walk encoding lines offset).line,
        (walk encoding lines offset).character⟩ := by
  induction above with
  | nil => simp
  | cons line above ih =>
    have later := ih fun other hother => h other (by simp [hother])
    have step := walk_terminated encoding (h line (by simp)) (above ++ lines)
      (above.flatten.length + offset)
    rw [later, ← Nat.add_assoc] at step
    simp only [List.cons_append, List.flatten_cons, List.length_append, List.length_cons, step]
    congr 1
    omega

/-- Nothing behind an offset has a say in its position. -/
theorem position_eq_endOf (encoding : Encoding) {text : List Char} {offset : Nat}
    (h : offset ≤ text.length) (whole : ¬Parts (text.take offset) (text.drop offset)) :
    (ofText text).position encoding offset = .ok (endOf encoding (text.take offset)) := by
  have ended := walk_append encoding whole
  rw [List.take_append_drop, List.length_take, Nat.min_eq_left h] at ended
  rw [position_ofText encoding h, ended]

theorem walk_splitLines_append (encoding : Encoding) {above : List Char} (ended : EndsLine above)
    {text : List Char} (whole : ¬Parts above text) (offset : Nat) :
    walk encoding (splitLines (above ++ text)) (above.length + offset) =
      ⟨(splitLines above).length + (walk encoding (splitLines text) offset).line,
        (walk encoding (splitLines text) offset).character⟩ := by
  have terminated : ∀ line ∈ splitLines above, Terminated line := by
    apply (lines_splitLines above).all_terminated
    rwa [flatten_splitLines]
  have shifted := walk_append_lines encoding terminated (splitLines text) offset
  rw [flatten_splitLines] at shifted
  rw [splitLines_append ended whole, shifted]

/-- The position of an offset is settled by the text before it: it is the same in every text that
begins so and is not cut there within a pair of breaks. Lines in front of a text only add to the
lines of its positions. -/
theorem position_local (encoding : Encoding) :
    (∀ (text : List Char) (offset : Nat), offset ≤ text.length →
      ¬Parts (text.take offset) (text.drop offset) →
      ∃ position, (ofText text).position encoding offset = .ok position ∧
        (ofText (text.take offset)).position encoding offset = .ok position ∧
        ∀ other : List Char, other.take offset = text.take offset →
          ¬Parts (other.take offset) (other.drop offset) →
          (ofText other).position encoding offset = .ok position) ∧
    (∀ (above text : List Char) (offset : Nat), EndsLine above → ¬Parts above text →
      offset ≤ text.length →
      ∃ position, (ofText text).position encoding offset = .ok position ∧
        (ofText (above ++ text)).position encoding (above.length + offset : Nat) =
          .ok ⟨(splitLines above).length + position.line, position.character⟩) := by
  constructor
  · intro text offset h whole
    have length : (text.take offset).length = offset := by
      rw [List.length_take, Nat.min_eq_left h]
    refine ⟨endOf encoding (text.take offset), position_eq_endOf encoding h whole, ?_, ?_⟩
    · have cut := position_eq_endOf encoding (Nat.le_of_eq length.symm)
      rw [List.take_take, Nat.min_self, List.drop_of_length_le (Nat.le_of_eq length)] at cut
      exact cut (not_parts_nil _)
    · intro other same whole'
      have within : offset ≤ other.length := by
        have taken := congrArg List.length same
        rw [length, List.length_take] at taken
        omega
      rw [← same]
      exact position_eq_endOf encoding within whole'
  · intro above text offset ended whole h
    have within : above.length + offset ≤ (above ++ text).length := by
      rw [List.length_append]
      omega
    refine ⟨_, position_ofText encoding h, ?_⟩
    rw [position_ofText encoding within, walk_splitLines_append encoding ended whole]

/-- A text cut off behind a wide character, and one that begins with a carriage return. -/
theorem position_local_seams :
    (∃ position, (ofText "a\r\n😀b".toList).position .utf16 4 = .ok position ∧
      (ofText ("a\r\n😀b".toList.take 4)).position .utf16 4 = .ok position ∧
      (ofText "a\r\n😀\n".toList).position .utf16 4 = .ok position) ∧
    ∃ position, (ofText "\rb".toList).position .utf16 1 = .ok position ∧
      (ofText ("a\n".toList ++ "\rb".toList)).position .utf16 3 =
        .ok ⟨(splitLines "a\n".toList).length + position.line, position.character⟩ := by
  obtain ⟨inPrefix, shifted⟩ := position_local .utf16
  obtain ⟨position, whole, cut, every⟩ := inPrefix "a\r\n😀b".toList 4 (by decide) (by decide)
  have other := every "a\r\n😀\n".toList (by decide) (by decide)
  have ended : EndsLine "a\n".toList := by simp [EndsLine, isBreak]
  exact ⟨⟨position, whole, cut, other⟩,
    shifted "a\n".toList "\rb".toList 1 ended (by decide) (by decide)⟩

end LineTable

end ScriptAssist
