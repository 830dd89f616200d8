import ScriptAssist.Proofs.Position
import ScriptAssist.Proofs.Text.Breaks

namespace ScriptAssist

open Text

/-- The same place with one more line in front. -/
def Position.below (position : Position) : Position := ⟨position.line + 1, position.character⟩

/-- The same place with so many units in front of the first line. -/
def Position.indented (position : Position) (units : Nat) : Position :=
  if position.line = 0 then ⟨0, units + position.character⟩ else position

namespace LineTable

/-- The position at the end of a text, whatever follows. -/
def endOf (encoding : Encoding) : List Char → Position
  | [] => ⟨0, 0⟩
  | '\r' :: '\n' :: cs => (endOf encoding cs).below
  | c :: cs =>
    if isBreak c then (endOf encoding cs).below
    else (endOf encoding cs).indented (encoding.units c)

theorem endOf_break (encoding : Encoding) {c : Char} {cs : List Char} (single : ¬Parts [c] cs)
    (h : isBreak c) : endOf encoding (c :: cs) = (endOf encoding cs).below := by
  rw [endOf, if_pos h]
  rintro cs rfl rfl
  exact single ⟨rfl, rfl⟩

theorem endOf_other (encoding : Encoding) {c : Char} (h : isBreak c = false) (cs : List Char) :
    endOf encoding (c :: cs) = (endOf encoding cs).indented (encoding.units c) := by
  rw [endOf, if_neg (by simp [h])]
  rintro cs rfl rfl
  contradiction

theorem splitLines_break {c : Char} {cs : List Char} (single : ¬Parts [c] cs) (h : isBreak c) :
    splitLines (c :: cs) = [c] :: splitLines cs := by
  rw [splitLines, if_pos h]
  rintro cs rfl rfl
  exact single ⟨rfl, rfl⟩

theorem splitLines_other {c : Char} (h : isBreak c = false) (cs : List Char) :
    splitLines (c :: cs) = (c :: (splitLines cs).headD []) :: (splitLines cs).tail := by
  rw [splitLines, if_neg (by simp [h])]
  · cases splitLines cs <;> rfl
  · rintro cs rfl rfl
    contradiction

theorem walk_zero (encoding : Encoding) {lines : List (List Char)} (h : Lines lines) :
    walk encoding lines 0 = ⟨0, 0⟩ := by
  cases lines with
  | nil => rfl
  | cons line lines =>
    have filled : 0 < line.length := List.length_pos_iff.2 (h.ne_nil line (by simp))
    rw [walk_of_lt encoding filled]
    rfl

theorem walk_inj {encoding : Encoding} {text : List Char} {a b : Nat} (ha : a ≤ text.length)
    (hb : b ≤ text.length)
    (h : walk encoding (splitLines text) a = walk encoding (splitLines text) b) : a = b := by
  have lines := lines_splitLines text
  rw [← flatten_splitLines text] at ha hb
  rw [← offsetOf_walk encoding lines ha, h, offsetOf_walk encoding lines hb]

theorem walk_pair (encoding : Encoding) (cs : List Char) (offset : Nat) :
    walk encoding (splitLines ('\r' :: '\n' :: cs)) (offset + 2) =
      (walk encoding (splitLines cs) offset).below := by
  have behind := walk_terminated encoding isLineBreak_pair.terminated (splitLines cs) offset
  rw [Nat.add_comm] at behind
  exact behind

theorem walk_break (encoding : Encoding) {c : Char} {cs : List Char} (single : ¬Parts [c] cs)
    (h : isBreak c) (offset : Nat) :
    walk encoding (splitLines (c :: cs)) (offset + 1) =
      (walk encoding (splitLines cs) offset).below := by
  have terminated := (isLineBreak_singleton h).terminated
  have behind := walk_terminated encoding terminated (splitLines cs) offset
  rw [Nat.add_comm] at behind
  rw [splitLines_break single h]
  exact behind

theorem walk_other (encoding : Encoding) {c : Char} (h : isBreak c = false) (cs : List Char)
    (offset : Nat) :
    walk encoding (splitLines (c :: cs)) (offset + 1) =
      (walk encoding (splitLines cs) offset).indented (encoding.units c) := by
  rw [splitLines_other h]
  cases splitLines cs with
  | nil =>
    have unbroken : [c].any isBreak = false := by simp [h]
    change walk encoding [[c]] (offset + 1) = _
    rw [walk_last encoding unbroken]
    simp [walk, Position.indented]
  | cons line lines =>
    have same : (offset + 1 < (c :: line).length ∨ lines = [] ∧ (c :: line).any isBreak = false) ↔
        (offset < line.length ∨ lines = [] ∧ line.any isBreak = false) := by
      simp [h]
    simp only [List.headD_cons, List.tail_cons, walk, same]
    split
    · simp [Position.indented]
    · simp [Position.indented]

/-- The position at which a text ends does not depend on what follows, unless the text is cut off
between a carriage return and its line feed. -/
theorem walk_append (encoding : Encoding) {first second : List Char} (h : ¬Parts first second) :
    walk encoding (splitLines (first ++ second)) first.length = endOf encoding first := by
  fun_induction endOf encoding first with
  | case1 => exact walk_zero encoding (lines_splitLines second)
  | case2 cs ih =>
    rw [List.cons_append, List.cons_append, List.length_cons, List.length_cons,
      walk_pair encoding, ih fun parts => h (parts.append_left ['\r', '\n'])]
  | case3 c cs unpaired hc ih =>
    have single := not_parts_append (not_parts_head unpaired) h
    rw [List.cons_append, List.length_cons, walk_break encoding single hc,
      ih fun parts => h (parts.append_left [c])]
  | case4 c cs unpaired hc ih =>
    have unbroken : isBreak c = false := by simpa using hc
    rw [List.cons_append, List.length_cons, walk_other encoding unbroken,
      ih fun parts => h (parts.append_left [c])]

theorem endOf_unifyBreaks (encoding : Encoding) (text : List Char) :
    endOf encoding (unifyBreaks text) = endOf encoding text := by
  fun_induction endOf encoding text with
  | case1 => rfl
  | case2 cs ih =>
    rw [unifyBreaks_pair, endOf_break encoding (fun parts => by simp [Parts] at parts) rfl, ih]
  | case3 c cs unpaired hc ih =>
    have single := not_parts_head unpaired
    have kept : isBreak (unifyBreak c) := by
      unfold unifyBreak
      split
      · rfl
      · exact hc
    have single' : ¬Parts [unifyBreak c] (unifyBreaks cs) := fun parts =>
      unifyBreak_ne c (by simpa using parts.1)
    rw [unifyBreaks_cons single, endOf_break encoding single' kept, ih]
  | case4 c cs unpaired hc ih =>
    have other : c ≠ '\r' := fun same => hc (by rw [same]; rfl)
    rw [unifyBreaks_cons (not_parts_head unpaired), unifyBreak_of_ne other,
      endOf_other encoding (by simpa using hc), ih]

/-- A place stays where it is when carriage returns become line feeds. -/
theorem walk_unifyBreaks (encoding : Encoding) {first second : List Char}
    (h : ¬Parts first second) :
    walk encoding (splitLines (unifyBreaks (first ++ second))) (unifyBreaks first).length =
      walk encoding (splitLines (first ++ second)) first.length := by
  have unparted : ¬Parts (unifyBreaks first) (unifyBreaks second) := by
    intro parts
    exact return_notMem_unifyBreaks first (List.mem_of_getLast? parts.1)
  rw [unifyBreaks_append h, walk_append encoding unparted, walk_append encoding h,
    endOf_unifyBreaks]

end LineTable

end ScriptAssist
