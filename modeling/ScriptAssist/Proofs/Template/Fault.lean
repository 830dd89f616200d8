import ScriptAssist.Proofs.Template.Grammar

namespace ScriptAssist.Template

open Text

/-- Behind a dollar sign, with or without a brace, stands a run of digits that writes no index: one
of them is not decimal, or there are more than are read. -/
def Misnumbered (text : List Char) : Prop :=
  ∃ before mark run after, text = before ++ mark ++ run ++ after ∧
    (mark = ['$'] ∨ mark = ['$', '{']) ∧ (Spelling.digits run).Formed ∧
    (Spelling.digits run).EndsBefore after ∧ ¬(Spelling.digits run).Valued

theorem Misnumbered.append_left {text : List Char} (h : Misnumbered text) (first : List Char) :
    Misnumbered (first ++ text) := by
  obtain ⟨before, mark, run, after, rfl, h⟩ := h
  exact ⟨first ++ before, mark, run, after, by simp, h⟩

theorem misnumbered_of_value {s : Spelling} {after mark : List Char} {fault : NumberFault}
    (hmark : mark = ['$'] ∨ mark = ['$', '{']) (formed : s.Formed) (ends : s.EndsBefore after)
    (h : s.value = .error fault) : Misnumbered (mark ++ (s.text ++ after)) := by
  have unvalued : ¬s.Valued := by
    intro valued
    rw [Spelling.value_eq_ok_iff.2 ⟨valued, rfl⟩] at h
    cases h
  cases s with
  | digits run =>
    have text : mark ++ ((Spelling.digits run).text ++ after) = [] ++ mark ++ run ++ after := by
      simp [Spelling.text]
    exact ⟨[], mark, run, after, text, hmark, formed, ends, unvalued⟩
  | name id => exact absurd trivial unvalued

theorem Stuck.misnumbered {nested : Bool} {text : List Char} {halt : Halt}
    (h : Stuck nested text halt) {fault : NumberFault} (index : halt = .index fault) :
    Misnumbered text := by
  induction h with
  | unterminated => cases index
  | index formed ends value => exact misnumbered_of_value (Or.inl rfl) formed ends value
  | bracedIndex formed ends value => exact misnumbered_of_value (Or.inr rfl) formed ends value
  | head => cases index
  | tail => cases index
  | @default nested s d after halt _ _ _ _ ih =>
    have inside := (ih index).append_left ('$' :: '{' :: (s.text ++ ':' :: d.spell))
    simpa using inside

/-- Only a run of digits that writes no index can fail in another way than by its form. -/
theorem misnumbered_of_read {text : List Char} {fault : NumberFault}
    (h : read text = .error (.index fault)) : Misnumbered text := by
  rw [read_eq_sequence] at h
  obtain ⟨d, after, rfl, fits, ended | ⟨halt, stuck⟩⟩ := exists_split false text
  · rw [sequence_spell fits, sequence_ended ended] at h
    cases h
  · rw [sequence_spell fits, sequence_stuck stuck] at h
    cases halt with
    | malformed reason left => cases h
    | index other => exact (stuck.misnumbered rfl).append_left d.spell

end ScriptAssist.Template
