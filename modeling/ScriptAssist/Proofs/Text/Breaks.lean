import ScriptAssist.Text.Line

namespace ScriptAssist.Text

/-- A cut between a carriage return and the line feed behind it. -/
def Parts (first second : List Char) : Prop :=
  first.getLast? = some '\r' ∧ second.head? = some '\n'

instance (first second : List Char) : Decidable (Parts first second) :=
  inferInstanceAs (Decidable (_ ∧ _))

theorem Parts.append_left {first second : List Char} (h : Parts first second)
    (before : List Char) : Parts (before ++ first) second := by
  refine ⟨?_, h.2⟩
  rw [List.getLast?_append, h.1]
  rfl

theorem Parts.append_right {first second : List Char} (h : Parts first second)
    (behind : List Char) : Parts first (second ++ behind) := by
  refine ⟨h.1, ?_⟩
  rw [List.head?_append, h.2]
  rfl

/-- The first character of a text that does not begin with a pair of breaks. -/
theorem not_parts_head {c : Char} {cs : List Char}
    (unpaired : ∀ rest, c = '\r' → cs = '\n' :: rest → False) : ¬Parts [c] cs := by
  rintro ⟨same, next⟩
  obtain ⟨rest, rfl⟩ := List.head?_eq_some_iff.1 next
  exact unpaired rest (by simpa using same) rfl

theorem not_parts_append {c : Char} {cs second : List Char} (single : ¬Parts [c] cs)
    (h : ¬Parts (c :: cs) second) : ¬Parts [c] (cs ++ second) := by
  cases cs with
  | nil => exact h
  | cons d cs => exact single

theorem not_parts_join {first second third : List Char} (h : ¬Parts first (second ++ third))
    (more : ¬Parts second third) : ¬Parts (first ++ second) third := by
  rintro ⟨last, next⟩
  cases hlast : second.getLast? with
  | none =>
    obtain rfl : second = [] := List.getLast?_eq_none_iff.1 hlast
    exact h ⟨by simpa using last, next⟩
  | some c =>
    rw [List.getLast?_append, hlast] at last
    exact more ⟨hlast.trans last, next⟩

theorem joinBreaks_cons {c : Char} {cs : List Char} (h : ¬Parts [c] cs) :
    joinBreaks (c :: cs) = c :: joinBreaks cs := by
  rw [joinBreaks]
  rintro cs rfl rfl
  exact h ⟨rfl, rfl⟩

/-- Nothing is joined before the first line break. -/
theorem joinBreaks_append {body : List Char} (h : ∀ c ∈ body, isBreak c = false)
    (rest : List Char) : joinBreaks (body ++ rest) = body ++ joinBreaks rest := by
  induction body with
  | nil => rfl
  | cons c body ih =>
    have single : ¬Parts [c] (body ++ rest) := by
      rintro ⟨same, -⟩
      obtain rfl : c = '\r' := by simpa using same
      simpa [isBreak] using h '\r' (by simp)
    rw [List.cons_append, joinBreaks_cons single, ih fun d hd => h d (by simp [hd])]
    rfl

/-! ## One kind of line break -/

/-- A line feed in the place of a carriage return. -/
def unifyBreak (c : Char) : Char := if c = '\r' then '\n' else c

@[simp] theorem unifyBreaks_nil : unifyBreaks [] = [] := rfl

@[simp] theorem unifyBreaks_pair (cs : List Char) :
    unifyBreaks ('\r' :: '\n' :: cs) = '\n' :: unifyBreaks cs := rfl

theorem unifyBreaks_cons {c : Char} {cs : List Char} (h : ¬Parts [c] cs) :
    unifyBreaks (c :: cs) = unifyBreak c :: unifyBreaks cs := by
  rw [unifyBreaks, joinBreaks_cons h]
  rfl

theorem unifyBreak_of_ne {c : Char} (h : c ≠ '\r') : unifyBreak c = c := if_neg h

theorem unifyBreaks_append {first second : List Char} (h : ¬Parts first second) :
    unifyBreaks (first ++ second) = unifyBreaks first ++ unifyBreaks second := by
  fun_induction joinBreaks first with
  | case1 cs ih =>
    have more := ih fun parts => h (parts.append_left ['\r', '\n'])
    rw [List.cons_append, List.cons_append, unifyBreaks_pair, more]
    rfl
  | case2 c cs unpaired ih =>
    have more := ih fun parts => h (parts.append_left [c])
    have single := not_parts_head unpaired
    rw [List.cons_append, unifyBreaks_cons (not_parts_append single h), unifyBreaks_cons single,
      more]
    rfl
  | case3 => rfl

theorem unifyBreak_ne (c : Char) : unifyBreak c ≠ '\r' := by
  unfold unifyBreak
  split
  · decide
  · assumption

theorem return_notMem_unifyBreaks (text : List Char) : '\r' ∉ unifyBreaks text := by
  intro h
  obtain ⟨c, -, same⟩ := List.mem_map.1 h
  exact unifyBreak_ne c same

theorem unifyBreaks_eq_self {text : List Char} (h : '\r' ∉ text) : unifyBreaks text = text := by
  induction text with
  | nil => rfl
  | cons c cs ih =>
    have other : c ≠ '\r' := fun same => h (by simp [same])
    have single : ¬Parts [c] cs := fun parts => other (by simpa using parts.1)
    rw [unifyBreaks_cons single, unifyBreak_of_ne other, ih fun hr => h (by simp [hr])]

theorem unifyBreaks_append_left {first : List Char} (h : '\r' ∉ first) (second : List Char) :
    unifyBreaks (first ++ second) = first ++ unifyBreaks second := by
  have whole : ¬Parts first second := fun parts => h (List.mem_of_getLast? parts.1)
  rw [unifyBreaks_append whole, unifyBreaks_eq_self h]

theorem head?_unifyBreaks (text : List Char) :
    (unifyBreaks text).head? = text.head?.map unifyBreak := by
  fun_cases joinBreaks text with
  | case1 cs => rfl
  | case2 c cs unpaired =>
    rw [unifyBreaks_cons (not_parts_head unpaired)]
    rfl
  | case3 => rfl

/-- A carriage return becomes a character of its own, or one with its line feed. -/
theorem length_unifyBreaks_lt (first second : List Char) :
    (unifyBreaks first).length < (unifyBreaks (first ++ '\r' :: second)).length := by
  have whole : ¬Parts first ('\r' :: second) := fun parts => by simp [Parts] at parts
  have nonempty : unifyBreaks ('\r' :: second) ≠ [] := by
    intro empty
    have head := head?_unifyBreaks ('\r' :: second)
    rw [empty] at head
    contradiction
  have positive := List.length_pos_iff.2 nonempty
  rw [unifyBreaks_append whole, List.length_append]
  omega

/-- Every cut of a text with unified breaks comes from one of the text itself. -/
theorem exists_of_unifyBreaks_eq {text first second : List Char}
    (h : unifyBreaks text = first ++ second) :
    ∃ before behind, text = before ++ behind ∧ ¬Parts before behind ∧
      unifyBreaks before = first ∧ unifyBreaks behind = second := by
  fun_induction joinBreaks text generalizing first with
  | case1 cs ih =>
    cases first with
    | nil => exact ⟨[], _, rfl, by simp [Parts], rfl, h⟩
    | cons c first =>
      rw [unifyBreaks_pair, List.cons_append, List.cons.injEq] at h
      obtain ⟨before, behind, rfl, whole, rfl, rfl⟩ := ih h.2
      refine ⟨'\r' :: '\n' :: before, behind, rfl, ?_, by rw [unifyBreaks_pair, h.1], rfl⟩
      have pair : ¬Parts ['\r', '\n'] (before ++ behind) := by simp [Parts]
      exact not_parts_join pair whole
  | case2 c cs unpaired ih =>
    have single := not_parts_head unpaired
    cases first with
    | nil => exact ⟨[], _, rfl, by simp [Parts], rfl, h⟩
    | cons d first =>
      rw [unifyBreaks_cons single, List.cons_append, List.cons.injEq] at h
      obtain ⟨before, behind, rfl, whole, rfl, rfl⟩ := ih h.2
      have single' : ¬Parts [c] before := fun parts => single (parts.append_right behind)
      refine ⟨c :: before, behind, rfl, ?_, by rw [unifyBreaks_cons single', h.1], rfl⟩
      exact not_parts_join single whole
  | case3 =>
    obtain ⟨rfl, rfl⟩ := List.append_eq_nil_iff.1 h.symm
    exact ⟨[], [], rfl, by simp [Parts], rfl, rfl⟩

end ScriptAssist.Text
