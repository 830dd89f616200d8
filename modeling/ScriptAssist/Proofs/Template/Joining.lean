import Mathlib.Data.List.Forall2
import ScriptAssist.Proofs.Template.Viable

namespace ScriptAssist.Template

open Text

/-- A text that can be put behind any other: it is empty, or its first character detaches. -/
def Seam (text : List Char) : Prop := ∀ c ∈ text.head?, Detaches c

instance (text : List Char) : Decidable (Seam text) := Option.decidableForallMem text.head?

/-- The same fault with so many characters in front of the text. -/
def Fault.behind (length : Nat) : Fault → Fault
  | .malformed reason offset => .malformed reason (length + offset)
  | .index fault => .index fault

theorem sequence_seam {a b : List Char} {t : Template} (ha : read a = .ok t) (seam : Seam b) :
    sequence false (a ++ b) = (sequence false b).after t := by
  obtain ⟨d, ⟨spelled, fits⟩, template⟩ := read_eq_ok_iff.1 ha
  have fits' : d.Fits false b := by
    apply fits.of_next
    intro c hc
    exact Or.inr (seam c hc)
  have passed := sequence_spell fits'
  rw [spelled, template] at passed
  exact passed

/-- The reader stops within the text. -/
theorem left_le_length {text : List Char} {reason : Reason} {left : Nat}
    (h : sequence false text = .error (.malformed reason left)) : left ≤ text.length := by
  obtain ⟨d, after, rfl, fits, ended | ⟨halt, stuck⟩⟩ := exists_split false text
  · rw [sequence_spell fits, sequence_ended ended] at h
    cases h
  · rw [sequence_spell fits, sequence_stuck stuck] at h
    have same : halt = .malformed reason left := Except.error.inj h
    obtain ⟨front, rest, cut, length, -⟩ := stuck.blocked same
    rw [cut, ← length]
    simp only [List.length_append]
    omega

/-- At a seam the reader goes on as if the text had begun there. -/
theorem read_seam {a b : List Char} {t : Template} (ha : read a = .ok t) (seam : Seam b) :
    read (a ++ b) =
      match read b with
      | .ok u => .ok (t ++ u)
      | .error fault => .error (fault.behind a.length) := by
  have passed := sequence_seam ha seam
  rw [read_eq_sequence (a ++ b), passed, read_eq_sequence b]
  cases behind : sequence false b with
  | ok found => rfl
  | error halt =>
    cases halt with
    | index fault => rfl
    | malformed reason left =>
      have inside := left_le_length behind
      have place : (a ++ b).length - left = a.length + (b.length - left) := by
        rw [List.length_append]
        omega
      simp only [Outcome.after, Fault.behind, place]

theorem read_newline {text : List Char} {t : Template} (h : read text = .ok t) :
    read ('\n' :: text) = .ok (char '\n' t) := by
  obtain ⟨d, ⟨spelled, fits⟩, template⟩ := read_eq_ok_iff.1 h
  apply read_eq_ok_iff.2
  refine ⟨.char '\n' d, ⟨?_, ?_⟩, ?_⟩
  · rw [Derivation.spell, spelled]
  · exact ⟨by decide, by decide, fun _ => rfl, fits⟩
  · rw [Derivation.template, template]

/-- A line feed between two texts makes a seam. -/
theorem read_joined {a b : List Char} {t u : Template} (ha : read a = .ok t)
    (hb : read b = .ok u) : read (a ++ '\n' :: b) = .ok (t ++ char '\n' u) := by
  have seam : Seam ('\n' :: b) := by
    intro c hc
    have same : '\n' = c := by simpa using hc
    rw [← same]
    decide
  have joined := read_seam ha seam
  rw [read_newline hb] at joined
  exact joined

theorem read_lines {lines : List (List Char)} {ts : List Template}
    (h : List.Forall₂ (fun line t => read line = .ok t) lines ts) :
    ∃ w, read (['\n'].intercalate lines) = .ok w ∧
      w.render = ['\n'].intercalate (ts.map render) ∧ w.stops = ts.flatMap stops ∧
      w.names = ts.flatMap names := by
  induction h with
  | nil => exact ⟨done, read_eq_ok sequence_nil, rfl, rfl, rfl⟩
  | @cons line t lines ts first more ih =>
    cases more with
    | nil => exact ⟨t, by simpa using first, by simp, by simp, by simp⟩
    | @cons line' t' lines ts second more =>
      obtain ⟨w, reads, shown, stops, names⟩ := ih
      have joined := read_joined first reads
      refine ⟨t ++ char '\n' w, ?_, ?_, ?_, ?_⟩
      · simpa [List.intercalate_cons_cons] using joined
      · simp only [List.map_cons] at shown
        simp [List.intercalate_cons_cons, render, shown]
      · rw [stops_append, Template.stops, stops]
        rfl
      · rw [names_append, Template.names, names]
        rfl

/-- Reading distributes over texts that are put together at a seam: the stops, the names and the
rendered text of the whole are those of the first text and then those of the second, and a fault in
the form of the second stays where it is. So lines that are read can be joined, and are shown as they
are shown alone. -/
theorem read_distributes :
    (∀ (a b : List Char) (t : Template), read a = .ok t → Seam b →
      (∀ u, read b = .ok u →
        ∃ w, read (a ++ b) = .ok w ∧ w.stops = t.stops ++ u.stops ∧
          w.names = t.names ++ u.names ∧ w.render = t.render ++ u.render) ∧
      ∀ reason offset, read b = .error (.malformed reason offset) →
        read (a ++ b) = .error (.malformed reason (a.length + offset))) ∧
    ∀ (lines : List (List Char)) (ts : List Template),
      List.Forall₂ (fun line t => read line = .ok t) lines ts →
      ∃ w, read (['\n'].intercalate lines) = .ok w ∧
        w.render = ['\n'].intercalate (ts.map render) ∧ w.stops = ts.flatMap stops ∧
        w.names = ts.flatMap names := by
  refine ⟨?_, fun lines ts h => read_lines h⟩
  intro a b t ha seam
  have whole := read_seam ha seam
  constructor
  · intro u hb
    rw [hb] at whole
    exact ⟨t ++ u, whole, stops_append t u, names_append t u, render_append t u⟩
  · intro reason offset hb
    rw [hb] at whole
    exact whole

/-- A text that ends in a backslash, and one that ends in a bare index. -/
theorem read_distributes_cut :
    (∃ w, read ("$\x7b1:p$\x7d\\".toList ++ " $\x7bN:q\x7d".toList) = .ok w ∧
      w.stops = [⟨1, "p$".toList⟩] ∧ w.names = [['N']] ∧ w.render = "p$\\ q".toList) ∧
    read ("a$12".toList ++ ":$\x7b2:".toList) = .error (.malformed .unterminated 9) ∧
    ∃ w, read (['\n'].intercalate ["$\x7b1:a\x7d".toList, "b\\".toList, "$N$".toList]) = .ok w ∧
      w.render = "a\nb\\\nN$".toList := by
  obtain ⟨seams, lines⟩ := read_distributes
  refine ⟨?_, ?_, ?_⟩
  · have first : read "$\x7b1:p$\x7d\\".toList =
        .ok (.filled (.index 1) (.char 'p' (.char '$' .done)) (.char '\\' .done)) := by
      decide +kernel
    have second : read " $\x7bN:q\x7d".toList =
        .ok (.char ' ' (.filled (.name ['N']) (.char 'q' .done) .done)) := by
      decide +kernel
    exact (seams _ _ _ first (by decide)).1 _ second
  · have first : read "a$12".toList = .ok (.char 'a' (.bare (.index 12) .done)) := by
      decide +kernel
    have second : read ":$\x7b2:".toList = .error (.malformed .unterminated 5) := by
      decide +kernel
    exact (seams _ _ _ first (by decide)).2 _ _ second
  · have first : read "$\x7b1:a\x7d".toList =
        .ok (.filled (.index 1) (.char 'a' .done) .done) := by
      decide +kernel
    have second : read "b\\".toList = .ok (.char 'b' (.char '\\' .done)) := by decide +kernel
    have third : read "$N$".toList = .ok (.bare (.name ['N']) (.char '$' .done)) := by
      decide +kernel
    obtain ⟨w, reads, shown, -⟩ := lines _ _ (.cons first (.cons second (.cons third .nil)))
    exact ⟨w, reads, shown⟩

end ScriptAssist.Template
