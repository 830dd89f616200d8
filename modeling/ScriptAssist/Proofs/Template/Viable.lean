import ScriptAssist.Proofs.Template.Grammar

namespace ScriptAssist.Template

open Text

/-- A character that goes on with nothing in front of it: it belongs to no head, no backslash makes it
literal, and it opens no placeholder behind a dollar sign. -/
structure Detaches (c : Char) : Prop where
  undigit : isDigit c = false
  unnamed : isNameStart c = false
  unescapable : isEscapable c = false
  ne_brace : c ≠ '{'

instance (c : Char) : Decidable (Detaches c) :=
  decidable_of_iff
    (isDigit c = false ∧ isNameStart c = false ∧ isEscapable c = false ∧ c ≠ '{')
    ⟨fun h => ⟨h.1, h.2.1, h.2.2.1, h.2.2.2⟩,
      fun h => ⟨h.undigit, h.unnamed, h.unescapable, h.ne_brace⟩⟩

theorem Detaches.goesOn {c : Char} (h : Detaches c) (s : Spelling) : s.goesOn c = false := by
  cases s with
  | digits run => exact h.undigit
  | name id => simp [Spelling.goesOn, isNameChar, h.unnamed, h.undigit]

namespace Derivation

/-- One derivation after the other. -/
protected def append : Derivation → Derivation → Derivation
  | done, later => later
  | char c rest, later => char c (rest.append later)
  | escaped c rest, later => escaped c (rest.append later)
  | backslash rest, later => backslash (rest.append later)
  | dollar rest, later => dollar (rest.append later)
  | bare head rest, later => bare head (rest.append later)
  | closed head rest, later => closed head (rest.append later)
  | filled head default rest, later => filled head default (rest.append later)

theorem spell_append (d e : Derivation) : (d.append e).spell = d.spell ++ e.spell := by
  induction d <;> simp_all [Derivation.append, spell]

variable {nested : Bool} {d e : Derivation} {after later : List Char}

/-- Of what follows a sequence the rules look at the first character only, and one that detaches is as
good as the end of the text. -/
theorem Fits.of_next (h : d.Fits nested after)
    (next : ∀ c ∈ later.head?, c ∈ after.head? ∨ Detaches c) : d.Fits nested later := by
  have first (text : List Char) :
      ∀ c ∈ (text ++ later).head?, c ∈ (text ++ after).head? ∨ Detaches c := by
    intro c hc
    cases text with
    | nil => exact next c hc
    | cons b bs => exact Or.inl hc
  induction d generalizing nested after later with
  | done => trivial
  | char c rest ih => exact ⟨h.1, h.2.1, h.2.2.1, ih h.2.2.2 next first⟩
  | escaped c rest ih => exact ⟨h.1, ih h.2 next first⟩
  | backslash rest ih =>
    refine ⟨?_, ih h.2 next first⟩
    intro c hc
    rcases first rest.spell c hc with same | detaches
    · exact h.1 c same
    · simp [detaches.unescapable]
  | dollar rest ih =>
    refine ⟨?_, ?_, ih h.2.2 next first⟩
    · intro c hc
      rcases first rest.spell c hc with same | detaches
      · exact h.1 c same
      · exact ⟨detaches.undigit, detaches.unnamed⟩
    · intro brace
      rcases first rest.spell '{' brace with same | detaches
      · exact h.2.1 same
      · exact detaches.ne_brace rfl
  | bare head rest ih =>
    refine ⟨h.1, h.2.1, ?_, ih h.2.2.2 next first⟩
    intro c hc
    rcases first rest.spell c hc with same | detaches
    · exact h.2.2.1 c same
    · exact detaches.goesOn head
  | closed head rest ih => exact ⟨h.1, h.2.1, ih h.2.2 next first⟩
  | filled head default rest default_ih ih =>
    -- Behind a default stands its brace, whatever follows.
    refine ⟨h.1, h.2.1, default_ih h.2.2.1 (fun c hc => Or.inl hc) ?_, ih h.2.2.2 next first⟩
    intro text c hc
    cases text with
    | nil => exact Or.inl hc
    | cons b bs => exact Or.inl hc

theorem Fits.congr (h : d.Fits nested after) (same : after.head? = later.head?) :
    d.Fits nested later := by
  apply h.of_next
  intro c hc
  rw [same]
  exact Or.inl hc

theorem Fits.append (hd : d.Fits nested (e.spell ++ after)) (he : e.Fits nested after) :
    (d.append e).Fits nested after := by
  induction d with
  | done => exact he
  | char c rest ih => exact ⟨hd.1, hd.2.1, hd.2.2.1, ih hd.2.2.2⟩
  | escaped c rest ih => exact ⟨hd.1, ih hd.2⟩
  | backslash rest ih =>
    refine ⟨?_, ih hd.2⟩
    rw [spell_append, List.append_assoc]
    exact hd.1
  | dollar rest ih =>
    rw [Derivation.append, Fits, spell_append, List.append_assoc]
    exact ⟨hd.1, hd.2.1, ih hd.2.2⟩
  | bare head rest ih =>
    rw [Derivation.append, Fits, spell_append, List.append_assoc]
    exact ⟨hd.1, hd.2.1, hd.2.2.1, ih hd.2.2.2⟩
  | closed head rest ih => exact ⟨hd.1, hd.2.1, ih hd.2.2⟩
  | filled head default rest default_ih ih =>
    rw [Derivation.append, Fits, spell_append, List.append_assoc]
    exact ⟨hd.1, hd.2.1, hd.2.2.1, ih hd.2.2.2⟩

/-- What ends with the text can be made to end before a brace. Only a backslash at the end takes a
brace for itself, so one brace more is enough. -/
theorem exists_closing (h : d.Fits nested []) :
    ∃ (e : Derivation) (count : Nat), e.spell = d.spell ++ List.replicate count '}' ∧
      ∀ later, e.Fits nested ('}' :: later) := by
  have next {e rest : Derivation} {count : Nat}
      (spelled : e.spell = rest.spell ++ List.replicate count '}') {later : List Char} {c : Char}
      (hc : c ∈ (e.spell ++ '}' :: later).head?) : c ∈ (rest.spell ++ []).head? ∨ c = '}' := by
    cases text : rest.spell with
    | nil =>
      have brace : '}' = c := by cases count <;> simpa [spelled, text, List.replicate_succ] using hc
      exact Or.inr brace.symm
    | cons d ds => exact Or.inl (by simpa [spelled, text] using hc)
  induction d with
  | done => exact ⟨done, 0, rfl, fun _ => trivial⟩
  | char c rest ih =>
    obtain ⟨e, count, spelled, fits⟩ := ih h.2.2.2
    exact ⟨char c e, count, by simp [spell, spelled],
      fun later => ⟨h.1, h.2.1, h.2.2.1, fits later⟩⟩
  | escaped c rest ih =>
    obtain ⟨e, count, spelled, fits⟩ := ih h.2
    exact ⟨escaped c e, count, by simp [spell, spelled], fun later => ⟨h.1, fits later⟩⟩
  | backslash rest ih =>
    by_cases last : rest.spell = []
    · exact ⟨escaped '}' done, 1, by simp [spell, last], fun later => ⟨by decide, trivial⟩⟩
    · obtain ⟨e, count, spelled, fits⟩ := ih h.2
      refine ⟨backslash e, count, by simp [spell, spelled], fun later => ⟨?_, fits later⟩⟩
      have same : (e.spell ++ '}' :: later).head? = (rest.spell ++ []).head? := by
        obtain ⟨c, cs, text⟩ := List.exists_cons_of_ne_nil last
        simp [spelled, text]
      rw [same]
      exact h.1
  | dollar rest ih =>
    obtain ⟨e, count, spelled, fits⟩ := ih h.2.2
    refine ⟨dollar e, count, by simp [spell, spelled], fun later => ⟨?_, ?_, fits later⟩⟩
    · intro c hc
      rcases next spelled hc with hc | rfl
      · exact h.1 c hc
      · decide
    · intro brace
      rcases next spelled brace with hc | hc
      · exact h.2.1 hc
      · simp at hc
  | bare head rest ih =>
    obtain ⟨e, count, spelled, fits⟩ := ih h.2.2.2
    refine ⟨bare head e, count, by simp [spell, spelled],
      fun later => ⟨h.1, h.2.1, ?_, fits later⟩⟩
    intro c hc
    rcases next spelled hc with hc | rfl
    · exact h.2.2.1 c hc
    · exact head.endsBefore_tail (Or.inl rfl) [] '}' rfl
  | closed head rest ih =>
    obtain ⟨e, count, spelled, fits⟩ := ih h.2.2
    exact ⟨closed head e, count, by simp [spell, spelled],
      fun later => ⟨h.1, h.2.1, fits later⟩⟩
  | filled head default rest default_ih ih =>
    obtain ⟨e, count, spelled, fits⟩ := ih h.2.2.2
    exact ⟨filled head default e, count, by simp [spell, spelled],
      fun later => ⟨h.1, h.2.1, h.2.2.1.congr rfl, fits later⟩⟩

end Derivation

/-! ## Where the reader stops -/

/-- The reader has passed `front`, which begins with a placeholder unless it is empty, and cannot go
on: `next` is the character that it sees, if the text has not ended. -/
inductive Blocked (next : Option Char) : Bool → List Char → Reason → Prop where
  | unterminated : next = none → Blocked next true [] .unterminated
  | head {nested : Bool} :
      (∀ c ∈ next, isDigit c = false ∧ isNameStart c = false) →
      Blocked next nested ['$', '{'] .headExpected
  | tail {nested : Bool} {s : Spelling} :
      s.Formed → s.Valued → (∀ c ∈ next, s.goesOn c = false) → next ≠ some '}' → next ≠ some ':' →
      Blocked next nested ('$' :: '{' :: s.text) .tailExpected
  | default {nested : Bool} {s : Spelling} {d : Derivation} {front : List Char} {reason : Reason} :
      s.Formed → s.Valued → d.Fits true (front ++ next.toList) → Blocked next true front reason →
      Blocked next nested ('$' :: '{' :: (s.text ++ ':' :: (d.spell ++ front))) reason

theorem Derivation.Fits.congr_next {nested : Bool} {d : Derivation} {front rest : List Char} :
    d.Fits nested (front ++ rest) ↔ d.Fits nested (front ++ rest.head?.toList) := by
  have same : (front ++ rest).head? = (front ++ rest.head?.toList).head? := by
    cases rest <;> simp
  exact ⟨fun fits => fits.congr same, fun fits => fits.congr same.symm⟩

theorem Stuck.blocked {nested : Bool} {text : List Char} {halt : Halt} (h : Stuck nested text halt)
    {reason : Reason} {left : Nat} (malformed : halt = .malformed reason left) :
    ∃ front rest, text = front ++ rest ∧ rest.length = left ∧
      Blocked rest.head? nested front reason := by
  induction h with
  | unterminated =>
    cases malformed
    exact ⟨[], [], rfl, rfl, .unterminated rfl⟩
  | index => cases malformed
  | bracedIndex => cases malformed
  | @head nested after headless =>
    cases malformed
    exact ⟨['$', '{'], after, rfl, rfl, .head headless⟩
  | @tail nested s after formed valued ends brace colon =>
    cases malformed
    exact ⟨'$' :: '{' :: s.text, after, rfl, rfl, .tail formed valued ends brace colon⟩
  | @default nested s d after halt formed valued fits _ ih =>
    obtain ⟨front, rest, rfl, length, blocked⟩ := ih malformed
    refine ⟨'$' :: '{' :: (s.text ++ ':' :: (d.spell ++ front)), rest, by simp, length, ?_⟩
    exact .default formed valued (Derivation.Fits.congr_next.1 fits) blocked

/-- Whatever follows the character that blocks the reader, it stops there. -/
theorem Blocked.stuck {next : Option Char} {nested : Bool} {front : List Char} {reason : Reason}
    (h : Blocked next nested front reason) {rest : List Char} (hrest : rest.head? = next) :
    Stuck nested (front ++ rest) (.malformed reason rest.length) := by
  subst hrest
  induction h with
  | unterminated ended =>
    obtain rfl := List.head?_eq_none_iff.1 ended
    exact .unterminated
  | head headless => exact .head headless
  | tail formed valued ends brace colon => exact .tail formed valued ends brace colon
  | @default nested s d front reason formed valued fits _ ih =>
    have stuck : Stuck nested _ _ :=
      .default formed valued (Derivation.Fits.congr_next.2 fits) ih
    simpa using stuck

theorem Blocked.next_eq_none {next : Option Char} {nested : Bool} {front : List Char}
    {reason : Reason} (h : Blocked next nested front reason) (unclosed : reason = .unterminated) :
    next = none := by
  induction h with
  | unterminated ended => exact ended
  | head => cases unclosed
  | tail => cases unclosed
  | default _ _ _ _ ih => exact ih unclosed

/-- What the reader has passed is the beginning of a sequence. If a placeholder is not closed,
braces alone complete it. -/
theorem Blocked.exists_completion {next : Option Char} {nested : Bool} {front : List Char}
    {reason : Reason} (h : Blocked next nested front reason) {d : Derivation}
    (fits : d.Fits nested (front ++ next.toList)) :
    ∃ (e : Derivation) (more : List Char), e.spell = d.spell ++ (front ++ more) ∧
      (∀ later, e.Fits nested ('}' :: later)) ∧
      (reason = .unterminated → ∃ count, more = List.replicate count '}') := by
  -- The placeholder at the front is finished, and the sequence before it does not notice.
  have finish {nested : Bool} {d e : Derivation} {first : Char} {behind text : List Char}
      (fits : d.Fits nested (first :: behind)) (spelled : e.spell = first :: text)
      (whole : ∀ later, e.Fits nested later) (later : List Char) :
      (d.append e).Fits nested ('}' :: later) := by
    apply Derivation.Fits.append _ (whole _)
    rw [spelled]
    exact fits.congr rfl
  induction h generalizing d with
  | unterminated ended =>
    subst ended
    obtain ⟨e, count, spelled, closes⟩ := Derivation.exists_closing fits
    exact ⟨e, List.replicate count '}', spelled, closes, fun _ => ⟨count, rfl⟩⟩
  | @head nested =>
    let e : Derivation := .closed (.digits ['1']) .done
    have whole (later : List Char) : e.Fits nested later := ⟨by decide, by decide, trivial⟩
    refine ⟨d.append e, ['1', '}'], by rw [Derivation.spell_append]; rfl, finish fits rfl whole, ?_⟩
    intro unclosed
    cases unclosed
  | @tail nested s formed valued =>
    let e : Derivation := .closed s .done
    have whole (later : List Char) : e.Fits nested later := ⟨formed, valued, trivial⟩
    refine ⟨d.append e, ['}'], by rw [Derivation.spell_append]; rfl, finish fits rfl whole, ?_⟩
    intro unclosed
    cases unclosed
  | @default nested s inner front reason formed valued inner_fits _ ih =>
    obtain ⟨default, more, spelled, closes, braces⟩ := ih inner_fits
    let e : Derivation := .filled s default .done
    have whole (later : List Char) : e.Fits nested later := ⟨formed, valued, closes _, trivial⟩
    refine ⟨d.append e, more ++ ['}'], ?_, finish fits rfl whole, ?_⟩
    · rw [Derivation.spell_append]
      simp [e, Derivation.spell, spelled]
    · intro unclosed
      obtain ⟨count, rfl⟩ := braces unclosed
      exact ⟨count + 1, List.replicate_succ'.symm⟩

/-! ## Faults of a whole text -/

theorem exists_blocked {text : List Char} {reason : Reason} {offset : Nat}
    (h : read text = .error (.malformed reason offset)) :
    ∃ (d : Derivation) (front rest : List Char), text = d.spell ++ (front ++ rest) ∧
      offset = (d.spell ++ front).length ∧ d.Fits false (front ++ rest) ∧
      Blocked rest.head? false front reason := by
  rw [read_eq_sequence] at h
  obtain ⟨d, after, rfl, fits, ended | ⟨halt, stuck⟩⟩ := exists_split false text
  · rw [sequence_spell fits, sequence_ended ended] at h
    cases h
  · rw [sequence_spell fits, sequence_stuck stuck] at h
    cases halt with
    | index fault => cases h
    | malformed found left =>
      obtain ⟨front, rest, rfl, rfl, blocked⟩ := stuck.blocked rfl
      obtain ⟨rfl, place⟩ := Fault.malformed.inj (Except.error.inj h)
      refine ⟨d, front, rest, rfl, ?_, fits, blocked⟩
      rw [← place]
      simp only [List.length_append]
      omega

theorem read_blocked {d : Derivation} {front rest : List Char} {reason : Reason}
    (fits : d.Fits false (front ++ rest)) (blocked : Blocked rest.head? false front reason) :
    read (d.spell ++ (front ++ rest)) = .error (.malformed reason (d.spell ++ front).length) := by
  have place : (d.spell ++ (front ++ rest)).length - rest.length = (d.spell ++ front).length := by
    simp only [List.length_append]
    omega
  rw [read_eq_sequence, sequence_spell fits, sequence_stuck (blocked.stuck rfl)]
  exact congrArg (fun offset => Except.error (Fault.malformed reason offset)) place

/-- Outside of placeholders braces are literal. -/
theorem exists_read_braces {d : Derivation} (fits : ∀ later, d.Fits false ('}' :: later))
    (count : Nat) : ∃ t, read (d.spell ++ List.replicate (count + 1) '}') = .ok t := by
  have literal (count : Nat) : ∃ t, sequence false (List.replicate count '}') = .ok (t, []) := by
    induction count with
    | zero => exact ⟨done, sequence_nil⟩
    | succ count ih =>
      obtain ⟨t, braces⟩ := ih
      refine ⟨char '}' done ++ t, ?_⟩
      rw [List.replicate_succ, sequence_literal (by decide) (by decide) (fun _ => rfl), braces]
      rfl
  obtain ⟨t, braces⟩ := literal (count + 1)
  have whole := sequence_spell (fits (List.replicate count '}'))
  rw [← List.replicate_succ, braces, Outcome.after_ok] at whole
  exact ⟨_, read_eq_ok whole⟩

/-- A fault in the form of a template is placed at the character that makes the text hopeless: what
stands before it can be completed, and once it is there every text that goes on has the same fault.
An unclosed placeholder is found at the end of the text, and enough braces close it. -/
theorem read_fault_exact (text : List Char) (reason : Reason) (offset : Nat)
    (h : read text = .error (.malformed reason offset)) :
    offset ≤ text.length ∧
    (∃ more t, read (text.take offset ++ more) = .ok t) ∧
    (offset < text.length →
      ∀ more, read (text.take (offset + 1) ++ more) = .error (.malformed reason offset)) ∧
    (reason = .unterminated →
      offset = text.length ∧
      ∃ enough, ∀ count ≥ enough, ∃ t, read (text ++ List.replicate count '}') = .ok t) := by
  obtain ⟨d, front, rest, rfl, rfl, fits, blocked⟩ := exists_blocked h
  obtain ⟨e, more, spelled, closes, braces⟩ :=
    blocked.exists_completion (Derivation.Fits.congr_next.1 fits)
  rw [← List.append_assoc] at spelled ⊢
  refine ⟨by simp, ?_, ?_, ?_⟩
  · obtain ⟨t, complete⟩ := exists_read_braces closes 0
    refine ⟨more ++ ['}'], t, ?_⟩
    rw [List.take_left, ← List.append_assoc, ← spelled]
    exact complete
  · intro inside later
    cases rest with
    | nil => simp at inside
    | cons c cs =>
      have fits' : d.Fits false (front ++ c :: later) := fits.congr (by simp)
      have hopeless := read_blocked fits' blocked
      rw [List.take_length_add_append]
      simpa using hopeless
  · intro unclosed
    obtain rfl := List.head?_eq_none_iff.1 (blocked.next_eq_none unclosed)
    obtain ⟨needed, rfl⟩ := braces unclosed
    refine ⟨by simp, needed + 1, ?_⟩
    intro count hcount
    obtain ⟨extra, rfl⟩ := Nat.exists_eq_add_of_le hcount
    obtain ⟨t, complete⟩ := exists_read_braces closes extra
    have split : List.replicate (needed + 1 + extra) '}' =
        List.replicate needed '}' ++ List.replicate (extra + 1) '}' := by
      rw [← List.replicate_add]
      congr 1
      omega
    rw [List.append_nil, split, ← List.append_assoc, ← spelled]
    exact ⟨t, complete⟩

/-- A default that breaks off within a placeholder of its own, and one that ends in a backslash. -/
theorem read_fault_exact_nested :
    (∀ more, read ("p$\x7b1:q$\x7bN-".toList ++ more) = .error (.malformed .tailExpected 9)) ∧
    (∃ more t, read ("p$\x7b1:q$\x7bN".toList ++ more) = .ok t) ∧
    ∃ enough, ∀ count ≥ enough,
      ∃ t, read ("$\x7b1:\\".toList ++ List.replicate count '}') = .ok t := by
  have broken : read "p$\x7b1:q$\x7bN-\x7d\x7d".toList = .error (.malformed .tailExpected 9) := by
    decide +kernel
  have unclosed : read "$\x7b1:\\".toList = .error (.malformed .unterminated 5) := by
    decide +kernel
  obtain ⟨-, viable, hopeless, -⟩ := read_fault_exact _ _ _ broken
  obtain ⟨-, -, -, closed⟩ := read_fault_exact _ _ _ unclosed
  exact ⟨hopeless (by decide), viable, (closed rfl).2⟩

end ScriptAssist.Template
