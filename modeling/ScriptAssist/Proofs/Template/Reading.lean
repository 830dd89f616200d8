import ScriptAssist.Proofs.Text.Digit
import ScriptAssist.Template.Reader

namespace ScriptAssist.Template

open Text

/-- What a reader comes to: a template and the text that is left, or the reason why it stopped. -/
abbrev Outcome := Except Halt (Template × List Char)

namespace Outcome

/-- Puts `first` in front of the template that is read. -/
def after (first : Template) : Outcome → Outcome
  | .ok (template, rest) => .ok (first ++ template, rest)
  | .error halt => .error halt

/-- Goes on with what is left. -/
def andThen (next : Template → List Char → Outcome) : Outcome → Outcome
  | .ok (template, rest) => next template rest
  | .error halt => .error halt

@[simp] theorem after_ok (first template : Template) (rest : List Char) :
    after first (.ok (template, rest)) = .ok (first ++ template, rest) := rfl

@[simp] theorem andThen_ok (next : Template → List Char → Outcome) (template : Template)
    (rest : List Char) : andThen next (.ok (template, rest)) = next template rest := rfl

end Outcome

/-- Forgets the bound that a reading carries. -/
def outcome {text : List Char} : Except Halt (Read text) → Outcome
  | .ok read => .ok (read.template, read.rest)
  | .error halt => .error halt

def sequence (nested : Bool) (text : List Char) : Outcome := outcome (readSequence nested text)

def dollar (text : List Char) : Outcome := outcome (readDollar text)

def tail (head : Head) (text : List Char) : Outcome := outcome (readTail head text)

theorem sequence_nil : sequence false [] = .ok (done, []) := by
  rw [sequence, readSequence]
  rfl

theorem sequence_unterminated : sequence true [] = .error (.malformed .unterminated 0) := by
  rw [sequence, readSequence]
  rfl

theorem sequence_escaped (nested : Bool) {c : Char} (h : isEscapable c) (cs : List Char) :
    sequence nested ('\\' :: c :: cs) = (sequence nested cs).after (char c done) := by
  rw [sequence, readSequence, if_pos h, sequence]
  cases readSequence nested cs <;> rfl

theorem sequence_dollar (nested : Bool) (cs : List Char) :
    sequence nested ('$' :: cs) =
      (dollar cs).andThen fun placeholder rest => (sequence nested rest).after placeholder := by
  rw [sequence, readSequence, dollar]
  cases readDollar cs with
  | error halt => rfl
  | ok placeholder =>
    simp only [outcome, Outcome.andThen_ok, sequence]
    cases readSequence nested placeholder.rest <;> rfl

/-- The brace that closes a placeholder is left for the placeholder to read. -/
theorem sequence_close (cs : List Char) : sequence true ('}' :: cs) = .ok (done, '}' :: cs) := by
  rw [sequence, readSequence]
  · rfl
  all_goals simp

/-- Any other character is literal; the brace is so only outside of placeholders. -/
theorem sequence_literal {nested : Bool} {c : Char} (backslash : c ≠ '\\') (dollarSign : c ≠ '$')
    (brace : c = '}' → nested = false) (cs : List Char) :
    sequence nested (c :: cs) = (sequence nested cs).after (char c done) := by
  have stays : ¬(c = '}' ∧ nested = true) := fun close => by simp [brace close.1] at close
  rw [sequence, readSequence, if_neg stays, sequence]
  · cases readSequence nested cs <;> rfl
  · intro d ds hc
    exact absurd hc backslash
  · exact dollarSign

/-- A backslash in front of anything that it does not make literal is literal itself. -/
theorem sequence_backslash (nested : Bool) {cs : List Char}
    (h : ∀ c ∈ cs.head?, ¬isEscapable c) :
    sequence nested ('\\' :: cs) = (sequence nested cs).after (char '\\' done) := by
  cases cs with
  | nil =>
    rw [sequence, readSequence, if_neg (by simp), sequence]
    · cases readSequence nested [] <;> rfl
    all_goals simp
  | cons c cs =>
    rw [sequence, readSequence, if_neg (h c rfl), sequence]
    cases readSequence nested (c :: cs) <;> rfl

theorem isNameStart_range {c : Char} (h : isNameStart c) :
    c.toNat = 0x5F ∨ 0x61 ≤ c.toNat ∧ c.toNat ≤ 0x7A ∨ 0x41 ≤ c.toNat ∧ c.toNat ≤ 0x5A := by
  simp only [isNameStart, Bool.or_eq_true, Bool.and_eq_true, decide_eq_true_eq] at h
  rcases h with (rfl | h) | h
  · exact Or.inl rfl
  · exact Or.inr (Or.inl h)
  · exact Or.inr (Or.inr h)

theorem isDigit_of_isNameStart {c : Char} (h : isNameStart c) : isDigit c = false := by
  have range := isNameStart_range h
  have ascii : c.toNat < 0x80 := by omega
  rw [isDigit_of_ascii ascii, Bool.eq_false_iff]
  intro digit
  have digit := Char.isDigit_iff_toNat.1 digit
  simp only [Char.reduceToNat] at digit
  omega

/-! ## Heads -/

/-- How the head of a placeholder is written. -/
inductive Spelling where
  | digits (run : List Char)
  | name (id : List Char)
  deriving DecidableEq, Repr

namespace Spelling

def text : Spelling → List Char
  | digits run => run
  | name id => id

/-- The characters with which a spelling can begin. -/
def begins : Spelling → Char → Bool
  | digits _ => isDigit
  | name _ => isNameStart

/-- The characters with which a spelling can go on. -/
def goesOn : Spelling → Char → Bool
  | digits _ => isDigit
  | name _ => isNameChar

/-- A run of digits that is not empty, or a name. -/
structure Formed (s : Spelling) : Prop where
  first : ∃ c ∈ s.text.head?, s.begins c
  all : ∀ c ∈ s.text, s.goesOn c

/-- The text that follows does not go on with the spelling. -/
def EndsBefore (s : Spelling) (after : List Char) : Prop := ∀ c ∈ after.head?, s.goesOn c = false

instance (s : Spelling) : Decidable s.Formed :=
  have : Decidable (∃ c ∈ s.text.head?, s.begins c) := Option.decidableExistsMem _
  have : Decidable (∀ c ∈ s.text, s.goesOn c) := List.decidableBAll _ _
  decidable_of_iff ((∃ c ∈ s.text.head?, s.begins c) ∧ ∀ c ∈ s.text, s.goesOn c)
    ⟨fun h => ⟨h.1, h.2⟩, fun h => ⟨h.first, h.all⟩⟩

instance (s : Spelling) (after : List Char) : Decidable (s.EndsBefore after) :=
  Option.decidableForallMem after.head?

/-- What is written; digits that cannot be read write nothing. -/
def value : Spelling → Except NumberFault Head
  | digits run =>
    match readNumber run with
    | .ok n => .ok (.index n)
    | .error fault => .error fault
  | name id => .ok (.name id)

/-- Goes on with what is written. -/
def andThen (s : Spelling) (next : Head → Outcome) : Outcome :=
  match s.value with
  | .ok head => next head
  | .error fault => .error (.index fault)

theorem Formed.eq_cons {s : Spelling} (h : s.Formed) : ∃ c cs, s.text = c :: cs ∧ s.begins c := by
  obtain ⟨c, hc, begins⟩ := h.first
  cases ht : s.text with
  | nil => simp [ht] at hc
  | cons d cs =>
    have same : d = c := by simpa [ht] using hc
    exact ⟨d, cs, rfl, same ▸ begins⟩

end Spelling

/-- No spelling begins here. -/
def Headless (text : List Char) : Prop :=
  ∀ c ∈ text.head?, isDigit c = false ∧ isNameStart c = false

instance (text : List Char) : Decidable (Headless text) :=
  Option.decidableForallMem text.head?

/-- A text begins with the longest spelling that it can, or with none. -/
theorem spelled_or_headless (text : List Char) :
    (∃ (s : Spelling) (after : List Char),
      s.Formed ∧ s.EndsBefore after ∧ text = s.text ++ after) ∨ Headless text := by
  have ends (p : Char → Bool) : ∀ c ∈ (text.dropWhile p).head?, p c = false := by
    intro c hc
    have stop := List.head?_dropWhile_not p text
    rw [Option.mem_def.1 hc] at stop
    exact stop
  cases text with
  | nil => exact Or.inr (by simp [Headless])
  | cons c cs =>
    by_cases digit : isDigit c
    · refine Or.inl ⟨.digits ((c :: cs).takeWhile isDigit), (c :: cs).dropWhile isDigit, ⟨?_, ?_⟩,
        ends isDigit, List.takeWhile_append_dropWhile.symm⟩
      · exact ⟨c, by simp [Spelling.text, digit], digit⟩
      · exact fun d hd => List.mem_takeWhile_imp hd
    · by_cases start : isNameStart c
      · refine Or.inl ⟨.name ((c :: cs).takeWhile isNameChar), (c :: cs).dropWhile isNameChar,
          ⟨?_, ?_⟩, ends isNameChar, List.takeWhile_append_dropWhile.symm⟩
        · exact ⟨c, by simp [Spelling.text, isNameChar, start], start⟩
        · exact fun d hd => List.mem_takeWhile_imp hd
      · exact Or.inr (by simp [Headless, digit, start])

/-! ## Placeholders -/

theorem dollar_digits {c : Char} (h : isDigit c) (cs : List Char) :
    dollar (c :: cs) =
      match readNumber ((c :: cs).takeWhile isDigit) with
      | .error fault => .error (.index fault)
      | .ok index => .ok (bare (.index index) done, (c :: cs).dropWhile isDigit) := by
  rw [dollar, readDollar.eq_def]
  simp only [h, if_true]
  cases readNumber ((c :: cs).takeWhile isDigit) <;> rfl

theorem dollar_word {c : Char} (h : isNameStart c) (cs : List Char) :
    dollar (c :: cs) =
      .ok (bare (.name ((c :: cs).takeWhile isNameChar)) done, (c :: cs).dropWhile isNameChar) := by
  rw [dollar, readDollar.eq_def]
  simp only [h, isDigit_of_isNameStart h, if_true, Bool.false_eq_true, if_false, outcome]

theorem dollar_index {d : Char} (h : isDigit d) (ds : List Char) :
    dollar ('{' :: d :: ds) =
      match readNumber ((d :: ds).takeWhile isDigit) with
      | .error fault => .error (.index fault)
      | .ok index => tail (.index index) ((d :: ds).dropWhile isDigit) := by
  rw [dollar, readDollar]
  simp only [show isDigit '{' = false by decide, show isNameStart '{' = false by decide, h, if_true,
    Bool.false_eq_true, if_false]
  cases readNumber ((d :: ds).takeWhile isDigit) with
  | error fault => rfl
  | ok index =>
    simp only [tail]
    cases readTail (.index index) ((d :: ds).dropWhile isDigit) <;> rfl

theorem dollar_name {d : Char} (h : isNameStart d) (ds : List Char) :
    dollar ('{' :: d :: ds) =
      tail (.name ((d :: ds).takeWhile isNameChar)) ((d :: ds).dropWhile isNameChar) := by
  rw [dollar, readDollar]
  simp only [show isDigit '{' = false by decide, show isNameStart '{' = false by decide, h, if_true,
    isDigit_of_isNameStart h, Bool.false_eq_true, if_false]
  rw [tail]
  cases readTail (.name ((d :: ds).takeWhile isNameChar)) ((d :: ds).dropWhile isNameChar) <;> rfl

/-- A reader that scans digits and names from the front reads the longest spelling there. -/
theorem scan_spelled (scan : List Char → Outcome) (next : Head → List Char → Outcome)
    (digits : ∀ c cs, isDigit c →
      scan (c :: cs) =
        match readNumber ((c :: cs).takeWhile isDigit) with
        | .error fault => .error (.index fault)
        | .ok index => next (.index index) ((c :: cs).dropWhile isDigit))
    (word : ∀ c cs, isNameStart c →
      scan (c :: cs) =
        next (.name ((c :: cs).takeWhile isNameChar)) ((c :: cs).dropWhile isNameChar))
    {s : Spelling} (h : s.Formed) {after : List Char} (ends : s.EndsBefore after) :
    scan (s.text ++ after) = s.andThen fun head => next head after := by
  obtain ⟨c, cs, spelled, begins⟩ := h.eq_cons
  cases s with
  | digits run =>
    change run = c :: cs at spelled
    subst spelled
    have taken : (c :: cs ++ after).takeWhile isDigit = c :: cs := takeWhile_run h.all ends
    have left : (c :: cs ++ after).dropWhile isDigit = after := dropWhile_run h.all ends
    rw [List.cons_append] at taken left
    rw [Spelling.text, List.cons_append, digits c _ begins, taken, left, Spelling.andThen,
      Spelling.value]
    cases readNumber (c :: cs) <;> rfl
  | name id =>
    change id = c :: cs at spelled
    subst spelled
    have taken : (c :: cs ++ after).takeWhile isNameChar = c :: cs := takeWhile_run h.all ends
    have left : (c :: cs ++ after).dropWhile isNameChar = after := dropWhile_run h.all ends
    rw [List.cons_append] at taken left
    rw [Spelling.text, List.cons_append, word c _ begins, taken, left]
    rfl

theorem dollar_spelled {s : Spelling} (h : s.Formed) {after : List Char}
    (ends : s.EndsBefore after) :
    dollar (s.text ++ after) = s.andThen fun head => .ok (bare head done, after) :=
  scan_spelled dollar (fun head rest => .ok (bare head done, rest))
    (fun _ cs digit => dollar_digits digit cs) (fun _ cs start => dollar_word start cs) h ends

theorem dollar_braced {s : Spelling} (h : s.Formed) {after : List Char}
    (ends : s.EndsBefore after) :
    dollar ('{' :: (s.text ++ after)) = s.andThen fun head => tail head after :=
  scan_spelled (fun text => dollar ('{' :: text)) tail
    (fun _ cs digit => dollar_index digit cs) (fun _ cs start => dollar_name start cs) h ends

theorem dollar_literal {text : List Char} (h : Headless text) (brace : text.head? ≠ some '{') :
    dollar text = .ok (char '$' done, text) := by
  rw [dollar]
  cases text with
  | nil =>
    rw [readDollar]
    rfl
  | cons c cs =>
    obtain ⟨digit, start⟩ := h c rfl
    have other : c ≠ '{' := by simpa using brace
    rw [readDollar.eq_def]
    simp only [digit, start, other, Bool.false_eq_true, if_false, outcome]

theorem dollar_headless {text : List Char} (h : Headless text) :
    dollar ('{' :: text) = .error (.malformed .headExpected text.length) := by
  rw [dollar, readDollar.eq_def]
  simp only [show isDigit '{' = false by decide, show isNameStart '{' = false by decide,
    Bool.false_eq_true, if_false, if_true]
  cases text with
  | nil => rfl
  | cons c cs =>
    obtain ⟨digit, start⟩ := h c rfl
    simp only [digit, start, Bool.false_eq_true, if_false, outcome]

theorem tail_close (head : Head) (cs : List Char) :
    tail head ('}' :: cs) = .ok (closed head done, cs) := by
  rw [tail, readTail]
  rfl

theorem tail_colon (head : Head) (cs : List Char) :
    tail head (':' :: cs) =
      (sequence true cs).andThen fun default rest => .ok (filled head default done, rest.drop 1) := by
  rw [tail, readTail, sequence, if_neg (by decide), if_pos rfl]
  cases readSequence true cs <;> rfl

theorem tail_other (head : Head) {text : List Char} (brace : text.head? ≠ some '}')
    (colon : text.head? ≠ some ':') :
    tail head text = .error (.malformed .tailExpected text.length) := by
  rw [tail]
  cases text with
  | nil =>
    rw [readTail]
    rfl
  | cons c cs =>
    rw [readTail, if_neg (by simpa using brace), if_neg (by simpa using colon)]
    rfl

theorem read_eq_sequence (text : List Char) :
    read text =
      match sequence false text with
      | .ok (template, _) => .ok template
      | .error (.malformed reason left) => .error (.malformed reason (text.length - left))
      | .error (.index fault) => .error (.index fault) := by
  rw [read, sequence]
  cases readSequence false text with
  | ok whole => rfl
  | error halt => cases halt <;> rfl

theorem read_eq_ok {text : List Char} {template : Template} {rest : List Char}
    (h : sequence false text = .ok (template, rest)) : read text = .ok template := by
  rw [read_eq_sequence, h]

end ScriptAssist.Template
