import ScriptAssist.Proofs.Template.Reading

namespace ScriptAssist.Template

open Text

namespace Spelling

/-- An index is written in decimal digits, no more of them than are read. -/
def Valued : Spelling → Prop
  | digits run => (∀ c ∈ run, isDecimal c) ∧ run.length ≤ digitLimit
  | name _ => True

instance : (s : Spelling) → Decidable s.Valued
  | digits run =>
    have : Decidable (∀ c ∈ run, isDecimal c) := List.decidableBAll _ _
    inferInstanceAs (Decidable (_ ∧ run.length ≤ digitLimit))
  | name _ => inferInstanceAs (Decidable True)

def head : Spelling → Head
  | digits run => .index (decimalNumber run)
  | name id => .name id

theorem value_eq_ok_iff {s : Spelling} {head : Head} :
    s.value = .ok head ↔ s.Valued ∧ s.head = head := by
  cases s with
  | digits run =>
    rw [value]
    cases number : readNumber run with
    | ok n =>
      obtain ⟨decimal, short, rfl⟩ := readNumber_eq_ok_iff.1 number
      have valued : (digits run).Valued := ⟨decimal, short⟩
      simp [valued, Spelling.head]
    | error fault =>
      have unread : ¬(digits run).Valued := by
        rintro ⟨decimal, short⟩
        have read := readNumber_eq_ok_iff.2 ⟨decimal, short, rfl⟩
        simp [read] at number
      simp [unread]
  | name id => simp [value, Valued, Spelling.head]

theorem andThen_head {s : Spelling} (h : s.Valued) (next : Head → Outcome) :
    s.andThen next = next s.head := by
  rw [andThen, value_eq_ok_iff.2 ⟨h, rfl⟩]

/-- No text begins with two spellings. -/
theorem eq_of_append {s t : Spelling} (hs : s.Formed) (ht : t.Formed) {after later : List Char}
    (hafter : s.EndsBefore after) (hlater : t.EndsBefore later)
    (same : s.text ++ after = t.text ++ later) : s = t ∧ after = later := by
  obtain ⟨c, cs, hcs, begins⟩ := hs.eq_cons
  obtain ⟨d, ds, hds, begins'⟩ := ht.eq_cons
  have first : c = d := by
    rw [hcs, hds] at same
    exact (List.cons.inj same).1
  subst first
  have kind : s.goesOn = t.goesOn ∧ (s.text = t.text → s = t) := by
    cases s with
    | digits run =>
      cases t with
      | digits run' => exact ⟨rfl, congrArg digits⟩
      | name id => exact absurd begins (by simp [Spelling.begins, isDigit_of_isNameStart begins'])
    | name id =>
      cases t with
      | digits run => exact absurd begins' (by simp [Spelling.begins, isDigit_of_isNameStart begins])
      | name id' => exact ⟨rfl, congrArg name⟩
  have texts : s.text = t.text := by
    calc
      s.text = (s.text ++ after).takeWhile s.goesOn := (takeWhile_run hs.all hafter).symm
      _ = (t.text ++ later).takeWhile t.goesOn := by rw [same, kind.1]
      _ = t.text := takeWhile_run ht.all hlater
  rw [texts] at same
  exact ⟨kind.2 texts, List.append_cancel_left same⟩

/-- Neither the brace nor the colon behind a head goes on with it. -/
theorem endsBefore_tail (s : Spelling) {c : Char} (hc : c = '}' ∨ c = ':') (after : List Char) :
    s.EndsBefore (c :: after) := by
  intro d hd
  have same : c = d := by simpa using hd
  subst same
  cases s with
  | digits run =>
    change isDigit c = false
    rcases hc with rfl | rfl <;> decide
  | name id =>
    change isNameChar c = false
    rcases hc with rfl | rfl <;> decide

end Spelling

/-- How a text is put together from the elements of the grammar of templates. -/
inductive Derivation where
  | done
  | char (c : Char) (rest : Derivation)
  /-- A backslash and the character that it makes literal. -/
  | escaped (c : Char) (rest : Derivation)
  /-- A backslash that makes nothing literal. -/
  | backslash (rest : Derivation)
  /-- A dollar sign that begins no placeholder. -/
  | dollar (rest : Derivation)
  | bare (head : Spelling) (rest : Derivation)
  | closed (head : Spelling) (rest : Derivation)
  | filled (head : Spelling) (default rest : Derivation)
  deriving DecidableEq, Repr

namespace Derivation

/-- The text that is put together. -/
def spell : Derivation → List Char
  | done => []
  | char c rest => c :: rest.spell
  | escaped c rest => '\\' :: c :: rest.spell
  | backslash rest => '\\' :: rest.spell
  | dollar rest => '$' :: rest.spell
  | bare head rest => '$' :: (head.text ++ rest.spell)
  | closed head rest => '$' :: '{' :: (head.text ++ '}' :: rest.spell)
  | filled head default rest =>
    '$' :: '{' :: (head.text ++ ':' :: (default.spell ++ '}' :: rest.spell))

section

variable (c : Char) (head : Spelling) (default rest : Derivation) (after : List Char)

theorem char_spell : (char c rest).spell ++ after = c :: (rest.spell ++ after) := rfl

theorem escaped_spell : (escaped c rest).spell ++ after = '\\' :: c :: (rest.spell ++ after) := rfl

theorem backslash_spell : (backslash rest).spell ++ after = '\\' :: (rest.spell ++ after) := rfl

theorem dollar_spell : (dollar rest).spell ++ after = '$' :: (rest.spell ++ after) := rfl

theorem bare_spell :
    (bare head rest).spell ++ after = '$' :: (head.text ++ (rest.spell ++ after)) := by
  simp [spell]

theorem closed_spell :
    (closed head rest).spell ++ after =
      '$' :: '{' :: (head.text ++ '}' :: (rest.spell ++ after)) := by
  simp [spell]

theorem filled_spell :
    (filled head default rest).spell ++ after =
      '$' :: '{' :: (head.text ++ ':' :: (default.spell ++ '}' :: (rest.spell ++ after))) := by
  simp [spell]

end

/-- The rules of the grammar, for a sequence in front of `after`. A brace is an element only outside
of placeholders, a backslash or a dollar sign stands alone only if nothing it could belong to
follows, and a bare head goes as far as it can. -/
def Fits (nested : Bool) (after : List Char) : Derivation → Prop
  | done => True
  | char c rest => c ≠ '\\' ∧ c ≠ '$' ∧ (c = '}' → nested = false) ∧ rest.Fits nested after
  | escaped c rest => isEscapable c ∧ rest.Fits nested after
  | backslash rest =>
    (∀ c ∈ (rest.spell ++ after).head?, ¬isEscapable c) ∧ rest.Fits nested after
  | dollar rest =>
    Headless (rest.spell ++ after) ∧ (rest.spell ++ after).head? ≠ some '{' ∧
      rest.Fits nested after
  | bare head rest =>
    head.Formed ∧ head.Valued ∧ head.EndsBefore (rest.spell ++ after) ∧ rest.Fits nested after
  | closed head rest => head.Formed ∧ head.Valued ∧ rest.Fits nested after
  | filled head default rest =>
    head.Formed ∧ head.Valued ∧ default.Fits true ('}' :: (rest.spell ++ after)) ∧
      rest.Fits nested after

def decideFits (nested : Bool) (after : List Char) :
    (d : Derivation) → Decidable (d.Fits nested after)
  | done => isTrue trivial
  | char _ rest =>
    have := rest.decideFits nested after
    inferInstanceAs (Decidable (_ ∧ _))
  | escaped _ rest =>
    have := rest.decideFits nested after
    inferInstanceAs (Decidable (_ ∧ _))
  | backslash rest =>
    have : Decidable (∀ c ∈ (rest.spell ++ after).head?, ¬isEscapable c) :=
      Option.decidableForallMem _
    have := rest.decideFits nested after
    inferInstanceAs (Decidable (_ ∧ _))
  | dollar rest =>
    have := rest.decideFits nested after
    inferInstanceAs (Decidable (_ ∧ _))
  | bare _ rest =>
    have := rest.decideFits nested after
    inferInstanceAs (Decidable (_ ∧ _))
  | closed _ rest =>
    have := rest.decideFits nested after
    inferInstanceAs (Decidable (_ ∧ _))
  | filled _ default rest =>
    have := default.decideFits true ('}' :: (rest.spell ++ after))
    have := rest.decideFits nested after
    inferInstanceAs (Decidable (_ ∧ _))

instance (nested : Bool) (after : List Char) (d : Derivation) : Decidable (d.Fits nested after) :=
  d.decideFits nested after

/-- What a derivation shows: an index its default, a name its default or, if that shows nothing,
itself. -/
def text : Derivation → List Char
  | done => []
  | char c rest => c :: rest.text
  | escaped c rest => c :: rest.text
  | backslash rest => '\\' :: rest.text
  | dollar rest => '$' :: rest.text
  | bare (.digits _) rest => rest.text
  | bare (.name id) rest => id ++ rest.text
  | closed (.digits _) rest => rest.text
  | closed (.name id) rest => id ++ rest.text
  | filled (.digits _) default rest => default.text ++ rest.text
  | filled (.name id) default rest =>
    (if default.text = [] then id else default.text) ++ rest.text

/-- The indices with the texts of their defaults; a default comes before the index that has it. -/
def stops : Derivation → List Stop
  | done => []
  | char _ rest | escaped _ rest | backslash rest | dollar rest => rest.stops
  | bare (.digits run) rest => ⟨decimalNumber run, []⟩ :: rest.stops
  | bare (.name _) rest => rest.stops
  | closed (.digits run) rest => ⟨decimalNumber run, []⟩ :: rest.stops
  | closed (.name _) rest => rest.stops
  | filled (.digits run) default rest =>
    default.stops ++ ⟨decimalNumber run, default.text⟩ :: rest.stops
  | filled (.name _) default rest => default.stops ++ rest.stops

/-- The names; a default comes before the name that has it. -/
def names : Derivation → List (List Char)
  | done => []
  | char _ rest | escaped _ rest | backslash rest | dollar rest => rest.names
  | bare (.digits _) rest => rest.names
  | bare (.name id) rest => id :: rest.names
  | closed (.digits _) rest => rest.names
  | closed (.name id) rest => id :: rest.names
  | filled (.digits _) default rest => default.names ++ rest.names
  | filled (.name id) default rest => default.names ++ id :: rest.names

/-- The template that the reader makes of a derivation. -/
def template : Derivation → Template
  | done => Template.done
  | char c rest => Template.char c rest.template
  | escaped c rest => Template.char c rest.template
  | backslash rest => Template.char '\\' rest.template
  | dollar rest => Template.char '$' rest.template
  | bare head rest => Template.bare head.head rest.template
  | closed head rest => Template.closed head.head rest.template
  | filled head default rest => Template.filled head.head default.template rest.template

theorem render_template (d : Derivation) : d.template.render = d.text := by
  induction d with
  | bare head rest ih | closed head rest ih =>
    cases head <;> simp [template, render, text, Spelling.head, Head.shown, ih]
  | filled head default rest default_ih ih =>
    cases head <;> simp [template, render, text, Spelling.head, Head.shown, default_ih, ih]
  | _ => simp_all [template, render, text]

theorem stops_template (d : Derivation) : d.template.stops = d.stops := by
  induction d with
  | bare head rest ih | closed head rest ih =>
    cases head <;> simp [template, Template.stops, stops, Spelling.head, Head.stops, ih]
  | filled head default rest default_ih ih =>
    cases head <;> simp [template, Template.stops, stops, Spelling.head, Head.stops, default_ih, ih,
      render_template]
  | _ => simp_all [template, Template.stops, stops]

theorem names_template (d : Derivation) : d.template.names = d.names := by
  induction d with
  | bare head rest ih | closed head rest ih =>
    cases head <;> simp [template, Template.names, names, Spelling.head, Head.names, ih]
  | filled head default rest default_ih ih =>
    cases head <;> simp [template, Template.names, names, Spelling.head, Head.names, default_ih, ih]
  | _ => simp_all [template, Template.names, names]

end Derivation

/-! ## Reading what a derivation spells -/

@[simp] theorem append_done (t : Template) : t ++ done = t := by
  induction t <;> simp_all

protected theorem append_assoc (s t u : Template) : s ++ t ++ u = s ++ (t ++ u) := by
  induction s <;> simp_all

theorem Outcome.after_done (outcome : Outcome) : outcome.after done = outcome := by
  cases outcome <;> rfl

theorem Outcome.after_after (first second : Template) (outcome : Outcome) :
    (outcome.after second).after first = outcome.after (first ++ second) := by
  cases outcome with
  | error halt => rfl
  | ok read => simp only [after, Template.append_assoc]

/-- The reader takes what a derivation spells off the front of a text and goes on with what
follows. -/
theorem sequence_spell {nested : Bool} {d : Derivation} {after : List Char}
    (h : d.Fits nested after) :
    sequence nested (d.spell ++ after) = (sequence nested after).after d.template := by
  -- A default is read as nested and in front of a brace, so neither is fixed.
  induction d generalizing nested after with
  | done => exact (Outcome.after_done _).symm
  | char c rest ih =>
    obtain ⟨backslash, dollarSign, brace, fits⟩ := h
    rw [Derivation.char_spell, sequence_literal backslash dollarSign brace, ih fits,
      Outcome.after_after]
    rfl
  | escaped c rest ih =>
    obtain ⟨escapable, fits⟩ := h
    rw [Derivation.escaped_spell, sequence_escaped nested escapable, ih fits, Outcome.after_after]
    rfl
  | backslash rest ih =>
    obtain ⟨alone, fits⟩ := h
    rw [Derivation.backslash_spell, sequence_backslash nested alone, ih fits, Outcome.after_after]
    rfl
  | dollar rest ih =>
    obtain ⟨headless, brace, fits⟩ := h
    rw [Derivation.dollar_spell, sequence_dollar, dollar_literal headless brace,
      Outcome.andThen_ok, ih fits, Outcome.after_after]
    rfl
  | bare head rest ih =>
    obtain ⟨formed, valued, ends, fits⟩ := h
    rw [Derivation.bare_spell, sequence_dollar, dollar_spelled formed ends,
      Spelling.andThen_head valued, Outcome.andThen_ok, ih fits, Outcome.after_after]
    rfl
  | closed head rest ih =>
    obtain ⟨formed, valued, fits⟩ := h
    have ends := head.endsBefore_tail (Or.inl rfl) (rest.spell ++ after)
    rw [Derivation.closed_spell, sequence_dollar, dollar_braced formed ends,
      Spelling.andThen_head valued, tail_close, Outcome.andThen_ok, ih fits, Outcome.after_after]
    rfl
  | filled head default rest default_ih ih =>
    obtain ⟨formed, valued, default_fits, fits⟩ := h
    have ends := head.endsBefore_tail (Or.inr rfl) (default.spell ++ '}' :: (rest.spell ++ after))
    have inside := default_ih default_fits
    rw [sequence_close, Outcome.after_ok, append_done] at inside
    rw [Derivation.filled_spell, sequence_dollar, dollar_braced formed ends,
      Spelling.andThen_head valued, tail_colon, inside, Outcome.andThen_ok, Outcome.andThen_ok]
    change (sequence nested (rest.spell ++ after)).after _ = _
    rw [ih fits, Outcome.after_after]
    rfl

/-! ## Finding a derivation -/

/-- Where a sequence ends: with the text or, inside of a placeholder, before the brace. -/
def Ended : Bool → List Char → Prop
  | false, after => after = []
  | true, after => after.head? = some '}'

/-- Where no sequence can go on, and why. -/
inductive Stuck : Bool → List Char → Halt → Prop where
  | unterminated : Stuck true [] (.malformed .unterminated 0)
  | index {nested : Bool} {s : Spelling} {after : List Char} {fault : NumberFault} :
      s.Formed → s.EndsBefore after → s.value = .error fault →
      Stuck nested ('$' :: (s.text ++ after)) (.index fault)
  | bracedIndex {nested : Bool} {s : Spelling} {after : List Char} {fault : NumberFault} :
      s.Formed → s.EndsBefore after → s.value = .error fault →
      Stuck nested ('$' :: '{' :: (s.text ++ after)) (.index fault)
  | head {nested : Bool} {after : List Char} :
      Headless after →
      Stuck nested ('$' :: '{' :: after) (.malformed .headExpected after.length)
  | tail {nested : Bool} {s : Spelling} {after : List Char} :
      s.Formed → s.Valued → s.EndsBefore after → after.head? ≠ some '}' → after.head? ≠ some ':' →
      Stuck nested ('$' :: '{' :: (s.text ++ after)) (.malformed .tailExpected after.length)
  | default {nested : Bool} {s : Spelling} {d : Derivation} {after : List Char} {halt : Halt} :
      s.Formed → s.Valued → d.Fits true after → Stuck true after halt →
      Stuck nested ('$' :: '{' :: (s.text ++ ':' :: (d.spell ++ after))) halt

theorem sequence_ended {nested : Bool} {after : List Char} (h : Ended nested after) :
    sequence nested after = .ok (done, after) := by
  cases nested with
  | false =>
    change after = [] at h
    rw [h, sequence_nil]
  | true =>
    change after.head? = some '}' at h
    obtain ⟨cs, rfl⟩ := List.head?_eq_some_iff.1 h
    exact sequence_close cs

theorem sequence_stuck {nested : Bool} {after : List Char} {halt : Halt}
    (h : Stuck nested after halt) : sequence nested after = .error halt := by
  induction h with
  | unterminated => exact sequence_unterminated
  | index formed ends fault =>
    rw [sequence_dollar, dollar_spelled formed ends, Spelling.andThen, fault]
    rfl
  | bracedIndex formed ends fault =>
    rw [sequence_dollar, dollar_braced formed ends, Spelling.andThen, fault]
    rfl
  | head headless =>
    rw [sequence_dollar, dollar_headless headless]
    rfl
  | tail formed valued ends brace colon =>
    rw [sequence_dollar, dollar_braced formed ends, Spelling.andThen_head valued,
      tail_other _ brace colon]
    rfl
  | default formed valued fits _ inside =>
    rw [sequence_dollar, dollar_braced formed (Spelling.endsBefore_tail _ (Or.inr rfl) _),
      Spelling.andThen_head valued, tail_colon, sequence_spell fits, inside]
    rfl

/-- The text is a sequence in front of a place where sequences end, or where none can go on. -/
def Splits (nested : Bool) (text : List Char) : Prop :=
  ∃ (d : Derivation) (after : List Char), text = d.spell ++ after ∧ d.Fits nested after ∧
    (Ended nested after ∨ ∃ halt, Stuck nested after halt)

theorem Stuck.splits {nested : Bool} {text : List Char} {halt : Halt}
    (h : Stuck nested text halt) : Splits nested text :=
  ⟨.done, text, rfl, trivial, Or.inr ⟨halt, h⟩⟩

/-- What a brace begins behind a dollar sign, if every shorter text splits. -/
theorem splits_braced {nested : Bool} {cs : List Char}
    (ih : ∀ nested shorter, shorter.length ≤ cs.length → Splits nested shorter) :
    Splits nested ('$' :: '{' :: cs) := by
  rcases spelled_or_headless cs with ⟨s, after, formed, ends, rfl⟩ | headless
  · cases hv : s.value with
    | error fault => exact (Stuck.bracedIndex formed ends hv).splits
    | ok head =>
      obtain ⟨valued, -⟩ := Spelling.value_eq_ok_iff.1 hv
      by_cases brace : after.head? = some '}'
      · obtain ⟨left, rfl⟩ := List.head?_eq_some_iff.1 brace
        obtain ⟨d, rest, rfl, fits, stop⟩ := ih nested left (by simp; omega)
        exact ⟨.closed s d, rest, (Derivation.closed_spell _ _ _).symm, ⟨formed, valued, fits⟩, stop⟩
      · by_cases colon : after.head? = some ':'
        · obtain ⟨body, rfl⟩ := List.head?_eq_some_iff.1 colon
          obtain ⟨inner, inside, rfl, inner_fits, inner_stop⟩ := ih true body (by simp; omega)
          rcases inner_stop with ended | ⟨halt, stuck⟩
          · obtain ⟨left, rfl⟩ := List.head?_eq_some_iff.1 ended
            obtain ⟨d, rest, rfl, fits, stop⟩ := ih nested left (by simp; omega)
            exact ⟨.filled s inner d, rest, (Derivation.filled_spell _ _ _ _).symm,
              ⟨formed, valued, inner_fits, fits⟩, stop⟩
          · exact (Stuck.default formed valued inner_fits stuck).splits
        · exact (Stuck.tail formed valued ends brace colon).splits
  · exact (Stuck.head headless).splits

theorem splits_dollar {nested : Bool} {cs : List Char}
    (ih : ∀ nested shorter, shorter.length ≤ cs.length → Splits nested shorter) :
    Splits nested ('$' :: cs) := by
  rcases spelled_or_headless cs with ⟨s, after, formed, ends, rfl⟩ | headless
  · cases hv : s.value with
    | error fault => exact (Stuck.index formed ends hv).splits
    | ok head =>
      obtain ⟨valued, -⟩ := Spelling.value_eq_ok_iff.1 hv
      obtain ⟨d, rest, rfl, fits, stop⟩ := ih nested after (by simp)
      exact ⟨.bare s d, rest, (Derivation.bare_spell _ _ _).symm, ⟨formed, valued, ends, fits⟩, stop⟩
  · by_cases brace : cs.head? = some '{'
    · obtain ⟨ds, rfl⟩ := List.head?_eq_some_iff.1 brace
      exact splits_braced fun nested shorter h => ih nested shorter (by simp; omega)
    · obtain ⟨d, rest, rfl, fits, stop⟩ := ih nested cs (Nat.le_refl _)
      exact ⟨.dollar d, rest, rfl, ⟨headless, brace, fits⟩, stop⟩

theorem exists_split (nested : Bool) (text : List Char) : Splits nested text := by
  -- A default is read as nested, so the induction is on the length for both kinds at once.
  induction hn : text.length using Nat.strong_induction_on generalizing nested text with
  | _ length ih =>
    subst hn
    cases text with
    | nil =>
      cases nested with
      | false => exact ⟨.done, [], rfl, trivial, Or.inl rfl⟩
      | true => exact Stuck.unterminated.splits
    | cons c cs =>
      have shorter (nested : Bool) (text : List Char) (h : text.length ≤ cs.length) :
          Splits nested text := ih _ (Nat.lt_succ_of_le h) nested text rfl
      by_cases dollarSign : c = '$'
      · subst dollarSign
        exact splits_dollar shorter
      · by_cases backslash : c = '\\'
        · subst backslash
          by_cases escapes : ∃ d ∈ cs.head?, isEscapable d
          · obtain ⟨d, hd, escapable⟩ := escapes
            obtain ⟨ds, rfl⟩ := List.head?_eq_some_iff.1 hd
            obtain ⟨e, rest, rfl, fits, stop⟩ := shorter nested ds (by simp)
            exact ⟨.escaped d e, rest, rfl, ⟨escapable, fits⟩, stop⟩
          · obtain ⟨e, rest, rfl, fits, stop⟩ := shorter nested cs (Nat.le_refl _)
            have alone : ∀ d ∈ (e.spell ++ rest).head?, ¬isEscapable d :=
              fun d hd escapable => escapes ⟨d, hd, escapable⟩
            exact ⟨.backslash e, rest, rfl, ⟨alone, fits⟩, stop⟩
        · by_cases closes : c = '}' ∧ nested = true
          · obtain ⟨rfl, rfl⟩ := closes
            exact ⟨.done, '}' :: cs, rfl, trivial, Or.inl rfl⟩
          · obtain ⟨e, rest, rfl, fits, stop⟩ := shorter nested cs (Nat.le_refl _)
            have brace : c = '}' → nested = false := by
              intro hc
              simpa [hc] using closes
            exact ⟨.char c e, rest, rfl, ⟨backslash, dollarSign, brace, fits⟩, stop⟩

/-- A text that is read has a derivation, of which the reader makes its template. -/
theorem exists_derivation {nested : Bool} {text : List Char} {t : Template} {rest : List Char}
    (h : sequence nested text = .ok (t, rest)) :
    ∃ d : Derivation, text = d.spell ++ rest ∧ d.Fits nested rest ∧ Ended nested rest ∧
      d.template = t := by
  obtain ⟨d, after, rfl, fits, ended | ⟨halt, stuck⟩⟩ := exists_split nested text
  · rw [sequence_spell fits, sequence_ended ended, Outcome.after_ok, append_done] at h
    obtain ⟨rfl, rfl⟩ := Prod.mk.inj (Except.ok.inj h)
    exact ⟨d, rfl, fits, ended, rfl⟩
  · rw [sequence_spell fits, sequence_stuck stuck] at h
    cases h

/-! ## One derivation only -/

theorem Spelling.Formed.not_headless {s : Spelling} (h : s.Formed) (after : List Char) :
    ¬Headless (s.text ++ after) := by
  obtain ⟨c, cs, spelled, begins⟩ := h.eq_cons
  intro headless
  obtain ⟨digit, start⟩ := headless c (by simp [spelled])
  cases s with
  | digits run => exact absurd begins (by simp [Spelling.begins, digit])
  | name id => exact absurd begins (by simp [Spelling.begins, start])

theorem headless_brace (cs : List Char) : Headless ('{' :: cs) := by
  intro c hc
  have same : '{' = c := by simpa using hc
  subst same
  decide

namespace Derivation

variable {nested : Bool} {d e : Derivation} {after later cs : List Char}

/-- Nothing of a sequence stands where it ends. -/
theorem eq_done_of_ended (h : d.Fits nested after) (ended : Ended nested (d.spell ++ after)) :
    d = done := by
  cases nested with
  | false =>
    change d.spell ++ after = [] at ended
    cases d with
    | done => rfl
    | _ => simp [spell] at ended
  | true =>
    change (d.spell ++ after).head? = some '}' at ended
    cases d with
    | done => rfl
    | char c rest =>
      have brace : c = '}' := by simpa [spell] using ended
      exact absurd (h.2.2.1 brace) (by simp)
    | _ => simp [spell] at ended

theorem eq_char_of_literal (h : d.Fits nested after) (ended : Ended nested after) {c : Char}
    (backslash : c ≠ '\\') (dollarSign : c ≠ '$') (brace : c = '}' → nested = false)
    (same : d.spell ++ after = c :: cs) :
    ∃ rest, d = char c rest ∧ rest.Fits nested after ∧ rest.spell ++ after = cs := by
  cases d with
  | done =>
    change after = c :: cs at same
    subst same
    cases nested with
    | false => simp [Ended] at ended
    | true => exact absurd (brace (by simpa [Ended] using ended)) (by simp)
  | char c' rest =>
    obtain ⟨rfl, rfl⟩ := List.cons.inj same
    exact ⟨rest, rfl, h.2.2.2, rfl⟩
  | escaped | backslash => exact absurd (List.cons.inj same).1.symm backslash
  | dollar | bare | closed | filled => exact absurd (List.cons.inj same).1.symm dollarSign

theorem escaped_or_backslash (h : d.Fits nested after) (ended : Ended nested after)
    (same : d.spell ++ after = '\\' :: cs) :
    (∃ c rest, d = escaped c rest ∧ cs = c :: (rest.spell ++ after)) ∨
    ∃ rest, d = backslash rest ∧ cs = rest.spell ++ after := by
  cases d with
  | done =>
    change after = '\\' :: cs at same
    subst same
    cases nested <;> simp [Ended] at ended
  | char c rest => exact absurd (List.cons.inj same).1 h.1
  | escaped c rest => exact Or.inl ⟨c, rest, rfl, (List.cons.inj same).2.symm⟩
  | backslash rest => exact Or.inr ⟨rest, rfl, (List.cons.inj same).2.symm⟩
  | dollar | bare | closed | filled => simp [spell] at same

theorem placeholder_or_dollar (h : d.Fits nested after) (ended : Ended nested after)
    (same : d.spell ++ after = '$' :: cs) :
    (∃ rest, d = dollar rest ∧ cs = rest.spell ++ after) ∨
    (∃ s rest, d = bare s rest ∧ cs = s.text ++ (rest.spell ++ after)) ∨
    (∃ s rest, d = closed s rest ∧ cs = '{' :: (s.text ++ '}' :: (rest.spell ++ after))) ∨
    ∃ s default rest, d = filled s default rest ∧
      cs = '{' :: (s.text ++ ':' :: (default.spell ++ '}' :: (rest.spell ++ after))) := by
  cases d with
  | done =>
    change after = '$' :: cs at same
    subst same
    cases nested <;> simp [Ended] at ended
  | char c rest => exact absurd (List.cons.inj same).1 h.2.1
  | escaped | backslash => simp [spell] at same
  | dollar rest => exact Or.inl ⟨rest, rfl, (List.cons.inj same).2.symm⟩
  | bare s rest =>
    rw [bare_spell] at same
    exact Or.inr (Or.inl ⟨s, rest, rfl, (List.cons.inj same).2.symm⟩)
  | closed s rest =>
    rw [closed_spell] at same
    exact Or.inr (Or.inr (Or.inl ⟨s, rest, rfl, (List.cons.inj same).2.symm⟩))
  | filled s default rest =>
    rw [filled_spell] at same
    exact Or.inr (Or.inr (Or.inr ⟨s, default, rest, rfl, (List.cons.inj same).2.symm⟩))

/-- The grammar is not ambiguous: what a text begins with decides which element comes next. -/
theorem eq_of_spell (hd : d.Fits nested after) (he : e.Fits nested later)
    (hafter : Ended nested after) (hlater : Ended nested later)
    (same : d.spell ++ after = e.spell ++ later) : d = e ∧ after = later := by
  induction d generalizing nested e after later with
  | done =>
    change after = e.spell ++ later at same
    have empty : e = done := eq_done_of_ended he (same ▸ hafter)
    subst empty
    exact ⟨rfl, same⟩
  | char c rest ih =>
    obtain ⟨backslash, dollarSign, brace, fits⟩ := hd
    rw [char_spell] at same
    obtain ⟨rest', rfl, fits', tails⟩ :=
      eq_char_of_literal he hlater backslash dollarSign brace same.symm
    obtain ⟨rfl, rfl⟩ := ih fits fits' hafter hlater tails.symm
    exact ⟨rfl, rfl⟩
  | escaped c rest ih =>
    obtain ⟨escapable, fits⟩ := hd
    rw [escaped_spell] at same
    rcases escaped_or_backslash he hlater same.symm with ⟨c', rest', rfl, tails⟩ |
      ⟨rest', rfl, tails⟩
    · obtain ⟨rfl, behind⟩ := List.cons.inj tails
      obtain ⟨rfl, rfl⟩ := ih fits he.2 hafter hlater behind
      exact ⟨rfl, rfl⟩
    · exact absurd escapable (he.1 c (by rw [← tails]; rfl))
  | backslash rest ih =>
    obtain ⟨alone, fits⟩ := hd
    rw [backslash_spell] at same
    rcases escaped_or_backslash he hlater same.symm with ⟨c', rest', rfl, tails⟩ |
      ⟨rest', rfl, tails⟩
    · exact absurd he.1 (alone c' (by rw [tails]; rfl))
    · obtain ⟨rfl, rfl⟩ := ih fits he.2 hafter hlater tails
      exact ⟨rfl, rfl⟩
  | dollar rest ih =>
    obtain ⟨headless, brace, fits⟩ := hd
    rw [dollar_spell] at same
    rcases placeholder_or_dollar he hlater same.symm with ⟨rest', rfl, tails⟩ |
      ⟨t, rest', rfl, tails⟩ | ⟨t, rest', rfl, tails⟩ | ⟨t, default', rest', rfl, tails⟩
    · obtain ⟨rfl, rfl⟩ := ih fits he.2.2 hafter hlater tails
      exact ⟨rfl, rfl⟩
    · exact absurd (tails ▸ headless) (he.1.not_headless _)
    · exact absurd (by rw [tails]; rfl) brace
    · exact absurd (by rw [tails]; rfl) brace
  | bare s rest ih =>
    obtain ⟨formed, -, ends, fits⟩ := hd
    have headed := formed.not_headless (rest.spell ++ after)
    rw [bare_spell] at same
    rcases placeholder_or_dollar he hlater same.symm with ⟨rest', rfl, tails⟩ |
      ⟨t, rest', rfl, tails⟩ | ⟨t, rest', rfl, tails⟩ | ⟨t, default', rest', rfl, tails⟩
    · exact absurd (tails ▸ he.1) headed
    · obtain ⟨rfl, behind⟩ := Spelling.eq_of_append formed he.1 ends he.2.2.1 tails
      obtain ⟨rfl, rfl⟩ := ih fits he.2.2.2 hafter hlater behind
      exact ⟨rfl, rfl⟩
    · exact absurd (tails ▸ headless_brace _) headed
    · exact absurd (tails ▸ headless_brace _) headed
  | closed s rest ih =>
    obtain ⟨formed, -, fits⟩ := hd
    rw [closed_spell] at same
    rcases placeholder_or_dollar he hlater same.symm with ⟨rest', rfl, tails⟩ |
      ⟨t, rest', rfl, tails⟩ | ⟨t, rest', rfl, tails⟩ | ⟨t, default', rest', rfl, tails⟩
    · exact absurd (by rw [← tails]; rfl) he.2.1
    · exact absurd (tails ▸ headless_brace _) (he.1.not_headless _)
    · obtain ⟨rfl, behind⟩ := Spelling.eq_of_append formed he.1 (s.endsBefore_tail (Or.inl rfl) _)
        (t.endsBefore_tail (Or.inl rfl) _) (List.cons.inj tails).2
      obtain ⟨rfl, rfl⟩ := ih fits he.2.2 hafter hlater (List.cons.inj behind).2
      exact ⟨rfl, rfl⟩
    · obtain ⟨-, behind⟩ := Spelling.eq_of_append formed he.1 (s.endsBefore_tail (Or.inl rfl) _)
        (t.endsBefore_tail (Or.inr rfl) _) (List.cons.inj tails).2
      exact absurd (List.cons.inj behind).1 (by decide)
  | filled s default rest default_ih ih =>
    obtain ⟨formed, -, default_fits, fits⟩ := hd
    rw [filled_spell] at same
    rcases placeholder_or_dollar he hlater same.symm with ⟨rest', rfl, tails⟩ |
      ⟨t, rest', rfl, tails⟩ | ⟨t, rest', rfl, tails⟩ | ⟨t, default', rest', rfl, tails⟩
    · exact absurd (by rw [← tails]; rfl) he.2.1
    · exact absurd (tails ▸ headless_brace _) (he.1.not_headless _)
    · obtain ⟨-, behind⟩ := Spelling.eq_of_append formed he.1 (s.endsBefore_tail (Or.inr rfl) _)
        (t.endsBefore_tail (Or.inl rfl) _) (List.cons.inj tails).2
      exact absurd (List.cons.inj behind).1 (by decide)
    · obtain ⟨rfl, inside⟩ := Spelling.eq_of_append formed he.1 (s.endsBefore_tail (Or.inr rfl) _)
        (t.endsBefore_tail (Or.inr rfl) _) (List.cons.inj tails).2
      obtain ⟨rfl, behind⟩ := default_ih default_fits he.2.2.1 rfl rfl (List.cons.inj inside).2
      obtain ⟨rfl, rfl⟩ := ih fits he.2.2.2 hafter hlater (List.cons.inj behind).2
      exact ⟨rfl, rfl⟩

/-- A derivation of a whole text. -/
def Derives (d : Derivation) (text : List Char) : Prop := d.spell = text ∧ d.Fits false []

instance (d : Derivation) (text : List Char) : Decidable (d.Derives text) :=
  inferInstanceAs (Decidable (d.spell = text ∧ d.Fits false []))

end Derivation

theorem read_eq_ok_iff {text : List Char} {t : Template} :
    read text = .ok t ↔ ∃ d : Derivation, d.Derives text ∧ d.template = t := by
  constructor
  · intro h
    rw [read_eq_sequence] at h
    cases whole : sequence false text with
    | ok read =>
      obtain ⟨template, rest⟩ := read
      simp only [whole, Except.ok.injEq] at h
      subst h
      obtain ⟨d, rfl, fits, ended, template⟩ := exists_derivation whole
      change rest = [] at ended
      subst ended
      exact ⟨d, ⟨(List.append_nil _).symm, fits⟩, template⟩
    | error halt => cases halt <;> simp [whole] at h
  · rintro ⟨d, ⟨rfl, fits⟩, rfl⟩
    have whole := sequence_spell fits
    rw [List.append_nil, sequence_nil, Outcome.after_ok, append_done] at whole
    exact read_eq_ok whole

/-- The reader accepts exactly the texts that derive from the grammar. A text has one derivation at
most, and the template that is read shows the text, the stops and the names of that derivation. -/
theorem read_iff_derives (text : List Char) :
    ((∃ t, read text = .ok t) ↔ ∃ d : Derivation, d.Derives text) ∧
    (∀ d e : Derivation, d.Derives text → e.Derives text → d = e) ∧
    ∀ t, read text = .ok t →
      ∃ d : Derivation, d.Derives text ∧ t.render = d.text ∧ t.stops = d.stops ∧
        t.names = d.names := by
  refine ⟨?_, ?_, ?_⟩
  · constructor
    · rintro ⟨t, h⟩
      obtain ⟨d, derives, -⟩ := read_eq_ok_iff.1 h
      exact ⟨d, derives⟩
    · rintro ⟨d, derives⟩
      exact ⟨d.template, read_eq_ok_iff.2 ⟨d, derives, rfl⟩⟩
  · rintro d e ⟨rfl, fits⟩ ⟨same, fits'⟩
    have texts : d.spell ++ [] = e.spell ++ [] := by rw [same]
    exact (Derivation.eq_of_spell fits fits' rfl rfl texts).1
  · intro t h
    obtain ⟨d, derives, rfl⟩ := read_eq_ok_iff.1 h
    exact ⟨d, derives, d.render_template, d.stops_template, d.names_template⟩

theorem read_iff_derives_nested :
    let text := "\\\x7d$x$\x7b07:a\\\\$\x7bN\x7d\x7d\x7d".toList
    let d : Derivation :=
      .escaped '}' (.bare (.name ['x']) (.filled (.digits ['0', '7'])
        (.char 'a' (.escaped '\\' (.closed (.name ['N']) .done))) (.char '}' .done)))
    d.Derives text ∧ (∀ e : Derivation, e.Derives text → e = d) ∧
    ∃ t, read text = .ok t ∧ t.render = "\x7dxa\\N\x7d".toList ∧
      t.stops = [⟨7, "a\\N".toList⟩] ∧ t.names = [['x'], ['N']] := by
  intro text d
  have derives : d.Derives text := by decide +kernel
  obtain ⟨accepts, unique, meaning⟩ := read_iff_derives text
  obtain ⟨t, reads⟩ := accepts.2 ⟨d, derives⟩
  obtain ⟨e, derives', shown, stops, names⟩ := meaning t reads
  have same : e = d := unique e d derives' derives
  subst same
  exact ⟨derives, fun e he => unique e d he derives, t, reads, shown, stops, names⟩

end ScriptAssist.Template
