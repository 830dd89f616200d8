import Mathlib.Logic.Function.Iterate
import ScriptAssist.Proofs.Template.Grammar

namespace ScriptAssist.Template

open Text

/-! ## How far a reader gets -/

theorem exists_passed_sequence {nested : Bool} {text rest : List Char} {t : Template}
    (h : sequence nested text = .ok (t, rest)) : ∃ passed, text = passed ++ rest := by
  obtain ⟨d, spelled, -⟩ := exists_derivation h
  exact ⟨d.spell, spelled⟩

/-- The end of a placeholder is a brace, with a colon and a default in front of it if there is one.
The brace that is skipped behind the default is the one at which the default stopped. -/
theorem tail_cases {head : Head} {text rest : List Char} {t : Template}
    (h : tail head text = .ok (t, rest)) :
    text = '}' :: rest ∨
    ∃ body default, text = ':' :: body ∧ sequence true body = .ok (default, '}' :: rest) := by
  by_cases brace : text.head? = some '}'
  · obtain ⟨cs, rfl⟩ := List.head?_eq_some_iff.1 brace
    rw [tail_close] at h
    obtain ⟨-, same⟩ := Prod.mk.inj (Except.ok.inj h)
    exact Or.inl (by rw [same])
  · by_cases colon : text.head? = some ':'
    · obtain ⟨body, rfl⟩ := List.head?_eq_some_iff.1 colon
      rw [tail_colon] at h
      cases inside : sequence true body with
      | error halt =>
        rw [inside] at h
        cases h
      | ok found =>
        obtain ⟨default, behind⟩ := found
        rw [inside] at h
        obtain ⟨-, -, -, ended, -⟩ := exists_derivation inside
        obtain ⟨cs, rfl⟩ := List.head?_eq_some_iff.1 ended
        obtain ⟨-, same⟩ := Prod.mk.inj (Except.ok.inj h)
        have same : cs = rest := same
        exact Or.inr ⟨body, default, rfl, by rw [inside, same]⟩
    · rw [tail_other head brace colon] at h
      cases h

theorem exists_passed_tail {head : Head} {text rest : List Char} {t : Template}
    (h : tail head text = .ok (t, rest)) : ∃ c passed, text = c :: (passed ++ rest) := by
  rcases tail_cases h with rfl | ⟨body, default, rfl, inside⟩
  · exact ⟨'}', [], rfl⟩
  · obtain ⟨passed, rfl⟩ := exists_passed_sequence inside
    exact ⟨':', passed ++ ['}'], by simp⟩

theorem Spelling.andThen_eq_ok {s : Spelling} {next : Head → Outcome} {read : Template × List Char}
    (h : s.andThen next = .ok read) : ∃ head, next head = .ok read := by
  rw [andThen] at h
  split at h
  · case h_1 head _ => exact ⟨head, h⟩
  · cases h

theorem exists_passed_dollar {text rest : List Char} {t : Template}
    (h : dollar text = .ok (t, rest)) : ∃ passed, text = passed ++ rest := by
  rcases spelled_or_headless text with ⟨s, after, formed, ends, rfl⟩ | headless
  · rw [dollar_spelled formed ends] at h
    obtain ⟨head, found⟩ := Spelling.andThen_eq_ok h
    obtain ⟨-, same⟩ := Prod.mk.inj (Except.ok.inj found)
    exact ⟨s.text, by rw [same]⟩
  · by_cases brace : text.head? = some '{'
    · obtain ⟨cs, rfl⟩ := List.head?_eq_some_iff.1 brace
      rcases spelled_or_headless cs with ⟨s, after, formed, ends, rfl⟩ | headless'
      · rw [dollar_braced formed ends] at h
        obtain ⟨head, found⟩ := Spelling.andThen_eq_ok h
        obtain ⟨c, passed, rfl⟩ := exists_passed_tail found
        exact ⟨'{' :: (s.text ++ c :: passed), by simp⟩
      · rw [dollar_headless headless'] at h
        cases h
    · rw [dollar_literal headless brace] at h
      obtain ⟨-, same⟩ := Prod.mk.inj (Except.ok.inj h)
      exact ⟨[], same⟩

/-! ## The brace at which a default stops -/

/-- No backslash makes the character behind `passed` literal: those right before it pair off. -/
def Unescaped (passed : List Char) : Prop :=
  ∃ front pairs, passed = front ++ List.replicate (2 * pairs) '\\' ∧
    front.getLast? ≠ some '\\'

namespace Unescaped

variable {passed : List Char}

theorem nil : Unescaped [] := ⟨[], 0, rfl, by simp⟩

theorem append_left (h : Unescaped passed) (first : List Char)
    (last : first.getLast? ≠ some '\\') : Unescaped (first ++ passed) := by
  obtain ⟨front, pairs, rfl, other⟩ := h
  refine ⟨first ++ front, pairs, by simp, ?_⟩
  rw [List.getLast?_append]
  cases final : front.getLast? with
  | none => exact last
  | some c => rwa [final] at other

theorem behind (h : Unescaped passed) {c : Char} (hc : c ≠ '\\') (first : List Char) :
    Unescaped (first ++ c :: passed) := by
  have whole := h.append_left (first ++ [c]) (by simpa using hc)
  rwa [List.append_assoc] at whole

theorem pair (h : Unescaped passed) : Unescaped ('\\' :: '\\' :: passed) := by
  obtain ⟨front, pairs, rfl, other⟩ := h
  cases front with
  | nil => exact ⟨[], pairs + 1, rfl, by simp⟩
  | cons c cs => exact ⟨'\\' :: '\\' :: c :: cs, pairs, rfl, by simpa using other⟩

/-- A backslash makes no difference in front of a character that it does not make literal. -/
theorem single (h : Unescaped passed) {after : List Char} (brace : after.head? = some '}')
    (alone : ∀ c ∈ (passed ++ after).head?, ¬isEscapable c) : Unescaped ('\\' :: passed) := by
  obtain ⟨front, pairs, rfl, other⟩ := h
  cases front with
  | nil =>
    cases pairs with
    | zero => exact absurd rfl (alone '}' (by simpa using brace))
    | succ pairs => exact absurd rfl (alone '\\' rfl)
  | cons c cs => exact ⟨'\\' :: c :: cs, pairs, rfl, by simpa using other⟩

end Unescaped

theorem Spelling.Formed.backslash_notMem {s : Spelling} (h : s.Formed) : '\\' ∉ s.text := by
  intro member
  have goes := h.all '\\' member
  cases s with
  | digits run => exact absurd goes (show ¬isDigit '\\' by decide)
  | name id => exact absurd goes (show ¬isNameChar '\\' by decide)

theorem Derivation.Fits.unescaped {nested : Bool} {d : Derivation} {after : List Char}
    (h : d.Fits nested after) (brace : after.head? = some '}') : Unescaped d.spell := by
  induction d with
  | done => exact .nil
  | char c rest ih => exact (ih h.2.2.2).behind h.1 []
  | escaped c rest ih =>
    have later := ih h.2
    by_cases backslash : c = '\\'
    · rw [backslash]
      exact later.pair
    · exact later.behind backslash ['\\']
  | backslash rest ih => exact (ih h.2).single brace h.1
  | dollar rest ih => exact (ih h.2.2).behind (by decide) []
  | bare head rest ih =>
    obtain ⟨formed, -, -, fits⟩ := h
    apply (ih fits).append_left ('$' :: head.text)
    intro last
    rcases List.mem_cons.1 (List.mem_of_getLast? last) with same | member
    · cases same
    · exact formed.backslash_notMem member
  | closed head rest ih => exact (ih h.2.2).behind (by decide) ('$' :: '{' :: head.text)
  | filled head default rest _ ih =>
    have later := (ih h.2.2.2).behind (show '}' ≠ '\\' by decide)
      ('$' :: '{' :: (head.text ++ ':' :: default.spell))
    simpa [Derivation.spell] using later

/-! ## Calls within calls -/

/-- A call of one of the readers on what is left of a text. -/
inductive Call where
  | sequence (nested : Bool) (text : List Char)
  | dollar (text : List Char)
  | tail (head : Head) (text : List Char)

namespace Call

/-- The length of what is left. -/
def left : Call → Nat
  | sequence _ text => text.length
  | dollar text => text.length
  | tail _ text => text.length

def run : Call → Outcome
  | sequence nested text => Template.sequence nested text
  | dollar text => Template.dollar text
  | tail head text => Template.tail head text

/-- What a call comes to if `answer` is what the calls come to that it makes itself. -/
def unfold (answer : Call → Outcome) : Call → Outcome
  | sequence nested [] =>
    if nested then .error (.malformed .unterminated 0) else .ok (done, [])
  | sequence nested ('\\' :: c :: cs) =>
    if isEscapable c then (answer (sequence nested cs)).after (char c done)
    else (answer (sequence nested (c :: cs))).after (char '\\' done)
  | sequence nested ('$' :: cs) =>
    (answer (dollar cs)).andThen fun placeholder rest =>
      (answer (sequence nested rest)).after placeholder
  | sequence nested (c :: cs) =>
    if c = '}' ∧ nested then .ok (done, c :: cs)
    else (answer (sequence nested cs)).after (char c done)
  | dollar [] => .ok (char '$' done, [])
  | dollar (c :: cs) =>
    if isDigit c then
      match readNumber ((c :: cs).takeWhile isDigit) with
      | .error fault => .error (.index fault)
      | .ok index => .ok (bare (.index index) done, (c :: cs).dropWhile isDigit)
    else if isNameStart c then
      .ok (bare (.name ((c :: cs).takeWhile isNameChar)) done, (c :: cs).dropWhile isNameChar)
    else if c = '{' then
      match cs with
      | [] => .error (.malformed .headExpected 0)
      | d :: ds =>
        if isDigit d then
          match readNumber ((d :: ds).takeWhile isDigit) with
          | .error fault => .error (.index fault)
          | .ok index => answer (tail (.index index) ((d :: ds).dropWhile isDigit))
        else if isNameStart d then
          answer (tail (.name ((d :: ds).takeWhile isNameChar)) ((d :: ds).dropWhile isNameChar))
        else .error (.malformed .headExpected (d :: ds).length)
    else .ok (char '$' done, c :: cs)
  | tail _ [] => .error (.malformed .tailExpected 0)
  | tail head (c :: cs) =>
    if c = '}' then .ok (closed head done, cs)
    else if c = ':' then
      (answer (sequence true cs)).andThen fun default rest =>
        .ok (filled head default done, rest.drop 1)
    else .error (.malformed .tailExpected (c :: cs).length)

/-- A call makes no call with as much left as it has itself. -/
theorem unfold_eq_run {answer : Call → Outcome} {call : Call}
    (h : ∀ inner : Call, inner.left < call.left → answer inner = inner.run) :
    unfold answer call = call.run := by
  fun_cases unfold answer call with
  | case1 => exact sequence_unterminated.symm
  | case2 nested outer =>
    obtain rfl : nested = false := by simpa using outer
    exact sequence_nil.symm
  | case3 nested c cs escapable =>
    rw [h (sequence nested cs) (Nat.lt_succ_of_lt (Nat.lt_succ_self _))]
    exact (sequence_escaped nested escapable cs).symm
  | case4 nested c cs plain =>
    rw [h (sequence nested (c :: cs)) (Nat.lt_succ_self _)]
    exact (sequence_backslash nested (by simpa using plain)).symm
  | case5 nested cs =>
    rw [h (dollar cs) (Nat.lt_succ_self _)]
    change _ = Template.sequence nested ('$' :: cs)
    rw [sequence_dollar, run]
    cases found : Template.dollar cs with
    | error halt => rfl
    | ok read =>
      -- What is left behind the placeholder is a part of what was left before it.
      obtain ⟨placeholder, rest⟩ := read
      obtain ⟨passed, rfl⟩ := exists_passed_dollar found
      have shorter : rest.length < ('$' :: (passed ++ rest)).length := by
        simp only [List.length_cons, List.length_append]
        omega
      rw [Outcome.andThen_ok, Outcome.andThen_ok, h (sequence nested rest) shorter, run]
  | case6 nested c cs _ _ close =>
    obtain ⟨rfl, rfl⟩ := close
    exact (sequence_close cs).symm
  | case7 nested c cs unpaired other stays =>
    rw [h (sequence nested cs) (Nat.lt_succ_self _)]
    by_cases backslash : c = '\\'
    · have last : cs = [] := by
        cases cs with
        | nil => rfl
        | cons d ds => exact absurd rfl (unpaired d ds backslash)
      subst backslash last
      exact (sequence_backslash nested (by simp)).symm
    · have brace : c = '}' → nested = false := by
        intro close
        simpa [close] using stays
      exact (sequence_literal backslash other brace cs).symm
  | case8 => exact (dollar_literal (by simp [Headless]) (by simp)).symm
  | case9 c cs digit fault number =>
    change _ = Template.dollar (c :: cs)
    rw [dollar_digits digit, number]
  | case10 c cs digit index number =>
    change _ = Template.dollar (c :: cs)
    rw [dollar_digits digit, number]
  | case11 c cs _ start => exact (dollar_word start cs).symm
  | case12 => exact (dollar_headless (show Headless [] by simp [Headless])).symm
  | case13 d ds digit fault number =>
    change _ = Template.dollar ('{' :: d :: ds)
    rw [dollar_index digit, number]
  | case14 d ds digit index number =>
    have shorter := Nat.lt_succ_of_le (length_dropWhile_le isDigit (d :: ds))
    rw [h (tail _ _) shorter]
    change _ = Template.dollar ('{' :: d :: ds)
    rw [dollar_index digit, number, run]
  | case15 d ds _ start =>
    have shorter := Nat.lt_succ_of_le (length_dropWhile_le isNameChar (d :: ds))
    rw [h (tail _ _) shorter]
    exact (dollar_name start ds).symm
  | case16 d ds digit start => exact (dollar_headless (by simp [Headless, digit, start])).symm
  | case17 c cs digit start brace =>
    exact (dollar_literal (by simp [Headless, digit, start]) (by simpa using brace)).symm
  | case18 head =>
    have ended (c : Char) : ([] : List Char).head? ≠ some c := by simp
    exact (tail_other head (ended '}') (ended ':')).symm
  | case19 head cs => exact (tail_close head cs).symm
  | case20 head cs =>
    rw [h (sequence true cs) (Nat.lt_succ_self _)]
    exact (tail_colon head cs).symm
  | case21 head c cs brace colon =>
    exact (tail_other head (by simpa using brace) (by simpa using colon)).symm

/-- Calls are nested no deeper than there is text left: it makes no difference what would stand in the
place of deeper ones. -/
theorem iterate_unfold (start : Call → Outcome) {call : Call} {n : Nat} (h : call.left < n) :
    (unfold^[n] start) call = call.run := by
  induction n generalizing call with
  | zero => omega
  | succ n ih =>
    rw [Function.iterate_succ_apply']
    apply unfold_eq_run
    intro inner shorter
    exact ih (by omega)

end Call

/-! ## Positions -/

theorem drop_eq_cons {text cs : List Char} {p : Nat} {c : Char} (h : text.drop p = c :: cs) :
    p < text.length ∧ text[p]? = some c ∧ text.drop (p + 1) = cs := by
  have here : text[p]? = some c := by
    have first := congrArg List.head? h
    simpa [List.head?_drop] using first
  refine ⟨(List.getElem?_eq_some_iff.1 here).1, here, ?_⟩
  rw [← List.tail_drop, h, List.tail_cons]

theorem drop_passed {text passed rest : List Char} {p : Nat} (hp : p ≤ text.length)
    (h : text.drop p = passed ++ rest) :
    p + passed.length ≤ text.length ∧ rest = text.drop (p + passed.length) ∧
      text.extract p (p + passed.length) = passed := by
  have lengths := congrArg List.length h
  rw [List.length_drop, List.length_append] at lengths
  refine ⟨by omega, ?_, ?_⟩
  · rw [← List.drop_drop, h, List.drop_left]
  · rw [List.extract, h, Nat.add_sub_cancel_left, List.take_left]

theorem sequence_of_read {nested : Bool} {text : List Char} {read : Read text}
    (h : readSequence nested text = .ok read) :
    sequence nested text = .ok (read.template, read.rest) := by
  rw [sequence, h, outcome]

/-- A reading stops at a position of the text that it began in. -/
def Read.StopsAt {left : List Char} (read : Read left) (text : List Char) (position : Nat) : Prop :=
  position ≤ text.length ∧ read.rest = text.drop position

theorem exists_stop_sequence {text : List Char} {p : Nat} (hp : p ≤ text.length) {nested : Bool}
    {read : Read (text.drop p)} (h : readSequence nested (text.drop p) = .ok read) :
    ∃ q, p ≤ q ∧ read.StopsAt text q ∧ (nested = false → q = text.length) ∧
      (nested = true → q < text.length ∧ text[q]? = some '}' ∧ Unescaped (text.extract p q)) := by
  obtain ⟨d, spelled, fits, ended, -⟩ := exists_derivation (sequence_of_read h)
  obtain ⟨bound, stop, passed⟩ := drop_passed hp spelled
  refine ⟨p + d.spell.length, Nat.le_add_right _ _, ⟨bound, stop⟩, ?_, ?_⟩
  · intro outer
    subst outer
    have none : read.rest = [] := ended
    rw [stop, List.drop_eq_nil_iff] at none
    omega
  · intro inner
    subst inner
    obtain ⟨cs, brace⟩ := List.head?_eq_some_iff.1 ended
    obtain ⟨inside, here, -⟩ := drop_eq_cons (stop.symm.trans brace)
    rw [passed]
    exact ⟨inside, here, fits.unescaped ended⟩

theorem exists_stop_dollar {text : List Char} {p : Nat} (here : text[p]? = some '$')
    {read : Read (text.drop (p + 1))} (h : readDollar (text.drop (p + 1)) = .ok read) :
    ∃ q, p < q ∧ read.StopsAt text q := by
  have bound : p + 1 ≤ text.length := (List.getElem?_eq_some_iff.1 here).1
  have found : dollar (text.drop (p + 1)) = .ok (read.template, read.rest) := by
    rw [dollar, h, outcome]
  obtain ⟨passed, cut⟩ := exists_passed_dollar found
  obtain ⟨within, stop, -⟩ := drop_passed bound cut
  exact ⟨p + 1 + passed.length, by omega, within, stop⟩

/-- The end of a placeholder is read over one brace: the one that stands there at once, or the one at
which the default has stopped. -/
theorem exists_stop_tail {text : List Char} {p : Nat} {head : Head} {read : Read (text.drop p)}
    (h : readTail head (text.drop p) = .ok read) :
    ∃ brace, p ≤ brace ∧ text[brace]? = some '}' ∧ read.StopsAt text (brace + 1) ∧
      (brace = p ∨
        text[p]? = some ':' ∧ Unescaped (text.take brace) ∧
          ∃ default, readSequence true (text.drop (p + 1)) = .ok default ∧
            default.StopsAt text brace) := by
  have found : tail head (text.drop p) = .ok (read.template, read.rest) := by
    rw [tail, h, outcome]
  rcases tail_cases found with closed | ⟨body, default, filled, inside⟩
  · obtain ⟨bound, here, behind⟩ := drop_eq_cons closed
    exact ⟨p, Nat.le_refl p, here, ⟨bound, behind.symm⟩, Or.inl rfl⟩
  · obtain ⟨bound, colon, rfl⟩ := drop_eq_cons filled
    cases reads : readSequence true (text.drop (p + 1)) with
    | error halt =>
      rw [sequence, reads] at inside
      cases inside
    | ok default' =>
      obtain ⟨brace, low, stops, -, stopped⟩ := exists_stop_sequence bound reads
      obtain ⟨-, here, unescaped⟩ := stopped rfl
      rw [sequence_of_read reads] at inside
      obtain ⟨-, rest⟩ := Prod.mk.inj (Except.ok.inj inside)
      obtain ⟨within, -, behind⟩ := drop_eq_cons (stops.2.symm.trans rest)
      have cut : text.take brace = text.take (p + 1) ++ text.extract (p + 1) brace := by
        rw [← List.take_add, Nat.add_sub_cancel' low]
      have last : (text.take (p + 1)).getLast? = some ':' := by
        simp [List.getLast?_take, colon]
      refine ⟨brace, by omega, here, ⟨within, behind.symm⟩,
        Or.inr ⟨colon, ?_, default', rfl, stops⟩⟩
      rw [cut]
      exact unescaped.append_left _ (by simp [last])

/-- A reader that comes back has moved on: behind the dollar sign it was called on or behind the
brace that ends a placeholder, and never beyond the text. A sequence goes on to the end of the text
or, inside of a placeholder, stops on the brace that closes it, which no backslash makes literal. The
brace that is skipped behind a default is that one. So calls within calls always have less text left,
and none are nested deeper than there is text. -/
theorem reader_advances :
    (∀ (text : List Char) (p : Nat), p ≤ text.length →
      (∀ read, text[p]? = some '$' → readDollar (text.drop (p + 1)) = .ok read →
        ∃ q, p < q ∧ read.StopsAt text q) ∧
      (∀ head read, readTail head (text.drop p) = .ok read →
        ∃ brace, p ≤ brace ∧ text[brace]? = some '}' ∧ read.StopsAt text (brace + 1) ∧
          (brace = p ∨
            text[p]? = some ':' ∧ Unescaped (text.take brace) ∧
              ∃ default, readSequence true (text.drop (p + 1)) = .ok default ∧
                default.StopsAt text brace)) ∧
      ∀ nested read, readSequence nested (text.drop p) = .ok read →
        ∃ q, p ≤ q ∧ read.StopsAt text q ∧ (nested = false → q = text.length) ∧
          (nested = true →
            q < text.length ∧ text[q]? = some '}' ∧ Unescaped (text.extract p q))) ∧
    (∀ (answer : Call → Outcome) (call : Call),
      (∀ inner : Call, inner.left < call.left → answer inner = inner.run) →
      Call.unfold answer call = call.run) ∧
    ∀ (start : Call → Outcome) (call : Call) (n : Nat), call.left < n →
      (Call.unfold^[n] start) call = call.run := by
  refine ⟨?_, fun answer call shorter => Call.unfold_eq_run shorter,
    fun start call n deeper => Call.iterate_unfold start deeper⟩
  intro text p hp
  refine ⟨?_, ?_, ?_⟩
  · intro read here found
    exact exists_stop_dollar here found
  · intro head read found
    exact exists_stop_tail found
  · intro nested read found
    exact exists_stop_sequence hp found

/-- A default of two backslashes, behind which the brace closes the placeholder. -/
theorem reader_advances_backslashes :
    let text := "$\x7b1:\\\\\x7d-".toList
    (∃ read q, readDollar (text.drop 1) = .ok read ∧ 0 < q ∧ read.StopsAt text q) ∧
    (∃ read brace, readTail (.index 1) (text.drop 3) = .ok read ∧ text[brace]? = some '}' ∧
      read.StopsAt text (brace + 1)) ∧
    (∃ read q, readSequence true (text.drop 4) = .ok read ∧ q < text.length ∧
      text[q]? = some '}' ∧ Unescaped (text.extract 4 q)) ∧
    Call.unfold Call.run (.sequence false text) = sequence false text ∧
    ∀ start, (Call.unfold^[9] start) (.sequence false text) = sequence false text := by
  intro text
  have returns {left : List Char} {result : Except Halt (Read left)} (h : result.isOk) :
      ∃ read, result = .ok read := by
    cases result with
    | error halt => cases h
    | ok read => exact ⟨read, rfl⟩
  obtain ⟨advances, measured, bounded⟩ := reader_advances
  obtain ⟨placeholder, hplaceholder⟩ :=
    returns (show (readDollar (text.drop 1)).isOk by decide +kernel)
  obtain ⟨ended, hended⟩ :=
    returns (show (readTail (.index 1) (text.drop 3)).isOk by decide +kernel)
  obtain ⟨default, hdefault⟩ :=
    returns (show (readSequence true (text.drop 4)).isOk by decide +kernel)
  obtain ⟨q, moved, stops⟩ := (advances text 0 (by decide)).1 placeholder (by decide) hplaceholder
  obtain ⟨brace, -, here, behind, -⟩ := (advances text 3 (by decide)).2.1 _ ended hended
  obtain ⟨last, -, -, -, closes⟩ := (advances text 4 (by decide)).2.2 true default hdefault
  exact ⟨⟨placeholder, q, hplaceholder, moved, stops⟩, ⟨ended, brace, hended, here, behind⟩,
    ⟨default, last, hdefault, closes rfl⟩, measured Call.run _ fun _ _ => rfl,
    fun start => bounded start _ 9 (by decide)⟩

end ScriptAssist.Template
