import ScriptAssist.Proofs.Pattern.Scan
import ScriptAssist.Rule
import ScriptAssist.Text.Line

namespace ScriptAssist

namespace Text

/-- A space of a script. The byte-order mark is one; the separators that are line breaks without
being spaces are not. -/
def isSpace (c : Char) : Bool :=
  let n := c.toNat
  (0x9 ≤ n && n ≤ 0xd) || n == 0x20 || n == 0xa0 || n == 0x1680 || (0x2000 ≤ n && n ≤ 0x200a) ||
    n == 0x2028 || n == 0x2029 || n == 0x202f || n == 0x205f || n == 0x3000 || n == 0xfeff

def isWordChar (c : Char) : Bool := c.isAlphanum || c == '_'

def IsWord (text : List Char) : Prop := text ≠ [] ∧ ∀ c ∈ text, isWordChar c

/-- A word before this text goes no further. -/
def EndsWord (text : List Char) : Prop := ∀ c ∈ text.head?, isWordChar c = false

theorem isWordChar_iff {c : Char} :
    isWordChar c ↔ (0x41 ≤ c.toNat ∧ c.toNat ≤ 0x5a) ∨ (0x61 ≤ c.toNat ∧ c.toNat ≤ 0x7a) ∨
      (0x30 ≤ c.toNat ∧ c.toNat ≤ 0x39) ∨ c.toNat = 0x5f := by
  have underscore : c = '_' ↔ c.toNat = 0x5f := by
    rw [← Char.toNat_inj]
    rfl
  have spelled : isWordChar c =
      (decide (0x41 ≤ c.toNat ∧ c.toNat ≤ 0x5a) || (0x61 ≤ c.toNat && c.toNat ≤ 0x7a) ||
        (0x30 ≤ c.toNat && c.toNat ≤ 0x39) || c == '_') := rfl
  simp only [spelled, Bool.or_eq_true, Bool.and_eq_true, decide_eq_true_eq, beq_iff_eq, underscore]
  omega

theorem isWordChar_of_isSpace {c : Char} (h : isSpace c) : isWordChar c = false := by
  rw [← Bool.not_eq_true, isWordChar_iff]
  simp only [isSpace, Bool.or_eq_true, Bool.and_eq_true, decide_eq_true_eq, beq_iff_eq] at h
  omega

theorem isBreak_of_isWordChar {c : Char} (h : isWordChar c) : isBreak c = false := by
  rw [← Bool.not_eq_true]
  intro broken
  have listed : c = '\n' ∨ c = '\r' ∨ c = '\x0b' ∨ c = '\x0c' ∨ c = '\x1c' ∨ c = '\x1d' ∨
      c = '\x1e' ∨ c = '\u0085' ∨ c = '\u2028' ∨ c = '\u2029' := by
    simpa [isBreak] using broken
  rcases listed with rfl | rfl | rfl | rfl | rfl | rfl | rfl | rfl | rfl | rfl <;> contradiction

end Text

namespace Pattern

open Text

theorem inRanges_iff {ranges : List (Char × Char)} {c : Char} :
    inRanges {} ranges c ↔
      ∃ range ∈ ranges, range.1.toNat ≤ c.toNat ∧ c.toNat ≤ range.2.toNat := by
  simp [inRanges, Char.le_def, UInt32.le_iff_toNat_le]

/-- A pattern that takes one character if it passes the test. -/
def Tests (pattern : Pattern) (test : Char → Bool) : Prop :=
  ∀ cursor, pattern.ends {} cursor = (cursor.pass? test).toList

theorem tests_char (c : Char) : (char c).Tests (· == c) := by
  intro cursor
  rw [ends]
  congr 2
  funext d
  rw [Bool.eq_iff_iff, inRanges_iff, beq_iff_eq, ← Char.toNat_inj]
  simp
  omega

theorem tests_space : space.Tests isSpace := by
  intro cursor
  rw [space, ends]
  congr 2
  funext c
  rw [Bool.eq_iff_iff, decide_eq_true_iff, Bool.ne_false_iff, inRanges_iff]
  simp [isSpace]
  omega

theorem tests_wordChar : wordChar.Tests isWordChar := by
  intro cursor
  rw [wordChar, ends]
  congr 2
  funext c
  rw [Bool.eq_iff_iff, decide_eq_true_iff, Bool.ne_false_iff, inRanges_iff, isWordChar_iff]
  simp
  omega

/-! ## The preferred end -/

/-- Where `passed` and then `rest` follow, the pattern would rather end behind `passed` than anywhere
else. -/
def Leads (pattern : Pattern) (passed rest : List Char) : Prop :=
  ∀ offset previous, ∃ others, pattern.ends {} ⟨offset, previous, passed ++ rest⟩ =
    ⟨offset + passed.length, passed.getLast?.or previous, rest⟩ :: others

theorem behind_cons (c : Char) (run rest : List Char) (offset : Nat) (previous : Option Char) :
    (⟨offset + 1 + run.length, run.getLast?.or (some c), rest⟩ : Cursor) =
      ⟨offset + (c :: run).length, (c :: run).getLast?.or previous, rest⟩ := by
  rw [List.length_cons, List.getLast?_cons, Nat.add_assoc, Nat.add_comm 1]
  cases run.getLast? <;> rfl

theorem ends_sequence_cons (options : Options) (item : Pattern) (items : List Pattern)
    (cursor : Cursor) :
    (sequence (item :: items)).ends options cursor =
      (item.ends options cursor).flatMap ((sequence items).ends options) := by
  cases items with
  | nil =>
    have stays : (sequence []).ends options = fun cursor => [cursor] := rfl
    rw [stays, List.flatMap_singleton']
    rfl
  | cons next items => rfl

namespace Leads

variable {first second : Pattern} {a b rest : List Char}

theorem sequence_nil (rest : List Char) : (sequence []).Leads [] rest := by
  intro offset previous
  exact ⟨[], rfl⟩

theorem sequence_cons {items : List Pattern} (h : first.Leads a (b ++ rest))
    (more : (sequence items).Leads b rest) :
    (sequence (first :: items)).Leads (a ++ b) rest := by
  intro offset previous
  obtain ⟨others, ends⟩ := h offset previous
  obtain ⟨further, tail⟩ := more (offset + a.length) (a.getLast?.or previous)
  rw [ends_sequence_cons, List.append_assoc, ends, List.flatMap_cons, tail, List.length_append,
    List.getLast?_append, Option.or_assoc, Nat.add_assoc]
  exact ⟨_, rfl⟩

theorem alt_left (h : first.Leads a rest) : (alt first second).Leads a rest := by
  intro offset previous
  obtain ⟨others, ends⟩ := h offset previous
  rw [Pattern.ends, ends]
  exact ⟨_, rfl⟩

theorem alt_right (none : ∀ offset previous, first.ends {} ⟨offset, previous, a ++ rest⟩ = [])
    (h : second.Leads a rest) : (alt first second).Leads a rest := by
  intro offset previous
  obtain ⟨others, ends⟩ := h offset previous
  rw [Pattern.ends, none, ends]
  exact ⟨_, rfl⟩

end Leads

namespace Tests

variable {pattern : Pattern} {test : Char → Bool}

theorem ends_cons (h : pattern.Tests test) {c : Char} (passes : test c) (offset : Nat)
    (previous : Option Char) (rest : List Char) :
    pattern.ends {} ⟨offset, previous, c :: rest⟩ = [⟨offset + 1, some c, rest⟩] := by
  rw [h]
  simp [Cursor.pass?, passes]

theorem leads (h : pattern.Tests test) {c : Char} (passes : test c) (rest : List Char) :
    pattern.Leads [c] rest := by
  intro offset previous
  exact ⟨[], h.ends_cons passes offset previous rest⟩

theorem ends_eq_nil (h : pattern.Tests test) {rest : List Char}
    (fails : ∀ c ∈ rest.head?, test c = false) (offset : Nat) (previous : Option Char) :
    pattern.ends {} ⟨offset, previous, rest⟩ = [] := by
  rw [h]
  cases rest with
  | nil => rfl
  | cons c cs => simp [Cursor.pass?, fails c rfl]

theorem rest_of_mem (h : pattern.Tests test) {cursor after : Cursor}
    (hafter : after ∈ pattern.ends {} cursor) :
    ∃ c, test c ∧ cursor.rest = c :: after.rest := by
  rw [h, Option.mem_toList] at hafter
  unfold Cursor.pass? at hafter
  split at hafter
  · contradiction
  · case h_2 c cs rest =>
    split at hafter
    · case isTrue passes =>
      obtain rfl : _ = after := Option.some.inj hafter
      exact ⟨c, passes, rest⟩
    · contradiction

/-- Greedy rounds of one character prefer the end of the run. -/
theorem leads_atMost (h : pattern.Tests test) {run rest : List Char} (passes : ∀ c ∈ run, test c)
    (fails : ∀ c ∈ rest.head?, test c = false) {count : Nat} (enough : run.length ≤ count)
    (offset : Nat) (previous : Option Char) {last : Option Nat} (fresh : last ≠ some offset) :
    ∃ others, atMostEnds (pattern.ends {}) true count last ⟨offset, previous, run ++ rest⟩ =
      ⟨offset + run.length, run.getLast?.or previous, rest⟩ :: others := by
  induction run generalizing count offset previous last with
  | nil =>
    cases count with
    | zero => exact ⟨[], rfl⟩
    | succ count =>
      have none := h.ends_eq_nil fails offset previous
      simp only [atMostEnds, List.nil_append, if_neg fresh, none]
      exact ⟨[], rfl⟩
  | cons c run ih =>
    obtain ⟨count, rfl⟩ := Nat.exists_eq_succ_of_ne_zero (show count ≠ 0 by simp at enough; omega)
    have one := h.ends_cons (passes c (by simp)) offset previous (run ++ rest)
    obtain ⟨others, more⟩ := ih (fun d hd => passes d (by simp [hd]))
      (show run.length ≤ count by simpa using enough) (offset + 1) (some c)
      (show some offset ≠ some (offset + 1) by simp)
    simp only [atMostEnds, List.cons_append, if_neg fresh, one, List.flatMap_singleton, more,
      if_true]
    rw [behind_cons c run rest offset previous]
    exact ⟨_, rfl⟩

theorem leads_rounds (h : pattern.Tests test) {run rest : List Char} (nonempty : run ≠ [])
    (passes : ∀ c ∈ run, test c) (fails : ∀ c ∈ rest.head?, test c = false) :
    (rounds pattern 1 none true).Leads run rest := by
  intro offset previous
  obtain ⟨c, run, rfl⟩ := List.exists_cons_of_ne_nil nonempty
  have one : exactlyEnds (pattern.ends {}) 1 ⟨offset, previous, c :: (run ++ rest)⟩ =
      [⟨offset + 1, some c, run ++ rest⟩] := by
    have first := h.ends_cons (passes c (by simp)) offset previous (run ++ rest)
    simp only [exactlyEnds, first, List.flatMap_singleton]
  have enough : run.length ≤ spare 1 none ⟨offset + 1, some c, run ++ rest⟩ := by
    simp only [spare, List.length_append]
    omega
  obtain ⟨others, more⟩ := h.leads_atMost (fun d hd => passes d (by simp [hd])) fails enough
    (offset + 1) (some c) (show (none : Option Nat) ≠ some (offset + 1) by simp)
  rw [ends, List.cons_append, one, List.flatMap_singleton, more,
    behind_cons c run rest offset previous]
  exact ⟨others, rfl⟩

theorem rest_of_mem_atMost (h : pattern.Tests test) {greedy : Bool} {count : Nat}
    {last : Option Nat} {cursor after : Cursor}
    (hafter : after ∈ atMostEnds (pattern.ends {}) greedy count last cursor) :
    ∃ run, (∀ c ∈ run, test c) ∧ cursor.rest = run ++ after.rest := by
  induction count generalizing last cursor with
  | zero =>
    rw [List.mem_singleton.1 hafter]
    exact ⟨[], by simp, rfl⟩
  | succ count ih =>
    have here : after = cursor ∨ after ∈ (pattern.ends {} cursor).flatMap
        (atMostEnds (pattern.ends {}) greedy count (some cursor.offset)) := by
      simp only [atMostEnds] at hafter
      split at hafter
      · exact Or.inl (List.mem_singleton.1 hafter)
      · cases greedy with
        | true => simpa [or_comm] using hafter
        | false => simpa using hafter
    rcases here with rfl | hafter
    · exact ⟨[], by simp, rfl⟩
    · obtain ⟨middle, hmiddle, hafter⟩ := List.mem_flatMap.1 hafter
      obtain ⟨c, passes, rest⟩ := h.rest_of_mem hmiddle
      obtain ⟨run, all, more⟩ := ih hafter
      exact ⟨c :: run, List.forall_mem_cons.2 ⟨passes, all⟩, by rw [rest, more, List.cons_append]⟩

theorem rest_of_mem_rounds (h : pattern.Tests test) {cursor after : Cursor}
    (hafter : after ∈ (rounds pattern 1 none true).ends {} cursor) :
    ∃ run, run ≠ [] ∧ (∀ c ∈ run, test c) ∧ cursor.rest = run ++ after.rest := by
  obtain ⟨middle, hmiddle, hafter⟩ := List.mem_flatMap.1 hafter
  simp only [exactlyEnds, List.flatMap_singleton'] at hmiddle
  obtain ⟨c, passes, rest⟩ := h.rest_of_mem hmiddle
  obtain ⟨run, all, more⟩ := h.rest_of_mem_atMost hafter
  exact ⟨c :: run, by simp, List.forall_mem_cons.2 ⟨passes, all⟩,
    by rw [rest, more, List.cons_append]⟩

end Tests

theorem leads_exact {items : List Pattern} {passed rest : List Char} (text : List Char)
    (h : (sequence items).Leads passed rest) :
    (sequence (text.map char ++ items)).Leads (text ++ passed) rest := by
  induction text with
  | nil => exact h
  | cons c text ih =>
    have first : (char c).Leads [c] (text ++ passed ++ rest) := (tests_char c).leads (by simp) _
    exact first.sequence_cons ih

theorem rest_of_mem_exact {items : List Pattern} {text : List Char} {cursor after : Cursor}
    (h : after ∈ (sequence (text.map char ++ items)).ends {} cursor) :
    ∃ middle, cursor.rest = text ++ middle.rest ∧ after ∈ (sequence items).ends {} middle := by
  induction text generalizing cursor with
  | nil => exact ⟨cursor, rfl, h⟩
  | cons c text ih =>
    rw [List.map_cons, List.cons_append, ends_sequence_cons, List.mem_flatMap] at h
    obtain ⟨next, hnext, h⟩ := h
    obtain ⟨d, same, rest⟩ := (tests_char c).rest_of_mem hnext
    obtain ⟨middle, more, h⟩ := ih h
    obtain rfl : d = c := by simpa using same
    exact ⟨middle, by rw [rest, more, List.cons_append], h⟩

theorem endAt?_of_leads {pattern : Pattern} {passed rest : List Char} (h : pattern.Leads passed rest)
    (nonempty : passed ≠ []) (offset : Nat) (previous : Option Char) :
    pattern.endAt? {} ⟨offset, previous, passed ++ rest⟩ = some (offset + passed.length) := by
  obtain ⟨others, ends⟩ := h offset previous
  have moved : passed.length ≠ 0 := by simpa using nonempty
  rw [endAt?_eq, nextEnd?_eq_find?, ends, List.find?_cons_of_pos (by simp [moved])]
  rfl

theorem mem_ends_of_endAt? {pattern : Pattern} {cursor : Cursor} {last : Nat}
    (h : pattern.endAt? {} cursor = some last) :
    ∃ after ∈ pattern.ends {} cursor, after.offset = last := by
  rw [endAt?_eq, Option.map_eq_some_iff] at h
  obtain ⟨after, found, same⟩ := h
  rw [nextEnd?_eq_find?] at found
  exact ⟨after, List.mem_of_find?_eq_some found, same⟩

end Pattern

namespace PatternRule

open Text Pattern

/-- A rule finds the texts of a shape, which may look at what stands behind them: where such a text
begins its match begins too and is that text, and there is no other match. -/
def Finds (rule : PatternRule) (shape : List Char → List Char → Prop) : Prop :=
  ∀ offset previous text last,
    rule.pattern.endAt? rule.options ⟨offset, previous, text⟩ = some last ↔
      ∃ found behind, text = found ++ behind ∧ shape found behind ∧ last = offset + found.length

theorem finds_of_leads {rule : PatternRule} {shape : List Char → List Char → Prop}
    (options : rule.options = {})
    (leads : ∀ {found behind}, shape found behind →
      found ≠ [] ∧ rule.pattern.Leads found behind)
    (shaped : ∀ {cursor after}, after ∈ rule.pattern.ends {} cursor →
      ∃ found behind, cursor.rest = found ++ behind ∧ shape found behind) : rule.Finds shape := by
  intro offset previous text last
  rw [options]
  constructor
  · intro ended
    obtain ⟨after, hafter, -⟩ := mem_ends_of_endAt? ended
    obtain ⟨found, behind, rfl, hshape⟩ := shaped hafter
    obtain ⟨nonempty, preferred⟩ := leads hshape
    rw [endAt?_of_leads preferred nonempty, Option.some.injEq] at ended
    exact ⟨found, behind, rfl, hshape, ended.symm⟩
  · rintro ⟨found, behind, rfl, hshape, rfl⟩
    obtain ⟨nonempty, preferred⟩ := leads hshape
    exact endAt?_of_leads preferred nonempty offset previous

/-- Every match of such a rule has the shape, with the text that stands behind it. -/
theorem Finds.mem_scanFrom {rule : PatternRule} {shape : List Char → List Char → Prop}
    (h : rule.Finds shape) {skip offset : Nat} {previous : Option Char} {text : List Char}
    {span : Span} (hspan : span ∈ rule.pattern.scanFrom rule.options skip offset previous text) :
    ∃ before behind, text = before ++ (span.text ++ behind) ∧ shape span.text behind ∧
      span.first = offset + before.length ∧ span.last = span.first + span.text.length := by
  have later {offset : Nat} {c : Char} {cs : List Char} :
      (∃ before behind, cs = before ++ (span.text ++ behind) ∧ shape span.text behind ∧
        span.first = offset + 1 + before.length ∧ span.last = span.first + span.text.length) →
      ∃ before behind, c :: cs = before ++ (span.text ++ behind) ∧ shape span.text behind ∧
        span.first = offset + before.length ∧ span.last = span.first + span.text.length := by
    rintro ⟨before, behind, rfl, hshape, first, last⟩
    exact ⟨c :: before, behind, rfl, hshape, by rw [first, List.length_cons]; omega, last⟩
  fun_induction scanFrom rule.pattern rule.options skip offset previous text with
  | case1 => simp at hspan
  | case2 skip offset previous c cs ih => exact later (ih hspan)
  | case3 offset previous c cs missing ih => exact later (ih hspan)
  | case4 offset previous c cs last ended ih =>
    rcases List.mem_cons.1 hspan with rfl | hspan
    · obtain ⟨found, behind, text_eq, hshape, rfl⟩ := (h offset previous (c :: cs) last).1 ended
      have taken : (c :: cs).take (offset + found.length - offset) = found := by
        rw [text_eq, Nat.add_sub_cancel_left, List.take_left]
      refine ⟨[], behind, ?_, ?_, rfl, ?_⟩
      · rw [taken]
        exact text_eq
      · rw [taken]
        exact hshape
      · rw [taken]
    · exact later (ih hspan)

theorem Finds.mem_spans {rule : PatternRule} {shape : List Char → List Char → Prop}
    (h : rule.Finds shape) {text : List Char} {span : Span} (hspan : span ∈ rule.spans text) :
    ∃ before behind, text = before ++ (span.text ++ behind) ∧ shape span.text behind ∧
      span.first = before.length ∧ span.last = before.length + span.text.length := by
  obtain ⟨before, behind, text_eq, hshape, first, last⟩ := h.mem_scanFrom hspan
  rw [Nat.zero_add] at first
  exact ⟨before, behind, text_eq, hshape, first, first ▸ last⟩

/-- An equals sign that lacks a space on one side or on both. -/
inductive Cramped : List Char → Prop where
  | before {s : Char} : isSpace s → Cramped ['=', s]
  | behind {s : Char} : isSpace s → Cramped [s, '=']
  | both : Cramped ['=']

/-- An assignment to a buffer whose equals sign lacks a space. -/
inductive Assignment : List Char → Prop where
  | intro {s : Char} {name sign value : List Char} :
      isSpace s → IsWord name → Cramped sign → IsWord value →
      Assignment ("buffer".toList ++ ([s] ++ (name ++ (sign ++ value))))

theorem Assignment.exists_getLast? {found : List Char} (h : Assignment found) :
    ∃ c, found.getLast? = some c ∧ isWordChar c := by
  obtain @⟨s, name, sign, value, -, -, -, hvalue⟩ := h
  have last := List.getLast?_eq_some_getLast hvalue.1
  refine ⟨value.getLast hvalue.1, ?_, hvalue.2 _ (List.getLast_mem _)⟩
  simp only [List.getLast?_append, last, Option.some_or]

/-- The pattern of the equals sign in the rule on assignments. -/
def signPattern : Pattern :=
  .choice
    [.sequence [.char '=', .space],
      .sequence [.space, .char '=', .rounds .space 0 (some 0) true],
      .char '=']

theorem ends_noRounds (pattern : Pattern) (cursor : Cursor) :
    (rounds pattern 0 (some 0) true).ends {} cursor = [cursor] := by
  simp [ends, exactlyEnds, spare, atMostEnds]

theorem leads_signPattern {sign rest : List Char} (h : Cramped sign)
    (word : ∀ c ∈ rest.head?, isWordChar c) : signPattern.Leads sign rest := by
  have equals (rest : List Char) : (char '=').Leads ['='] rest := (tests_char '=').leads rfl rest
  cases h with
  | before hs =>
    apply Leads.alt_left
    exact (equals _).sequence_cons ((tests_space.leads hs _).sequence_cons (.sequence_nil rest))
  | @behind s hs =>
    have other : s ≠ '=' := by
      rintro rfl
      contradiction
    have none : (rounds space 0 (some 0) true).Leads [] rest := by
      intro offset previous
      exact ⟨[], ends_noRounds space _⟩
    apply Leads.alt_right
    · intro offset previous
      have fails : ∀ c ∈ ([s, '='] ++ rest).head?, (c == '=') = false := by simp [other]
      rw [ends_sequence_cons, (tests_char '=').ends_eq_nil fails]
      rfl
    · apply Leads.alt_left
      have signed := (equals ([] ++ rest)).sequence_cons (none.sequence_cons (.sequence_nil rest))
      exact (tests_space.leads hs _).sequence_cons signed
  | both =>
    apply Leads.alt_right
    · intro offset previous
      have unspaced : ∀ c ∈ rest.head?, isSpace c = false := by
        intro c hc
        rw [← Bool.not_eq_true]
        intro spaced
        simpa [isWordChar_of_isSpace spaced] using word c hc
      have one : (char '=').ends {} ⟨offset, previous, '=' :: rest⟩ =
          [⟨offset + 1, some '=', rest⟩] := (tests_char '=').ends_cons rfl _ _ _
      change (sequence [char '=', space]).ends {} ⟨offset, previous, '=' :: rest⟩ = []
      rw [ends_sequence_cons, one, List.flatMap_singleton, ends_sequence_cons,
        tests_space.ends_eq_nil unspaced]
      rfl
    · apply Leads.alt_right
      · intro offset previous
        have fails : ∀ c ∈ (['='] ++ rest).head?, isSpace c = false := by simp [isSpace]
        rw [ends_sequence_cons, tests_space.ends_eq_nil fails]
        rfl
      · exact equals rest

theorem rest_of_mem_signPattern {cursor after : Cursor} (h : after ∈ signPattern.ends {} cursor) :
    ∃ sign, Cramped sign ∧ cursor.rest = sign ++ after.rest := by
  have equals {cursor after : Cursor} (h : after ∈ (char '=').ends {} cursor) :
      cursor.rest = '=' :: after.rest := by
    obtain ⟨c, same, rest⟩ := (tests_char '=').rest_of_mem h
    rw [rest, eq_of_beq same]
  change after ∈ (sequence [char '=', space]).ends {} cursor ++
    ((sequence [space, char '=', rounds space 0 (some 0) true]).ends {} cursor ++
      (char '=').ends {} cursor) at h
  rw [List.mem_append, List.mem_append] at h
  rcases h with h | h | h
  · rw [ends_sequence_cons, List.mem_flatMap] at h
    obtain ⟨middle, hmiddle, hafter⟩ := h
    obtain ⟨s, hs, rest⟩ := tests_space.rest_of_mem hafter
    exact ⟨['=', s], .before hs, by rw [equals hmiddle, rest]; rfl⟩
  · rw [ends_sequence_cons, List.mem_flatMap] at h
    obtain ⟨spaced, hspaced, h⟩ := h
    rw [ends_sequence_cons, List.mem_flatMap] at h
    obtain ⟨signed, hsigned, h⟩ := h
    obtain ⟨s, hs, rest⟩ := tests_space.rest_of_mem hspaced
    change after ∈ (rounds space 0 (some 0) true).ends {} signed at h
    rw [ends_noRounds, List.mem_singleton] at h
    exact ⟨[s, '='], .behind hs, by rw [rest, equals hsigned, h]; rfl⟩
  · exact ⟨['='], .both, equals h⟩

theorem Cramped.endsWord {sign : List Char} (h : Cramped sign) (rest : List Char) :
    EndsWord (sign ++ rest) := by
  intro c hc
  cases h with
  | before hs =>
    obtain rfl : '=' = c := by simpa using hc
    rfl
  | behind hs =>
    obtain rfl : _ = c := by simpa using hc
    exact isWordChar_of_isSpace hs
  | both =>
    obtain rfl : '=' = c := by simpa using hc
    rfl

/-- The first built-in rule finds the assignments with a cramped equals sign, each with all of its
value. -/
theorem finds_bufferSpacing :
    bufferSpacing.Finds fun found behind => Assignment found ∧ EndsWord behind := by
  apply finds_of_leads rfl
  · rintro found behind ⟨@⟨s, name, sign, value, hs, hname, hsign, hvalue⟩, ends⟩
    refine ⟨by simp, ?_⟩
    have begins : ∀ c ∈ (value ++ behind).head?, isWordChar c := by
      intro c hc
      obtain ⟨first, others, rfl⟩ := List.exists_cons_of_ne_nil hvalue.1
      obtain rfl : first = c := by simpa using hc
      exact hvalue.2 first (by simp)
    have valued : (sequence [word]).Leads value behind :=
      tests_wordChar.leads_rounds hvalue.1 hvalue.2 ends
    have signed : (sequence [group signPattern, word]).Leads (sign ++ value) behind :=
      Leads.sequence_cons (leads_signPattern hsign begins) valued
    have stops : EndsWord (sign ++ value ++ behind) := by
      rw [List.append_assoc]
      exact hsign.endsWord _
    have named : (sequence [word, group signPattern, word]).Leads (name ++ (sign ++ value))
        behind :=
      Leads.sequence_cons (tests_wordChar.leads_rounds hname.1 hname.2 stops) signed
    exact leads_exact _ ((tests_space.leads hs _).sequence_cons named)
  · intro cursor after h
    obtain ⟨keyword, cursor_rest, h⟩ := rest_of_mem_exact h
    rw [ends_sequence_cons, List.mem_flatMap] at h
    obtain ⟨spaced, hspaced, h⟩ := h
    rw [ends_sequence_cons, List.mem_flatMap] at h
    obtain ⟨named, hnamed, h⟩ := h
    rw [ends_sequence_cons, List.mem_flatMap] at h
    obtain ⟨signed, hsigned, h⟩ := h
    obtain ⟨s, hs, keyword_rest⟩ := tests_space.rest_of_mem hspaced
    obtain ⟨name, name_ne, hname, spaced_rest⟩ := tests_wordChar.rest_of_mem_rounds hnamed
    obtain ⟨sign, hsign, named_rest⟩ := rest_of_mem_signPattern hsigned
    obtain ⟨value, value_ne, hvalue, signed_rest⟩ := tests_wordChar.rest_of_mem_rounds h
    -- This end may stand within the value: the match goes on to the end of it.
    let whole := value ++ after.rest.takeWhile isWordChar
    have hwhole : IsWord whole := by
      refine ⟨by simp [whole, value_ne], ?_⟩
      intro c hc
      rcases List.mem_append.1 hc with hc | hc
      · exact hvalue c hc
      · exact List.all_eq_true.1 List.all_takeWhile c hc
    refine ⟨_, after.rest.dropWhile isWordChar, ?_, .intro hs ⟨name_ne, hname⟩ hsign hwhole, ?_⟩
    · rw [cursor_rest, keyword_rest, spaced_rest, named_rest, signed_rest,
        ← List.takeWhile_append_dropWhile (p := isWordChar) (l := after.rest)]
      simp [whole]
    · intro c hc
      have stops := List.head?_dropWhile_not isWordChar after.rest
      rw [Option.mem_def.1 hc] at stops
      exact stops

/-- The second built-in rule finds the keyword with the parenthesis right behind it. -/
theorem finds_ifParenSpacing : ifParenSpacing.Finds fun found _ => found = "if(".toList := by
  apply finds_of_leads rfl
  · rintro found behind rfl
    exact ⟨by simp, leads_exact "if(".toList (.sequence_nil behind)⟩
  · intro cursor after h
    have h : after ∈ (sequence ("if(".toList.map char ++ [])).ends {} cursor := h
    obtain ⟨middle, rest, -⟩ := rest_of_mem_exact h
    exact ⟨_, middle.rest, rest, rfl⟩

theorem mem_builtIn {rule : PatternRule} :
    rule ∈ builtIn ↔ rule = bufferSpacing ∨ rule = ifParenSpacing := by
  simp [builtIn]

/-- No match of a built-in rule ends in a line break, so none ends behind a final one. -/
theorem last_inside_of_mem_builtIn {rule : PatternRule} (hrule : rule ∈ builtIn)
    {text : List Char} {span : Span} (hspan : span ∈ rule.spans text) :
    span.last < text.length ∨ ∀ c ∈ text.getLast?, isBreak c = false := by
  have inside {before behind : List Char} (text_eq : text = before ++ (span.text ++ behind))
      (last : span.last = before.length + span.text.length) {c : Char}
      (final : span.text.getLast? = some c) (unbroken : isBreak c = false) :
      span.last < text.length ∨ ∀ c ∈ text.getLast?, isBreak c = false := by
    cases behind with
    | nil =>
      right
      intro d hd
      rw [text_eq, List.append_nil, List.getLast?_append, final] at hd
      obtain rfl : c = d := by simpa using hd
      exact unbroken
    | cons d behind =>
      left
      rw [last, text_eq]
      simp only [List.length_append, List.length_cons]
      omega
  obtain rfl | rfl := mem_builtIn.1 hrule
  · obtain ⟨before, behind, text_eq, ⟨assignment, -⟩, -, last⟩ :=
      finds_bufferSpacing.mem_spans hspan
    obtain ⟨c, final, word⟩ := assignment.exists_getLast?
    exact inside text_eq last final (isBreak_of_isWordChar word)
  · obtain ⟨before, behind, text_eq, found, -, last⟩ := finds_ifParenSpacing.mem_spans hspan
    exact inside text_eq last (show span.text.getLast? = some '(' by rw [found]; rfl) rfl

end PatternRule

end ScriptAssist
