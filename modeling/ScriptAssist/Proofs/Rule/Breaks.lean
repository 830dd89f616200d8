import Mathlib.Data.List.Forall2
import ScriptAssist.Proofs.Rule.Shape
import ScriptAssist.Proofs.Text.Breaks

namespace ScriptAssist.PatternRule

open Text Pattern

/-- A match in a text with unified breaks, where the text itself has a carriage return. -/
def CoversReturn (text : List Char) (span : Span) : Prop :=
  ∃ before behind, text = before ++ '\r' :: behind ∧
    span.first ≤ (unifyBreaks before).length ∧ (unifyBreaks before).length < span.last

/-- The same match in a text and in the text with unified breaks. -/
inductive Aligned (text : List Char) : Span → Span → Prop where
  | intro {before found behind : List Char} : text = before ++ (found ++ behind) →
      ¬Parts before (found ++ behind) → ¬Parts (before ++ found) behind →
      Aligned text ⟨before.length, (before ++ found).length, found⟩
        ⟨(unifyBreaks before).length, (unifyBreaks (before ++ found)).length, found⟩

theorem Aligned.le_length {text : List Char} {span unified : Span} (h : Aligned text span unified) :
    unified.first ≤ (unifyBreaks text).length ∧ unified.last ≤ (unifyBreaks text).length := by
  obtain ⟨text_eq, whole, whole'⟩ := h
  have start := unifyBreaks_append whole
  have stop := unifyBreaks_append whole'
  rw [← text_eq] at start
  rw [List.append_assoc, ← text_eq] at stop
  constructor
  · rw [start, List.length_append]
    exact Nat.le_add_right _ _
  · rw [stop, List.length_append]
    exact Nat.le_add_right _ _

theorem append_eq_append_cons {α : Type} {c : α} {first second before behind : List α}
    (h : first ++ second = before ++ c :: behind) :
    (∃ rest, first = before ++ c :: rest) ∨
      ∃ rest, before = first ++ rest ∧ second = rest ++ c :: behind := by
  rcases List.append_eq_append_iff.1 h with ⟨rest, rfl, rfl⟩ | ⟨rest, rfl, cut⟩
  · exact Or.inr ⟨rest, rfl, rfl⟩
  · cases rest with
    | nil => exact Or.inr ⟨[], by simp, cut.symm⟩
    | cons d rest =>
      obtain ⟨rfl, -⟩ := List.cons.inj cut
      exact Or.inl ⟨rest, rfl⟩

theorem Aligned.not_coversReturn {text : List Char} {span unified : Span}
    (h : Aligned text span unified) (clear : '\r' ∉ span.text) : ¬CoversReturn text unified := by
  rintro ⟨early, late, cut, low, high⟩
  obtain @⟨before, found, behind, text_eq, -, whole⟩ := h
  have inside : before ++ found ++ behind = early ++ '\r' :: late := by
    rw [List.append_assoc, ← text_eq, cut]
  -- A return in front of the match or behind it is outside of it with unified breaks too.
  rcases append_eq_append_cons inside with ⟨rest, cut⟩ | ⟨rest, rfl, rfl⟩
  · rcases append_eq_append_cons cut with ⟨rest, rfl⟩ | ⟨rest, -, rfl⟩
    · have less := length_unifyBreaks_lt early rest
      exact absurd low (Nat.not_le.2 less)
    · exact clear (by simp)
  · have whole' : ¬Parts (before ++ found) rest := fun parts => whole (parts.append_right _)
    simp only [unifyBreaks_append whole', List.length_append] at high
    omega

theorem return_notMem_of_clear {before found behind : List Char}
    (whole : ¬Parts before (found ++ behind)) {text : List Char}
    (clear : ¬CoversReturn (before ++ (found ++ behind))
      ⟨(unifyBreaks before).length, (unifyBreaks (before ++ found)).length, text⟩) :
    '\r' ∉ found := by
  intro covered
  obtain ⟨early, late, rfl⟩ := List.append_of_mem covered
  have whole' : ¬Parts before early := by
    intro parts
    exact whole ((parts.append_right ('\r' :: late)).append_right behind)
  have less := length_unifyBreaks_lt (before ++ early) late
  rw [List.append_assoc] at less
  refine clear ⟨before ++ early, late ++ behind, by simp, ?_, less⟩
  rw [unifyBreaks_append whole', List.length_append]
  exact Nat.le_add_right _ _

/-- A shape that breaks make no difference to: they may be unified, and those in what stands behind
may be put back. -/
structure Stable (shape : List Char → List Char → Prop) : Prop where
  head {found behind : List Char} : shape found behind → ∃ c cs, found = c :: cs ∧ c ≠ '\n'
  getLast?_ne {found behind : List Char} : shape found behind → found.getLast? ≠ some '\r'
  unify {found behind : List Char} : shape found behind →
    shape (unifyBreaks found) (unifyBreaks behind)
  restore {found behind : List Char} : shape found (unifyBreaks behind) → shape found behind

namespace Stable

variable {shape : List Char → List Char → Prop} {found behind : List Char}

theorem ne_nil (h : Stable shape) (hshape : shape found behind) : found ≠ [] := by
  obtain ⟨c, cs, rfl, -⟩ := h.head hshape
  simp

theorem not_parts_before (h : Stable shape) (hshape : shape found behind) (before : List Char) :
    ¬Parts before (found ++ behind) := by
  rintro ⟨-, next⟩
  obtain ⟨c, cs, rfl, other⟩ := h.head hshape
  exact other (by simpa using next)

theorem not_parts_behind (h : Stable shape) (hshape : shape found behind) : ¬Parts found behind :=
  fun parts => h.getLast?_ne hshape parts.1

end Stable

/-- The matches in a text that begins at an offset. -/
def spansFrom (rule : PatternRule) (offset : Nat) (text : List Char) : List Span :=
  rule.pattern.scanFrom rule.options 0 offset none text

namespace Finds

variable {rule : PatternRule} {shape : List Char → List Char → Prop}

theorem scanFrom_previous (h : rule.Finds shape) (skip offset : Nat) (previous : Option Char)
    (text : List Char) :
    rule.pattern.scanFrom rule.options skip offset previous text =
      rule.pattern.scanFrom rule.options skip offset none text := by
  cases text with
  | nil => rfl
  | cons c cs =>
    cases skip with
    | succ skip => rfl
    | zero =>
      have same : rule.pattern.endAt? rule.options ⟨offset, previous, c :: cs⟩ =
          rule.pattern.endAt? rule.options ⟨offset, none, c :: cs⟩ := by
        apply Option.ext
        intro last
        rw [h offset previous, h offset none]
      simp only [scanFrom, same]

theorem spansFrom_found (h : rule.Finds shape) {found behind : List Char}
    (hshape : shape found behind) (nonempty : found ≠ []) (offset : Nat) :
    rule.spansFrom offset (found ++ behind) =
      ⟨offset, offset + found.length, found⟩ ::
        rule.spansFrom (offset + found.length) behind := by
  obtain ⟨c, cs, rfl⟩ := List.exists_cons_of_ne_nil nonempty
  have ended := (h offset none (c :: cs ++ behind) _).2 ⟨_, _, rfl, hshape, rfl⟩
  have taken : (c :: (cs ++ behind)).take (c :: cs).length = c :: cs := by
    rw [← List.cons_append, List.take_left]
  rw [List.cons_append] at ended
  simp only [spansFrom, List.cons_append, scanFrom, ended, Nat.add_sub_cancel_left, taken]
  rw [List.length_cons, Nat.add_sub_cancel, scanFrom_skip, h.scanFrom_previous, Nat.add_assoc,
    Nat.add_comm 1]

theorem spansFrom_missing (h : rule.Finds shape) {c : Char} {cs : List Char}
    (missing : ∀ {found behind}, c :: cs = found ++ behind → ¬shape found behind) (offset : Nat) :
    rule.spansFrom offset (c :: cs) = rule.spansFrom (offset + 1) cs := by
  have none : rule.pattern.endAt? rule.options ⟨offset, none, c :: cs⟩ = none := by
    rw [Option.eq_none_iff_forall_ne_some]
    intro last ended
    obtain ⟨found, behind, cut, hshape, -⟩ := (h offset _ (c :: cs) last).1 ended
    exact missing cut hshape
  simp only [spansFrom, scanFrom, none]
  exact h.scanFrom_previous 0 (offset + 1) (some c) cs

/-- Where no match begins with unified breaks none begins without, and both scans move on by one
break or by one other character. -/
theorem spansFrom_unmatched (h : rule.Finds shape) (stable : Stable shape) {c : Char}
    {cs : List Char}
    (unmatched : ∀ {found behind}, unifyBreaks (c :: cs) = found ++ behind → ¬shape found behind) :
    ∃ passed rest, c :: cs = passed ++ rest ∧ passed ≠ [] ∧ ¬Parts passed rest ∧
      ∀ offset, rule.spansFrom offset (c :: cs) = rule.spansFrom (offset + passed.length) rest ∧
        rule.spansFrom offset (unifyBreaks (c :: cs)) =
          rule.spansFrom (offset + (unifyBreaks passed).length) (unifyBreaks rest) := by
  have missing {found behind : List Char} (cut : c :: cs = found ++ behind) :
      ¬shape found behind := by
    intro hshape
    have whole := stable.not_parts_behind hshape
    exact unmatched (by rw [cut, unifyBreaks_append whole]) (stable.unify hshape)
  by_cases pair : Parts [c] cs
  · obtain ⟨same, next⟩ := pair
    obtain ⟨rest, rfl⟩ := List.head?_eq_some_iff.1 next
    obtain rfl : c = '\r' := by simpa using same
    have missing' {found behind : List Char} (cut : '\n' :: rest = found ++ behind) :
        ¬shape found behind := by
      intro hshape
      obtain ⟨d, others, rfl, other⟩ := stable.head hshape
      exact other (List.cons.inj cut).1.symm
    refine ⟨['\r', '\n'], rest, rfl, by simp, by simp [Parts], fun offset => ⟨?_, ?_⟩⟩
    · rw [h.spansFrom_missing missing, h.spansFrom_missing missing']
      rfl
    · exact h.spansFrom_missing unmatched offset
  · have one : (unifyBreaks [c]).length = 1 := by
      rw [unifyBreaks_cons (by simp [Parts])]
      rfl
    refine ⟨[c], cs, rfl, by simp, pair, fun offset => ⟨h.spansFrom_missing missing offset, ?_⟩⟩
    rw [unifyBreaks_cons pair] at unmatched ⊢
    rw [one]
    exact h.spansFrom_missing unmatched offset

/-- Where `done` has been scanned already, the scan goes in step with the scan of the text with
unified breaks, unless a match there covers a carriage return. -/
theorem forall₂_aligned (h : rule.Finds shape) (stable : Stable shape) {done text : List Char}
    (whole : ¬Parts done text)
    (clear : ∀ span ∈ rule.spansFrom (unifyBreaks done).length (unifyBreaks text),
      ¬CoversReturn (done ++ text) span) :
    List.Forall₂ (Aligned (done ++ text)) (rule.spansFrom done.length text)
      (rule.spansFrom (unifyBreaks done).length (unifyBreaks text)) := by
  induction hn : text.length using Nat.strong_induction_on generalizing done text with
  | _ n ih =>
  -- Both scans have passed one piece, a match or not, and go on behind it.
  have further {passed rest : List Char} (cut : text = passed ++ rest) (nonempty : passed ≠ [])
      (unparted : ¬Parts passed rest) :
      (∀ span ∈ rule.spansFrom ((unifyBreaks done).length + (unifyBreaks passed).length)
        (unifyBreaks rest), ¬CoversReturn (done ++ text) span) →
      List.Forall₂ (Aligned (done ++ text)) (rule.spansFrom (done.length + passed.length) rest)
        (rule.spansFrom ((unifyBreaks done).length + (unifyBreaks passed).length)
          (unifyBreaks rest)) := by
    subst cut
    have positive := List.length_pos_iff.2 nonempty
    have shorter : rest.length < n := by
      rw [← hn, List.length_append]
      omega
    have whole' : ¬Parts done passed := fun parts => whole (parts.append_right rest)
    rw [← List.length_append, ← List.length_append, ← unifyBreaks_append whole',
      ← List.append_assoc]
    intro clear
    exact ih _ shorter (not_parts_join whole unparted) clear rfl
  by_cases matched : ∃ found behind, unifyBreaks text = found ++ behind ∧ shape found behind
  · obtain ⟨_, _, cut, hshape⟩ := matched
    obtain ⟨found, behind, text_eq, unparted, rfl, rfl⟩ := exists_of_unifyBreaks_eq cut
    have unified := h.spansFrom_found hshape (stable.ne_nil hshape) (unifyBreaks done).length
    rw [cut, unified] at clear ⊢
    have later := further text_eq (fun empty => stable.ne_nil hshape (by rw [empty]; rfl)) unparted
      fun span hspan => clear span (List.mem_cons_of_mem _ hspan)
    rw [text_eq] at whole clear later ⊢
    have whole' : ¬Parts done found := fun parts => whole (parts.append_right behind)
    have width : (unifyBreaks done).length + (unifyBreaks found).length =
        (unifyBreaks (done ++ found)).length := by
      rw [unifyBreaks_append whole', List.length_append]
    have here := clear _ List.mem_cons_self
    rw [width] at here later ⊢
    have same : unifyBreaks found = found :=
      unifyBreaks_eq_self (return_notMem_of_clear whole here)
    rw [same] at hshape ⊢
    rw [h.spansFrom_found (stable.restore hshape) (stable.ne_nil hshape), ← List.length_append]
    rw [← List.length_append] at later
    exact .cons (.intro rfl whole (not_parts_join whole unparted)) later
  · cases text with
    | nil => exact .nil
    | cons c cs =>
      obtain ⟨passed, rest, cut, nonempty, unparted, step⟩ :=
        h.spansFrom_unmatched stable fun cut hshape => matched ⟨_, _, cut, hshape⟩
      rw [(step _).2] at clear ⊢
      rw [(step _).1]
      exact further cut nonempty unparted clear

theorem exists_aligned (h : rule.Finds shape) (stable : Stable shape) {text : List Char}
    {span : Span} (hspan : span ∈ rule.spans text) : ∃ unified, Aligned text span unified := by
  obtain ⟨before, behind, text_eq, hshape, first, last⟩ := h.mem_spans hspan
  have whole := stable.not_parts_before hshape before
  have aligned :=
    Aligned.intro text_eq whole (not_parts_join whole (stable.not_parts_behind hshape))
  rw [List.length_append, ← last, ← first] at aligned
  exact ⟨_, aligned⟩

end Finds

/-! ## The built-in rules -/

theorem isSpace_unifyBreak {c : Char} (h : isSpace c) : isSpace (unifyBreak c) := by
  unfold unifyBreak
  split
  · rfl
  · exact h

theorem isWordChar_unifyBreak (c : Char) : isWordChar (unifyBreak c) = isWordChar c := by
  unfold unifyBreak
  split
  · case isTrue same =>
    rw [same]
    rfl
  · rfl

theorem endsWord_unifyBreaks {text : List Char} : EndsWord (unifyBreaks text) ↔ EndsWord text := by
  simp [EndsWord, head?_unifyBreaks, isWordChar_unifyBreak]

theorem return_notMem_word {word : List Char} (h : IsWord word) : '\r' ∉ word := by
  intro mem
  have listed := h.2 '\r' mem
  contradiction

theorem unifyBreaks_cons_word (c : Char) {word : List Char} (h : IsWord word) (rest : List Char) :
    unifyBreaks (c :: (word ++ rest)) = unifyBreak c :: (word ++ unifyBreaks rest) := by
  have single : ¬Parts [c] (word ++ rest) := by
    rintro ⟨-, next⟩
    obtain ⟨d, others, rfl⟩ := List.exists_cons_of_ne_nil h.1
    obtain rfl : d = '\n' := by simpa using next
    have listed := h.2 '\n' (by simp)
    contradiction
  rw [unifyBreaks_cons single, unifyBreaks_append_left (return_notMem_word h)]

theorem Cramped.exists_unified {sign value : List Char} (h : Cramped sign) (hvalue : IsWord value) :
    ∃ unified, Cramped unified ∧ unifyBreaks (sign ++ value) = unified ++ value := by
  have kept : unifyBreaks ('=' :: value) = '=' :: value :=
    unifyBreaks_eq_self (by simp [return_notMem_word hvalue])
  cases h with
  | @before s hs =>
    refine ⟨['=', unifyBreak s], .before (isSpace_unifyBreak hs), ?_⟩
    have spaced := unifyBreaks_cons_word s hvalue []
    rw [List.append_nil] at spaced
    have signed := unifyBreaks_append_left (show '\r' ∉ ['='] by decide) (s :: value)
    rw [spaced] at signed
    simpa using signed
  | @behind s hs =>
    refine ⟨[unifyBreak s, '='], .behind (isSpace_unifyBreak hs), ?_⟩
    rw [List.cons_append, unifyBreaks_cons (by simp [Parts])]
    simp [kept]
  | both => exact ⟨['='], .both, kept⟩

theorem Assignment.unified {found : List Char} (h : Assignment found) :
    Assignment (unifyBreaks found) := by
  obtain @⟨s, name, sign, value, hs, hname, hsign, hvalue⟩ := h
  obtain ⟨unified, hunified, signed⟩ := hsign.exists_unified hvalue
  have spaced := unifyBreaks_cons_word s hname (sign ++ value)
  rw [signed] at spaced
  rw [unifyBreaks_append_left (by decide), List.singleton_append, spaced]
  exact .intro (isSpace_unifyBreak hs) hname hunified hvalue

theorem stable_assignment : Stable fun found behind => Assignment found ∧ EndsWord behind where
  head := by
    rintro found behind ⟨⟨-, -, -, -⟩, -⟩
    exact ⟨'b', _, rfl, by decide⟩
  getLast?_ne := by
    rintro found behind ⟨assignment, -⟩ last
    obtain ⟨c, final, word⟩ := assignment.exists_getLast?
    obtain rfl : c = '\r' := Option.some.inj (final.symm.trans last)
    contradiction
  unify := fun h => ⟨h.1.unified, endsWord_unifyBreaks.2 h.2⟩
  restore := fun h => ⟨h.1, endsWord_unifyBreaks.1 h.2⟩

theorem stable_keyword : Stable fun found _ => found = "if(".toList where
  head := by
    rintro found behind rfl
    exact ⟨'i', _, rfl, by decide⟩
  getLast?_ne := by
    rintro found behind rfl
    decide
  unify := by
    rintro found behind rfl
    rfl
  restore := id

theorem exists_stable {rule : PatternRule} (h : rule ∈ builtIn) :
    ∃ shape, rule.Finds shape ∧ Stable shape := by
  obtain rfl | rfl := mem_builtIn.1 h
  · exact ⟨_, finds_bufferSpacing, stable_assignment⟩
  · exact ⟨_, finds_ifParenSpacing, stable_keyword⟩

end ScriptAssist.PatternRule
