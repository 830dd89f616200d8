import Mathlib.Algebra.BigOperators.Group.List.Basic
import ScriptAssist.Proofs.Position.Prefix
import ScriptAssist.Proofs.Rule.OnePass

namespace ScriptAssist

open Text Pattern

/-- The same piece with so many characters in front of the text. -/
def Pattern.Span.behind (span : Span) (length : Nat) : Span :=
  ⟨length + span.first, length + span.last, span.text⟩

namespace PatternRule

/-- A character that stands in no match of a built-in rule and goes on with no word. -/
structure Neutral (c : Char) : Prop where
  word : isWordChar c = false
  space : isSpace c = false
  ne_equals : c ≠ '='
  ne_paren : c ≠ '('

instance (c : Char) : Decidable (Neutral c) :=
  decidable_of_iff (isWordChar c = false ∧ isSpace c = false ∧ c ≠ '=' ∧ c ≠ '(')
    ⟨fun h => ⟨h.1, h.2.1, h.2.2.1, h.2.2.2⟩,
      fun h => ⟨h.word, h.space, h.ne_equals, h.ne_paren⟩⟩

/-- A character that severs a shape: no text of the shape has it in it, and before it a text might
as well end. -/
structure Severs (c : Char) (shape : List Char → List Char → Prop) : Prop where
  notMem {found behind : List Char} : shape found behind → c ∉ found
  behind_iff {found rest later : List Char} : shape found (rest ++ c :: later) ↔ shape found rest

/-! ## Scans by matches and single characters -/

namespace Finds

variable {rule : PatternRule} {shape : List Char → List Char → Prop}

/-- A scan passes a text by whole matches and by single characters at which none begins. -/
@[elab_as_elim]
theorem scan_induction (h : rule.Finds shape) {motive : List Char → Prop} (text : List Char)
    (nil : motive [])
    (found : ∀ found behind, shape found behind → motive behind → motive (found ++ behind))
    (missing : ∀ c cs, (∀ found behind, c :: cs = found ++ behind → ¬shape found behind) →
      motive cs → motive (c :: cs)) : motive text := by
  induction hn : text.length using Nat.strong_induction_on generalizing text with
  | _ n ih =>
    subst hn
    by_cases matched : ∃ first behind, text = first ++ behind ∧ shape first behind
    · obtain ⟨first, behind, cut, hshape⟩ := matched
      have positive := List.length_pos_iff.2 (h.ne_nil hshape)
      have shorter : behind.length < text.length := by
        rw [cut, List.length_append]
        omega
      rw [cut]
      exact found first behind hshape (ih _ shorter behind rfl)
    · cases text with
      | nil => exact nil
      | cons c cs =>
        apply missing c cs
        · intro first behind cut hshape
          exact matched ⟨first, behind, cut, hshape⟩
        · exact ih _ (Nat.lt_succ_self cs.length) cs rfl

/-- What a scan finds does not depend on where the text begins, its offsets apart. -/
theorem spansFrom_add (h : rule.Finds shape) (length offset : Nat) (text : List Char) :
    rule.spansFrom (length + offset) text =
      (rule.spansFrom offset text).map (·.behind length) := by
  induction text using h.scan_induction generalizing offset with
  | nil => rfl
  | found found behind hshape ih =>
    have nonempty := h.ne_nil hshape
    rw [h.spansFrom_found hshape nonempty, h.spansFrom_found hshape nonempty, List.map_cons,
      ← ih (offset + found.length), Nat.add_assoc]
    rfl
  | missing c cs unmatched ih =>
    rw [h.spansFrom_missing fun cut => unmatched _ _ cut,
      h.spansFrom_missing fun cut => unmatched _ _ cut, ← ih (offset + 1), Nat.add_assoc]

/-- A character that severs the shape is passed alone, and the scan goes on behind it as if it
began there. -/
theorem spansFrom_severed (h : rule.Finds shape) {c : Char} (severs : Severs c shape) (p q : List Char)
    (offset : Nat) :
    rule.spansFrom offset (p ++ c :: q) =
      rule.spansFrom offset p ++ rule.spansFrom (offset + (p.length + 1)) q := by
  induction p using h.scan_induction generalizing offset with
  | nil =>
    apply h.spansFrom_missing
    intro found behind cut hshape
    obtain ⟨d, ds, spelled⟩ := List.exists_cons_of_ne_nil (h.ne_nil hshape)
    rw [spelled, List.cons_append] at cut
    have same : c = d := (List.cons.inj cut).1
    apply severs.notMem hshape
    rw [spelled, same]
    exact List.mem_cons_self
  | found found behind hshape ih =>
    have nonempty := h.ne_nil hshape
    have further : shape found (behind ++ c :: q) := severs.behind_iff.2 hshape
    have place : offset + found.length + (behind.length + 1) =
        offset + ((found ++ behind).length + 1) := by
      rw [List.length_append]
      omega
    rw [List.append_assoc, h.spansFrom_found further nonempty, ih, place,
      h.spansFrom_found hshape nonempty, List.cons_append]
  | missing d ds unmatched ih =>
    have unmatched' {found behind : List Char} (cut : d :: (ds ++ c :: q) = found ++ behind) :
        ¬shape found behind := by
      intro hshape
      have whole : found ++ behind = (d :: ds) ++ c :: q := cut.symm
      -- A match that begins here ends in front of the character that severs it.
      rcases append_eq_append_cons whole with ⟨rest, covers⟩ | ⟨rest, inside, last⟩
      · apply severs.notMem hshape
        rw [covers]
        simp
      · rw [last] at hshape
        exact unmatched found rest inside (severs.behind_iff.1 hshape)
    have place : offset + 1 + (ds.length + 1) = offset + ((d :: ds).length + 1) := by
      rw [List.length_cons]
      omega
    rw [List.cons_append, h.spansFrom_missing unmatched', ih, place,
      h.spansFrom_missing fun cut => unmatched _ _ cut]

theorem spans_severed (h : rule.Finds shape) {c : Char} (severs : Severs c shape)
    (p q : List Char) :
    rule.spans (p ++ c :: q) = rule.spans p ++ (rule.spans q).map (·.behind (p.length + 1)) := by
  have scanned : rule.spans (p ++ c :: q) = _ := h.spansFrom_severed severs p q 0
  have shifted := h.spansFrom_add (p.length + 1) 0 q
  rw [scanned, Nat.zero_add, ← Nat.add_zero (p.length + 1), shifted]
  rfl

end Finds

/-! ## The built-in rules -/

theorem Cramped.mem_chars {sign : List Char} (h : Cramped sign) {c : Char} (hc : c ∈ sign) :
    isSpace c ∨ c = '=' := by
  cases h with
  | @before s spaced =>
    have listed : c = '=' ∨ c = s := by simpa using hc
    rcases listed with same | same
    · exact Or.inr same
    · rw [same]
      exact Or.inl spaced
  | @behind s spaced =>
    have listed : c = s ∨ c = '=' := by simpa using hc
    rcases listed with same | same
    · rw [same]
      exact Or.inl spaced
    · exact Or.inr same
  | both => exact Or.inr (List.mem_singleton.1 hc)

theorem Assignment.mem_chars {found : List Char} (h : Assignment found) {c : Char}
    (hc : c ∈ found) : isWordChar c ∨ isSpace c ∨ c = '=' := by
  obtain @⟨s, name, sign, value, spaced, hname, hsign, hvalue⟩ := h
  have keyword : ∀ d ∈ "buffer".toList, isWordChar d := List.all_eq_true.1 (by decide)
  simp only [List.mem_append, List.mem_singleton] at hc
  rcases hc with hc | same | hc | hc | hc
  · exact Or.inl (keyword c hc)
  · rw [same]
    exact Or.inr (Or.inl spaced)
  · exact Or.inl (hname.2 c hc)
  · exact Or.inr (hsign.mem_chars hc)
  · exact Or.inl (hvalue.2 c hc)

theorem severs_assignment {c : Char} (h : Neutral c) :
    Severs c fun found behind => Assignment found ∧ EndsWord behind where
  notMem := by
    intro found behind hshape hc
    have chars := hshape.1.mem_chars hc
    simp [h.word, h.space, h.ne_equals] at chars
  behind_iff := by
    intro found rest later
    have ends : EndsWord (rest ++ c :: later) ↔ EndsWord rest := by
      cases rest with
      | nil => simp [EndsWord, h.word]
      | cons d ds => simp [EndsWord]
    rw [ends]

theorem severs_keyword {c : Char} (h : Neutral c) :
    Severs c fun found _ => found = "if(".toList where
  notMem := by
    intro found behind same hc
    have listed : c = 'i' ∨ c = 'f' ∨ c = '(' := by
      rw [same] at hc
      simpa using hc
    rcases listed with rfl | rfl | rfl
    · exact absurd h.word (by decide)
    · exact absurd h.word (by decide)
    · exact h.ne_paren rfl
  behind_iff := Iff.rfl

theorem exists_severs {rule : PatternRule} (hrule : rule ∈ builtIn) {c : Char} (h : Neutral c) :
    ∃ shape, rule.Finds shape ∧ Stable shape ∧ Severs c shape := by
  rcases mem_builtIn.1 hrule with same | same
  · rw [same]
    exact ⟨_, finds_bufferSpacing, stable_assignment, severs_assignment h⟩
  · rw [same]
    exact ⟨_, finds_ifParenSpacing, stable_keyword, severs_keyword h⟩

/-- The two positions of a match are settled by what stands before its ends. -/
theorem Stable.walk_eq_endOf {shape : List Char → List Char → Prop} (stable : Stable shape)
    (encoding : Encoding) {found behind : List Char} (hshape : shape found behind)
    (before : List Char) :
    LineTable.walk encoding (splitLines (before ++ (found ++ behind))) before.length =
      LineTable.endOf encoding before ∧
    LineTable.walk encoding (splitLines (before ++ (found ++ behind)))
        (before.length + found.length) = LineTable.endOf encoding (before ++ found) := by
  have whole := stable.not_parts_before hshape before
  have joined := not_parts_join whole (stable.not_parts_behind hshape)
  have last := LineTable.walk_append encoding joined
  rw [List.append_assoc, List.length_append] at last
  exact ⟨LineTable.walk_append encoding whole, last⟩

end PatternRule

namespace Engine

open PatternRule

theorem findingOf_severed (engine : Engine) (encoding : Encoding) {rule : PatternRule}
    (hrule : rule ∈ PatternRule.builtIn) {c : Char} (h : Neutral c) {p : List Char} {span : Span}
    (hspan : span ∈ rule.spans p) (q : List Char) :
    engine.findingOf encoding (p ++ c :: q) rule.message span =
      engine.findingOf encoding p rule.message span := by
  obtain ⟨shape, finds, stable, severs⟩ := exists_severs hrule h
  obtain ⟨before, behind, text_eq, hshape, first, last⟩ := finds.mem_spans hspan
  have further : shape span.text (behind ++ c :: q) := severs.behind_iff.2 hshape
  have alone := stable.walk_eq_endOf encoding hshape before
  have within := stable.walk_eq_endOf encoding further before
  have longer : p ++ c :: q = before ++ (span.text ++ (behind ++ c :: q)) := by
    rw [text_eq]
    simp
  simp only [findingOf, first, last]
  rw [longer, within.1, within.2, text_eq, alone.1, alone.2]

theorem result_flatMap (source : String) (encoding : Encoding) (text : List Char) :
    ((builtIn source).validate encoding text).result =
      .ok (PatternRule.builtIn.flatMap fun rule =>
        (rule.spans text).map ((builtIn source).findingOf encoding text rule.message)) := by
  rw [result_toRule rfl, matched, List.map_flatMap]
  simp only [List.map_map, Function.comp_def, spans_eq_hits]

/-- A finding about a text begins among its first characters. -/
def beginsWithin (encoding : Encoding) (text : List Char) (length : Nat) (finding : Finding) : Bool :=
  LineTable.offsetOf encoding (splitLines text) finding.first < length

theorem beginsWithin_findingOf (engine : Engine) (encoding : Encoding) {rule : PatternRule}
    {text : List Char} {span : Span} (h : span ∈ rule.spans text) (length : Nat) :
    beginsWithin encoding text length (engine.findingOf encoding text rule.message span) ↔
      span.first < length := by
  rw [spans_eq_hits] at h
  have cuts := (rule.hits_cuts text).1 span h
  have place := (engine.shows_findingOf encoding rule.message cuts).first_eq
  rw [beginsWithin, place, decide_eq_true_iff]

/-- What a rule finds before the character is what it finds in the text before it. -/
theorem filter_severed (engine : Engine) (encoding : Encoding) {rule : PatternRule}
    (hrule : rule ∈ PatternRule.builtIn) {c : Char} (h : Neutral c) (p q : List Char) :
    ((rule.spans (p ++ c :: q)).map (engine.findingOf encoding (p ++ c :: q) rule.message)).filter
        (beginsWithin encoding (p ++ c :: q) p.length) =
      (rule.spans p).map (engine.findingOf encoding p rule.message) := by
  obtain ⟨shape, finds, -, severs⟩ := exists_severs hrule h
  have spans := finds.spans_severed severs p q
  have begins {span : Span} (hspan : span ∈ rule.spans (p ++ c :: q)) :=
    engine.beginsWithin_findingOf encoding hspan p.length
  rw [spans] at begins ⊢
  rw [List.map_append, List.filter_append]
  have front : ((rule.spans p).map (engine.findingOf encoding (p ++ c :: q) rule.message)).filter
      (beginsWithin encoding (p ++ c :: q) p.length) =
      (rule.spans p).map (engine.findingOf encoding p rule.message) := by
    have same : (rule.spans p).map (engine.findingOf encoding (p ++ c :: q) rule.message) =
        (rule.spans p).map (engine.findingOf encoding p rule.message) := by
      apply List.map_congr_left
      intro span hspan
      exact engine.findingOf_severed encoding hrule h hspan q
    rw [← same]
    apply List.filter_eq_self.2
    intro finding hfinding
    obtain ⟨span, hspan, shown⟩ := List.mem_map.1 hfinding
    rw [← shown]
    apply (begins (List.mem_append_left _ hspan)).2
    rw [spans_eq_hits] at hspan
    have cuts := (rule.hits_cuts p).1 span hspan
    exact Nat.lt_of_lt_of_le cuts.first_lt cuts.last_le
  have back : (((rule.spans q).map (·.behind (p.length + 1))).map
      (engine.findingOf encoding (p ++ c :: q) rule.message)).filter
      (beginsWithin encoding (p ++ c :: q) p.length) = [] := by
    apply List.filter_eq_nil_iff.2
    intro finding hfinding within
    obtain ⟨span, hspan, shown⟩ := List.mem_map.1 hfinding
    rw [← shown] at within
    have early := (begins (List.mem_append_right _ hspan)).1 within
    obtain ⟨inner, -, moved⟩ := List.mem_map.1 hspan
    rw [← moved, Span.behind] at early
    simp only at early
    omega
  rw [front, back, List.append_nil]

end Engine

namespace PatternRule

/-- No built-in rule looks across a neutral character: what it matches in the whole text is what it
matches before the character and then what it matches behind it. So the findings that begin before
the character are those of the text before it, whatever stands behind, and their numbers add up. -/
theorem builtIn_severed (c : Char) (h : Neutral c) (p q : List Char) :
    (∀ rule ∈ builtIn,
      rule.spans (p ++ c :: q) = rule.spans p ++ (rule.spans q).map (·.behind (p.length + 1))) ∧
    ∀ source encoding, ∃ first second whole,
      ((Engine.builtIn source).validate encoding p).result = .ok first ∧
      ((Engine.builtIn source).validate encoding q).result = .ok second ∧
      ((Engine.builtIn source).validate encoding (p ++ c :: q)).result = .ok whole ∧
      whole.filter (Engine.beginsWithin encoding (p ++ c :: q) p.length) = first ∧
      whole.length = first.length + second.length := by
  have severed : ∀ rule ∈ builtIn,
      rule.spans (p ++ c :: q) = rule.spans p ++ (rule.spans q).map (·.behind (p.length + 1)) := by
    intro rule hrule
    obtain ⟨shape, finds, -, severs⟩ := exists_severs hrule h
    exact finds.spans_severed severs p q
  refine ⟨severed, ?_⟩
  intro source encoding
  have result := Engine.result_flatMap source encoding
  refine ⟨_, _, _, result p, result q, result (p ++ c :: q), ?_, ?_⟩
  · rw [List.filter_flatMap]
    apply List.flatMap_congr
    intro rule hrule
    exact Engine.filter_severed _ encoding hrule h p q
  · simp only [List.length_flatMap, List.length_map]
    rw [← List.sum_map_add]
    apply congrArg List.sum
    apply List.map_congr_left
    intro rule hrule
    rw [severed rule hrule, List.length_append, List.length_map]

/-- A value that would go on behind the separator, and a keyword that ends in front of it. -/
theorem builtIn_severed_cut :
    let p := "buffer a=1if".toList
    let q := "(2 if(".toList
    Neutral '\x1c' ∧
    bufferSpacing.spans (p ++ '\x1c' :: q) = [⟨0, 12, p⟩] ∧
    ifParenSpacing.spans (p ++ '\x1c' :: q) = [⟨16, 19, "if(".toList⟩] ∧
    ∃ whole, ((Engine.builtIn "ex").validate .utf16 (p ++ '\x1c' :: q)).result = .ok whole ∧
      whole.length = 2 := by
  intro p q
  have neutral : Neutral '\x1c' := by decide
  obtain ⟨severed, findings⟩ := builtIn_severed '\x1c' neutral p q
  have assignments := severed bufferSpacing (by simp [builtIn])
  have keywords := severed ifParenSpacing (by simp [builtIn])
  obtain ⟨first, second, whole, inFirst, inSecond, inWhole, -, total⟩ := findings "ex" .utf16
  have one : first.length = 1 := by
    rw [Engine.result_flatMap, Except.ok.injEq] at inFirst
    rw [← inFirst]
    rfl
  have other : second.length = 1 := by
    rw [Engine.result_flatMap, Except.ok.injEq] at inSecond
    rw [← inSecond]
    rfl
  refine ⟨neutral, ?_, ?_, whole, inWhole, ?_⟩
  · rw [assignments]
    rfl
  · rw [keywords]
    rfl
  · rw [total, one, other]

end PatternRule

end ScriptAssist
