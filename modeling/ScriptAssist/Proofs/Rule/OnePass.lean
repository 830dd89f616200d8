import ScriptAssist.Proofs.Engine.Findings
import ScriptAssist.Proofs.Rule.Breaks
import ScriptAssist.Proofs.Text.Digit

namespace ScriptAssist.PatternRule

open Text Pattern

/-! ## One pass over a text -/

/-- The longest word at the front of a text and what follows it. -/
def splitWord? (text : List Char) : Option (List Char × List Char) :=
  if text.takeWhile isWordChar = [] then none
  else some (text.takeWhile isWordChar, text.dropWhile isWordChar)

/-- The ways to write an equals sign with less than two spaces at it. -/
inductive Separator where
  | bare
  | spaceBehind
  | spaceBefore
  deriving DecidableEq, Repr

namespace Separator

/-- The separator at the front of a text and what follows it. -/
def cut? : Separator → List Char → Option (List Char × List Char)
  | bare, '=' :: rest => some (['='], rest)
  | spaceBehind, '=' :: s :: rest => if isSpace s then some (['=', s], rest) else none
  | spaceBefore, s :: '=' :: rest => if isSpace s then some ([s, '='], rest) else none
  | _, _ => none

/-- The separator with a whole word behind it, and what follows. -/
def withValue? (separator : Separator) (text : List Char) : Option (List Char × List Char) :=
  (separator.cut? text).bind fun (sign, rest) =>
    (splitWord? rest).map fun (value, behind) => (sign ++ value, behind)

def all : List Separator := [bare, spaceBehind, spaceBefore]

end Separator

/-- The assignment at the front of a text, with one of the separators, and what follows it. -/
def splitAssignment? : List Char → Option (List Char × List Char)
  | 'b' :: 'u' :: 'f' :: 'f' :: 'e' :: 'r' :: s :: rest =>
    if isSpace s then
      (splitWord? rest).bind fun (name, rest) =>
        (Separator.all.findSome? (·.withValue? rest)).map fun (assigned, behind) =>
          ("buffer".toList ++ s :: (name ++ assigned), behind)
    else none
  | _ => none

theorem endsWord_dropWhile (text : List Char) : EndsWord (text.dropWhile isWordChar) := by
  intro c hc
  have stops := List.head?_dropWhile_not isWordChar text
  rw [Option.mem_def.1 hc] at stops
  exact stops

theorem splitWord?_eq_some_iff {text word behind : List Char} :
    splitWord? text = some (word, behind) ↔
      text = word ++ behind ∧ IsWord word ∧ EndsWord behind := by
  constructor
  · intro h
    rw [splitWord?] at h
    split at h
    · contradiction
    · case isFalse nonempty =>
      obtain ⟨rfl, rfl⟩ := Prod.mk.inj (Option.some.inj h)
      refine ⟨List.takeWhile_append_dropWhile.symm, ⟨nonempty, ?_⟩, endsWord_dropWhile text⟩
      exact fun c hc => List.mem_takeWhile_imp hc
  · rintro ⟨rfl, ⟨nonempty, all⟩, ends⟩
    rw [splitWord?, takeWhile_run all ends, dropWhile_run all ends, if_neg nonempty]

namespace Separator

theorem cramped_of_cut? {separator : Separator} {text sign rest : List Char}
    (h : separator.cut? text = some (sign, rest)) : Cramped sign ∧ text = sign ++ rest := by
  unfold cut? at h
  split at h
  · obtain ⟨rfl, rfl⟩ := Prod.mk.inj (Option.some.inj h)
    exact ⟨.both, rfl⟩
  · split at h
    · case isTrue spaced =>
      obtain ⟨rfl, rfl⟩ := Prod.mk.inj (Option.some.inj h)
      exact ⟨.before spaced, rfl⟩
    · contradiction
  · split at h
    · case isTrue spaced =>
      obtain ⟨rfl, rfl⟩ := Prod.mk.inj (Option.some.inj h)
      exact ⟨.behind spaced, rfl⟩
    · contradiction
  · contradiction

theorem exists_cut? {sign : List Char} (h : Cramped sign) (rest : List Char) :
    ∃ separator : Separator, separator.cut? (sign ++ rest) = some (sign, rest) := by
  cases h with
  | before spaced => exact ⟨spaceBehind, by simp [cut?, spaced]⟩
  | behind spaced => exact ⟨spaceBefore, by simp [cut?, spaced]⟩
  | both => exact ⟨bare, rfl⟩

theorem withValue?_eq_some_iff {separator : Separator} {text assigned behind : List Char} :
    separator.withValue? text = some (assigned, behind) ↔
      ∃ sign value, separator.cut? text = some (sign, value ++ behind) ∧ IsWord value ∧
        EndsWord behind ∧ assigned = sign ++ value := by
  constructor
  · intro h
    obtain ⟨⟨sign, rest⟩, cut, h⟩ := Option.bind_eq_some_iff.1 h
    obtain ⟨⟨value, left⟩, word, same⟩ := Option.map_eq_some_iff.1 h
    obtain ⟨rfl, hvalue, ends⟩ := splitWord?_eq_some_iff.1 word
    obtain ⟨rfl, rfl⟩ := Prod.mk.inj same
    exact ⟨sign, value, cut, hvalue, ends, rfl⟩
  · rintro ⟨sign, value, cut, hvalue, ends, rfl⟩
    have word := splitWord?_eq_some_iff.2 ⟨rfl, hvalue, ends⟩
    simp only [withValue?, cut, Option.bind_some, word, Option.map_some]

/-- The separator that the two characters at its front allow. -/
def ofChars (c d : Char) : Separator :=
  if c = '=' then if isSpace d then spaceBehind else bare else spaceBefore

theorem eq_ofChars {separator : Separator} {text : List Char}
    (h : (separator.withValue? text).isSome) :
    ∃ c d rest, text = c :: d :: rest ∧ separator = ofChars c d := by
  obtain ⟨⟨assigned, behind⟩, fits⟩ := Option.isSome_iff_exists.1 h
  obtain ⟨sign, value, cut, hvalue, -, -⟩ := withValue?_eq_some_iff.1 fits
  obtain ⟨d, ds, rfl⟩ := List.exists_cons_of_ne_nil hvalue.1
  have word : isSpace d = false := by
    rw [← Bool.not_eq_true]
    intro spaced
    simpa [isWordChar_of_isSpace spaced] using hvalue.2 d (by simp)
  unfold cut? at cut
  split at cut
  · obtain ⟨-, rfl⟩ := Prod.mk.inj (Option.some.inj cut)
    exact ⟨'=', d, _, rfl, by simp [ofChars, word]⟩
  · case h_2 s rest =>
    split at cut
    · case isTrue spaced => exact ⟨'=', s, rest, rfl, by simp [ofChars, spaced]⟩
    · contradiction
  · case h_3 s rest =>
    split at cut
    · case isTrue spaced =>
      have other : s ≠ '=' := by
        rintro rfl
        contradiction
      exact ⟨s, '=', rest, rfl, by simp [ofChars, other]⟩
    · contradiction
  · contradiction

/-- No two separators fit one place, so it does not matter which is tried first. -/
theorem eq_of_withValue? {first second : Separator} {text : List Char}
    (hfirst : (first.withValue? text).isSome) (hsecond : (second.withValue? text).isSome) :
    first = second := by
  obtain ⟨c, d, rest, rfl, rfl⟩ := eq_ofChars hfirst
  obtain ⟨c', d', rest', same, rfl⟩ := eq_ofChars hsecond
  simp only [List.cons.injEq] at same
  rw [same.1, same.2.1]

theorem findSome?_withValue? {text assigned behind : List Char} :
    all.findSome? (·.withValue? text) = some (assigned, behind) ↔
      ∃ sign value, text = sign ++ (value ++ behind) ∧ Cramped sign ∧ IsWord value ∧
        EndsWord behind ∧ assigned = sign ++ value := by
  constructor
  · intro h
    obtain ⟨separator, -, fits⟩ := List.exists_of_findSome?_eq_some h
    obtain ⟨sign, value, cut, hvalue, ends, same⟩ := withValue?_eq_some_iff.1 fits
    obtain ⟨cramped, text_eq⟩ := cramped_of_cut? cut
    exact ⟨sign, value, text_eq, cramped, hvalue, ends, same⟩
  · rintro ⟨sign, value, rfl, cramped, hvalue, ends, rfl⟩
    obtain ⟨separator, cut⟩ := exists_cut? cramped (value ++ behind)
    have fits := withValue?_eq_some_iff.2 ⟨sign, value, cut, hvalue, ends, rfl⟩
    have listed : separator ∈ all := by cases separator <;> decide
    cases found : all.findSome? (·.withValue? (sign ++ (value ++ behind))) with
    | none =>
      have missing := List.findSome?_eq_none_iff.1 found separator listed
      rw [fits] at missing
      contradiction
    | some result =>
      obtain ⟨other, -, fits'⟩ := List.exists_of_findSome?_eq_some found
      have here : (separator.withValue? (sign ++ (value ++ behind))).isSome := by
        rw [fits]
        rfl
      have there : (other.withValue? (sign ++ (value ++ behind))).isSome := by
        rw [fits']
        rfl
      rw [← fits', ← eq_of_withValue? here there, fits]

end Separator

theorem splitAssignment?_eq_some_iff {text found behind : List Char} :
    splitAssignment? text = some (found, behind) ↔
      text = found ++ behind ∧ Assignment found ∧ EndsWord behind := by
  constructor
  · intro h
    unfold splitAssignment? at h
    split at h
    · case h_1 s rest =>
      split at h
      · case isTrue spaced =>
        obtain ⟨⟨name, left⟩, named, h⟩ := Option.bind_eq_some_iff.1 h
        obtain ⟨⟨assigned, last⟩, signed, same⟩ := Option.map_eq_some_iff.1 h
        obtain ⟨rfl, hname, -⟩ := splitWord?_eq_some_iff.1 named
        obtain ⟨sign, value, rfl, hsign, hvalue, ends, rfl⟩ :=
          Separator.findSome?_withValue?.1 signed
        obtain ⟨rfl, rfl⟩ := Prod.mk.inj same
        refine ⟨by simp, ?_, ends⟩
        exact .intro spaced hname hsign hvalue
      · contradiction
    · contradiction
  · rintro ⟨rfl, @⟨s, name, sign, value, spaced, hname, hsign, hvalue⟩, ends⟩
    have named : splitWord? (name ++ (sign ++ (value ++ behind))) =
        some (name, sign ++ (value ++ behind)) :=
      splitWord?_eq_some_iff.2 ⟨rfl, hname, hsign.endsWord _⟩
    have signed : Separator.all.findSome? (·.withValue? (sign ++ (value ++ behind))) =
        some (sign ++ value, behind) :=
      Separator.findSome?_withValue?.2 ⟨sign, value, rfl, hsign, hvalue, ends, rfl⟩
    change splitAssignment?
      ('b' :: 'u' :: 'f' :: 'f' :: 'e' :: 'r' :: s :: (name ++ (sign ++ value) ++ behind)) = _
    rw [List.append_assoc, List.append_assoc, splitAssignment?, if_pos spaced, named]
    simp only [Option.bind_some, signed, Option.map_some]
    rfl

theorem length_behind_lt {text found behind : List Char}
    (h : splitAssignment? text = some (found, behind)) : behind.length < text.length := by
  obtain ⟨rfl, ⟨-, -, -, -⟩, -⟩ := splitAssignment?_eq_some_iff.1 h
  simp only [List.length_append, List.length_cons]
  omega

/-- Scans a text from left to right: an assignment is reported and passed as a whole, any other
character is passed alone. -/
def scanAssignments (offset : Nat) (text : List Char) : List Span :=
  match text with
  | [] => []
  | c :: cs =>
    match h : splitAssignment? (c :: cs) with
    | some (found, behind) =>
      ⟨offset, offset + found.length, found⟩ :: scanAssignments (offset + found.length) behind
    | none => scanAssignments (offset + 1) cs
termination_by text.length
decreasing_by
  · exact length_behind_lt h
  · exact Nat.lt_succ_self cs.length

/-- The offsets at which a text has the keyword with the parenthesis right behind it. -/
def keywordStarts (text : List Char) : List Nat :=
  (List.range text.length).filter fun i => (text.drop i).take 3 = "if(".toList

theorem spansFrom_bufferSpacing (offset : Nat) (text : List Char) :
    bufferSpacing.spansFrom offset text = scanAssignments offset text := by
  fun_induction scanAssignments offset text with
  | case1 => rfl
  | case2 offset c cs found behind h ih =>
    obtain ⟨cut, assignment, ends⟩ := splitAssignment?_eq_some_iff.1 h
    have nonempty : found ≠ [] := by
      obtain ⟨-, -, -, -⟩ := assignment
      simp
    rw [cut, finds_bufferSpacing.spansFrom_found ⟨assignment, ends⟩ nonempty, ih]
  | case3 offset c cs missing ih =>
    rw [← ih]
    apply finds_bufferSpacing.spansFrom_missing
    rintro found behind cut ⟨assignment, ends⟩
    have split := splitAssignment?_eq_some_iff.2 ⟨cut, assignment, ends⟩
    rw [missing] at split
    contradiction

/-! ## The keyword -/

theorem cons_eq_keyword_append {c : Char} {cs : List Char} :
    (∃ found behind, c :: cs = found ++ behind ∧ found = "if(".toList) ↔
      (c :: cs).take 3 = "if(".toList := by
  constructor
  · rintro ⟨found, behind, cut, rfl⟩
    rw [cut]
    rfl
  · intro taken
    refine ⟨(c :: cs).take 3, (c :: cs).drop 3, ?_, taken⟩
    exact (List.take_append_drop 3 (c :: cs)).symm

/-- The keyword has no beginning of itself inside, so the scan may go on by one character even
behind a match. -/
theorem spansFrom_ifParenSpacing_cons (offset : Nat) (c : Char) (cs : List Char) :
    ifParenSpacing.spansFrom offset (c :: cs) =
      (if (c :: cs).take 3 = "if(".toList then [⟨offset, offset + 3, "if(".toList⟩] else []) ++
        ifParenSpacing.spansFrom (offset + 1) cs := by
  have passed {d : Char} (other : d ≠ 'i') (ds : List Char) (offset : Nat) :
      ifParenSpacing.spansFrom offset (d :: ds) = ifParenSpacing.spansFrom (offset + 1) ds := by
    apply finds_ifParenSpacing.spansFrom_missing
    rintro found behind cut rfl
    exact other (List.cons.inj cut).1
  split
  · case isTrue begins =>
    obtain ⟨found, behind, cut, same⟩ := cons_eq_keyword_append.2 begins
    have matched : ifParenSpacing.spansFrom offset (found ++ behind) = _ :=
      finds_ifParenSpacing.spansFrom_found same (by simp [same]) offset
    rw [same] at cut matched
    have cut : c :: cs = 'i' :: 'f' :: '(' :: behind := cut
    obtain ⟨rfl, rfl⟩ := List.cons.inj cut
    rw [passed (show 'f' ≠ 'i' by decide), passed (show '(' ≠ 'i' by decide)]
    exact matched
  · case isFalse other =>
    rw [List.nil_append]
    apply finds_ifParenSpacing.spansFrom_missing
    intro found behind cut same
    exact other (cons_eq_keyword_append.1 ⟨found, behind, cut, same⟩)

theorem keywordStarts_cons (c : Char) (cs : List Char) :
    keywordStarts (c :: cs) =
      (if (c :: cs).take 3 = "if(".toList then [0] else []) ++ (keywordStarts cs).map (· + 1) := by
  rw [keywordStarts, List.length_cons, List.range_succ_eq_map, List.filter_cons, List.filter_map]
  simp only [decide_eq_true_eq, List.drop_zero]
  split
  · rfl
  · rfl

theorem spansFrom_ifParenSpacing (offset : Nat) (text : List Char) :
    ifParenSpacing.spansFrom offset text =
      (keywordStarts text).map fun i => ⟨offset + i, offset + i + 3, "if(".toList⟩ := by
  induction text generalizing offset with
  | nil => rfl
  | cons c cs ih =>
    rw [spansFrom_ifParenSpacing_cons, ih, keywordStarts_cons, List.map_append, List.map_map]
    congr 1
    · split
      · rfl
      · rfl
    · apply List.map_congr_left
      intro i _
      simp only [Function.comp_apply, Nat.add_assoc, Nat.add_comm 1]

/-! ## Texts without a match -/

theorem Finds.ne_nil {rule : PatternRule} {shape : List Char → List Char → Prop}
    (h : rule.Finds shape) {found behind : List Char} (hshape : shape found behind) :
    found ≠ [] := by
  rintro rfl
  have ended := (h 0 none behind 0).2 ⟨[], behind, rfl, hshape, rfl⟩
  rw [endAt?_eq, Option.map_eq_some_iff] at ended
  obtain ⟨after, found, same⟩ := ended
  have moved := moves_nextEnd? found
  simp [same] at moved

/-- The scan does not pass a text of the shape by, unless an earlier match covers its beginning. -/
theorem Finds.spansFrom_ne_nil {rule : PatternRule} {shape : List Char → List Char → Prop}
    (h : rule.Finds shape) {found behind : List Char} (hshape : shape found behind)
    (before : List Char) (offset : Nat) :
    rule.spansFrom offset (before ++ (found ++ behind)) ≠ [] := by
  have begun {found behind : List Char} (hshape : shape found behind) (offset : Nat) :
      rule.spansFrom offset (found ++ behind) ≠ [] := by
    rw [h.spansFrom_found hshape (h.ne_nil hshape)]
    simp
  induction before generalizing offset with
  | nil => exact begun hshape offset
  | cons c before ih =>
    by_cases earlier : ∃ first later, c :: (before ++ (found ++ behind)) = first ++ later ∧
        shape first later
    · obtain ⟨first, later, cut, hfirst⟩ := earlier
      rw [List.cons_append, cut]
      exact begun hfirst offset
    · rw [List.cons_append, h.spansFrom_missing fun cut hfirst => earlier ⟨_, _, cut, hfirst⟩]
      exact ih (offset + 1)

/-- A rule has no match in a text exactly if nothing in it has the shape. -/
theorem Finds.spans_eq_nil_iff {rule : PatternRule} {shape : List Char → List Char → Prop}
    (h : rule.Finds shape) {text : List Char} :
    rule.spans text = [] ↔
      ∀ before found behind, text = before ++ (found ++ behind) → ¬shape found behind := by
  constructor
  · intro none before found behind cut hshape
    rw [cut] at none
    exact h.spansFrom_ne_nil hshape before 0 none
  · intro none
    apply List.eq_nil_iff_forall_not_mem.2
    intro span hspan
    obtain ⟨before, behind, cut, hshape, -, -⟩ := h.mem_spans hspan
    exact none before span.text behind cut hshape

theorem Assignment.append_word {found run : List Char} (h : Assignment found)
    (hrun : ∀ c ∈ run, isWordChar c) : Assignment (found ++ run) := by
  obtain @⟨s, name, sign, value, spaced, hname, hsign, hvalue⟩ := h
  have longer : IsWord (value ++ run) := by
    refine ⟨by simp [hvalue.1], ?_⟩
    intro c hc
    rcases List.mem_append.1 hc with hc | hc
    · exact hvalue.2 c hc
    · exact hrun c hc
  have whole := Assignment.intro spaced hname hsign longer
  simpa only [List.append_assoc] using whole

/-- Where an assignment begins, one with the whole of its value begins. -/
theorem spans_bufferSpacing_eq_nil_iff {text : List Char} :
    bufferSpacing.spans text = [] ↔ ¬∃ found, found <:+: text ∧ Assignment found := by
  rw [finds_bufferSpacing.spans_eq_nil_iff]
  constructor
  · rintro none ⟨found, ⟨before, behind, rfl⟩, assignment⟩
    have run : ∀ c ∈ behind.takeWhile isWordChar, isWordChar c :=
      fun c hc => List.mem_takeWhile_imp hc
    refine none before (found ++ behind.takeWhile isWordChar) _ ?_
      ⟨assignment.append_word run, endsWord_dropWhile behind⟩
    rw [List.append_assoc found, List.takeWhile_append_dropWhile, List.append_assoc]
  · rintro none before found behind rfl ⟨assignment, -⟩
    exact none ⟨found, ⟨before, behind, by simp⟩, assignment⟩

theorem spans_ifParenSpacing_eq_nil_iff {text : List Char} :
    ifParenSpacing.spans text = [] ↔ ¬"if(".toList <:+: text := by
  rw [finds_ifParenSpacing.spans_eq_nil_iff]
  constructor
  · rintro none ⟨before, behind, rfl⟩
    exact none before _ behind (by simp) rfl
  · rintro none before found behind rfl rfl
    exact none ⟨before, behind, by simp⟩

/-- The pattern of a built-in rule is what its written form says. -/
theorem ofWritten_builtIn {rule : PatternRule} (h : rule ∈ builtIn) :
    ofWritten rule.name rule.written rule.message rule.options = .ok rule := by
  have read : Pattern.read rule.written.toList = .ok rule.pattern := by
    obtain rfl | rfl := mem_builtIn.1 h
    · rw [bufferSpacing]
      simp only [String.toList_append]
      decide +kernel
    · decide +kernel
  rw [ofWritten, read]

/-- The built-in rules, written as patterns and run by backtracking, come to one pass over the text:
the first reports each assignment with a cramped equals sign that begins behind the one before it,
the second every place of the keyword with its parenthesis. No two separators fit one place. So
nothing is found exactly in the texts that have neither. -/
theorem builtIn_onePass (text : List Char) :
    (∀ rule ∈ builtIn, ofWritten rule.name rule.written rule.message rule.options = .ok rule) ∧
    builtIn.map (·.spans text) =
      [scanAssignments 0 text,
        (keywordStarts text).map fun i => ⟨i, i + 3, "if(".toList⟩] ∧
    (∀ (first second : Separator) (rest : List Char), (first.withValue? rest).isSome →
      (second.withValue? rest).isSome → first = second) ∧
    ∀ source encoding, ((Engine.builtIn source).validate encoding text).result = .ok [] ↔
      (¬∃ found, found <:+: text ∧ Assignment found) ∧ ¬"if(".toList <:+: text := by
  refine ⟨fun rule => ofWritten_builtIn, ?_, fun _ _ _ => Separator.eq_of_withValue?, ?_⟩
  · have first : bufferSpacing.spans text = scanAssignments 0 text :=
      spansFrom_bufferSpacing 0 text
    have second : ifParenSpacing.spans text =
        (keywordStarts text).map fun i => ⟨i, i + 3, "if(".toList⟩ := by
      have scanned : ifParenSpacing.spans text = _ := spansFrom_ifParenSpacing 0 text
      simpa only [Nat.zero_add] using scanned
    simp only [builtIn, List.map_cons, List.map_nil, first, second]
  · intro source encoding
    rw [Engine.result_toRule rfl, Except.ok.injEq, List.map_eq_nil_iff, Engine.matched,
      ← spans_bufferSpacing_eq_nil_iff, ← spans_ifParenSpacing_eq_nil_iff]
    simp [builtIn, spans_eq_hits]

/-- The value of the first assignment is the keyword of another, which is therefore not found. -/
theorem builtIn_onePass_overlapping :
    let text := "buffer a=buffer b= 1\nif(if(".toList
    builtIn.map (·.spans text) =
      [[⟨0, 15, "buffer a=buffer".toList⟩], [⟨21, 24, "if(".toList⟩, ⟨24, 27, "if(".toList⟩]] ∧
    ((Engine.builtIn "ex").validate .utf16 text).result ≠ .ok [] ∧
    (Separator.bare.withValue? "=buffer b".toList).isSome ∧
    Separator.spaceBehind.withValue? "=buffer b".toList = none := by
  intro text
  obtain ⟨-, spans, unique, empty⟩ := builtIn_onePass text
  have scanned : scanAssignments 0 text = [⟨0, 15, "buffer a=buffer".toList⟩] := by decide +kernel
  have starts : keywordStarts text = [21, 24] := by decide +kernel
  have keyword : "if(".toList <:+: text := ⟨"buffer a=buffer b= 1\nif(".toList, [], by decide⟩
  have fits : (Separator.bare.withValue? "=buffer b".toList).isSome := by decide
  refine ⟨?_, fun none => ((empty "ex" .utf16).1 none).2 keyword, fits, ?_⟩
  · rw [spans, scanned, starts]
    rfl
  · rw [← Option.not_isSome_iff_eq_none]
    intro other
    have same := unique _ _ _ fits other
    contradiction

end ScriptAssist.PatternRule
