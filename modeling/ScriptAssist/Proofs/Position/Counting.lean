import ScriptAssist.Proofs.Position.Prefix

namespace ScriptAssist

open Text

namespace Text

/-- The characters that end a line for a client: the line feed and the carriage return. -/
def isClientBreak (c : Char) : Bool := c = '\n' || c = '\r'

theorem isBreak_of_isClientBreak {c : Char} (h : isClientBreak c) : isBreak c := by
  simp only [isClientBreak, Bool.or_eq_true, decide_eq_true_eq] at h
  rcases h with same | same
  · rw [same]
    decide
  · rw [same]
    decide

/-- The character at an index is the end of a line break: it is one of the breaks, and no carriage
return with its line feed behind it. -/
def closesBreak (breaks : Char → Bool) (text : List Char) (i : Nat) : Bool :=
  text[i]?.any breaks && !(text[i]? = some '\r' && text[i + 1]? = some '\n')

/-- The offsets up to a given one at which a line break ends. -/
def breakEnds (breaks : Char → Bool) (text : List Char) (offset : Nat) : List Nat :=
  ((List.range offset).filter (closesBreak breaks text)).map (· + 1)

theorem closesBreak_iff {breaks : Char → Bool} {text : List Char} {i : Nat} :
    closesBreak breaks text i ↔
      ∃ c, text[i]? = some c ∧ breaks c ∧ ¬(c = '\r' ∧ text[i + 1]? = some '\n') := by
  cases found : text[i]? with
  | none => simp [closesBreak, found]
  | some c => simp [closesBreak, found, imp_iff_not_or]

theorem closesBreak_zero (breaks : Char → Bool) (c : Char) (cs : List Char) :
    closesBreak breaks (c :: cs) 0 = (breaks c && !decide (Parts [c] cs)) := by
  simp [closesBreak, Parts, List.head?_eq_getElem?]

theorem closesBreak_succ (breaks : Char → Bool) (c : Char) (cs : List Char) (i : Nat) :
    closesBreak breaks (c :: cs) (i + 1) = closesBreak breaks cs i := by
  simp [closesBreak]

theorem breakEnds_cons (breaks : Char → Bool) (c : Char) (cs : List Char) (offset : Nat) :
    breakEnds breaks (c :: cs) (offset + 1) =
      (if closesBreak breaks (c :: cs) 0 then [1] else []) ++
        (breakEnds breaks cs offset).map (· + 1) := by
  have later : closesBreak breaks (c :: cs) ∘ Nat.succ = closesBreak breaks cs := by
    funext i
    exact closesBreak_succ breaks c cs i
  rw [breakEnds, List.range_succ_eq_map, List.filter_cons, List.filter_map, later, breakEnds]
  split <;> simp

theorem breakEnds_congr {breaks other : Char → Bool} {text : List Char} {offset : Nat}
    (h : ∀ c ∈ text.take offset, breaks c = other c) :
    breakEnds breaks text offset = breakEnds other text offset := by
  rw [breakEnds, breakEnds]
  congr 1
  apply List.filter_congr
  intro i hi
  rw [List.mem_range] at hi
  cases found : text[i]? with
  | none => simp [closesBreak, found]
  | some c =>
    have taken : c ∈ text.take offset := by
      apply List.mem_of_getElem? (i := i)
      rwa [List.getElem?_take_of_lt hi]
    simp [closesBreak, found, h c taken]

/-- If there are as many ends of a few of the breaks as of all, they are the same. -/
theorem closesBreak_of_length_eq {few all : Char → Bool} (among : ∀ c, few c → all c)
    {text : List Char} {offset : Nat}
    (h : (breakEnds all text offset).length = (breakEnds few text offset).length)
    {i : Nat} (hi : i < offset) (closes : closesBreak all text i) : closesBreak few text i := by
  have cut : (List.range offset).filter (closesBreak few text) =
      ((List.range offset).filter (closesBreak all text)).filter (closesBreak few text) := by
    rw [List.filter_filter]
    apply List.filter_congr
    intro j _
    rw [Bool.eq_iff_iff, Bool.and_eq_true]
    refine ⟨fun closed => ⟨closed, ?_⟩, And.left⟩
    obtain ⟨c, found, hc, alone⟩ := closesBreak_iff.1 closed
    exact closesBreak_iff.2 ⟨c, found, among c hc, alone⟩
  have member : i ∈ (List.range offset).filter (closesBreak all text) :=
    List.mem_filter.2 ⟨List.mem_range.2 hi, closes⟩
  by_contra missing
  have fewer := List.length_filter_lt_length_iff_exists.2 ⟨i, member, missing⟩
  rw [← cut] at fewer
  simp only [breakEnds, List.length_map] at h
  omega

end Text

namespace LineTable

/-- The position of an offset by counting: one line for each break that ends at or before the
offset, and the code units since the last of them. -/
def counted (breaks : Char → Bool) (encoding : Encoding) (text : List Char) (offset : Nat) :
    Position :=
  let ends := breakEnds breaks text offset
  ⟨ends.length, encoding.width ((text.take offset).drop (ends.getLast?.getD 0))⟩

theorem counted_zero (breaks : Char → Bool) (encoding : Encoding) (text : List Char) :
    counted breaks encoding text 0 = ⟨0, 0⟩ := rfl

theorem counted_closed {breaks : Char → Bool} (encoding : Encoding) {c : Char} {cs : List Char}
    (h : closesBreak breaks (c :: cs) 0) (offset : Nat) :
    counted breaks encoding (c :: cs) (offset + 1) =
      (counted breaks encoding cs offset).below := by
  have start : ((breakEnds breaks cs offset).getLast?.map (· + 1)).getD 1 =
      (breakEnds breaks cs offset).getLast?.getD 0 + 1 := by
    cases (breakEnds breaks cs offset).getLast? <;> rfl
  simp only [counted, breakEnds_cons, if_pos h, List.singleton_append, List.length_cons,
    List.length_map, List.getLast?_cons, List.getLast?_map, Option.getD_some, start,
    List.take_succ_cons, List.drop_succ_cons, Position.below]

theorem counted_open {breaks : Char → Bool} (encoding : Encoding) {c : Char} {cs : List Char}
    (h : closesBreak breaks (c :: cs) 0 = false) (offset : Nat) :
    counted breaks encoding (c :: cs) (offset + 1) =
      (counted breaks encoding cs offset).indented (encoding.units c) := by
  simp only [counted, breakEnds_cons, h, Bool.false_eq_true, if_false, List.nil_append,
    List.length_map, List.getLast?_map, Position.indented, List.length_eq_zero_iff]
  split
  · case isTrue empty => simp [empty]
  · case isFalse filled =>
    rw [List.getLast?_eq_some_getLast filled]
    simp

theorem indented_below (position : Position) (units : Nat) :
    position.below.indented units = position.below := by
  simp [Position.below, Position.indented]

/-- A carriage return does not close a break if its line feed follows, so up to the line feed it
counts as a character of its line. -/
theorem counted_pair (encoding : Encoding) (cs : List Char) :
    counted isBreak encoding ('\r' :: '\n' :: cs) 1 = ⟨0, encoding.units '\r'⟩ ∧
    ∀ offset, counted isBreak encoding ('\r' :: '\n' :: cs) (offset + 2) =
      (counted isBreak encoding cs offset).below := by
  have first : closesBreak isBreak ('\r' :: '\n' :: cs) 0 = false := by
    simp [closesBreak_zero, Parts]
  have second : closesBreak isBreak ('\n' :: cs) 0 := by
    simp [closesBreak_zero, Parts, isBreak]
  constructor
  · rw [counted_open encoding first, counted_zero]
    rfl
  · intro offset
    rw [counted_open encoding first, counted_closed encoding second, indented_below]

/-- To walk over the lines comes to the same as to count the breaks. -/
theorem walk_eq_counted (encoding : Encoding) {text : List Char} {offset : Nat}
    (h : offset ≤ text.length) :
    walk encoding (splitLines text) offset = counted isBreak encoding text offset := by
  fun_induction joinBreaks text generalizing offset with
  | case1 cs ih =>
    obtain ⟨inside, behind⟩ := counted_pair encoding cs
    cases offset with
    | zero => exact walk_zero encoding (lines_splitLines _)
    | succ offset =>
      cases offset with
      | zero =>
        rw [inside, splitLines, walk_of_lt encoding (by simp)]
        simp
      | succ offset => rw [behind, walk_pair encoding, ih (by simpa using h)]
  | case2 c cs unpaired ih =>
    have single := not_parts_head unpaired
    cases offset with
    | zero => exact walk_zero encoding (lines_splitLines _)
    | succ offset =>
      have later := ih (show offset ≤ cs.length by simpa using h)
      cases hc : isBreak c with
      | true =>
        have closes : closesBreak isBreak (c :: cs) 0 := by simp [closesBreak_zero, hc, single]
        rw [counted_closed encoding closes, walk_break encoding single hc, later]
      | false =>
        have stays : closesBreak isBreak (c :: cs) 0 = false := by simp [closesBreak_zero, hc]
        rw [counted_open encoding stays, walk_other encoding hc, later]
  | case3 =>
    have zero : offset = 0 := by simpa using h
    rw [zero]
    rfl

/-- Counting all breaks and counting those of a client differ as soon as a break is passed that a
client does not know. -/
theorem counted_eq_iff (encoding : Encoding) {text : List Char} {offset : Nat} :
    counted isBreak encoding text offset = counted isClientBreak encoding text offset ↔
      ∀ c ∈ text.take offset, isBreak c → isClientBreak c := by
  constructor
  · intro same c hc broken
    obtain ⟨i, bound, found⟩ := List.mem_take_iff_getElem.1 hc
    have here : text[i]? = some c := List.getElem?_eq_some_iff.2 ⟨by omega, found⟩
    by_cases isReturn : c = '\r'
    · rw [isReturn]
      rfl
    · -- Any other break closes itself, so it must be among those that a client counts.
      have closes := closesBreak_iff.2 ⟨c, here, broken, fun pair => isReturn pair.1⟩
      have client := closesBreak_of_length_eq (fun _ => isBreak_of_isClientBreak)
        (congrArg Position.line same) (show i < offset by omega) closes
      obtain ⟨d, there, known, -⟩ := closesBreak_iff.1 client
      rw [here, Option.some.injEq] at there
      rwa [there]
  · intro known
    have ends : breakEnds isBreak text offset = breakEnds isClientBreak text offset := by
      apply breakEnds_congr
      intro c hc
      exact Bool.eq_iff_iff.2 ⟨known c hc, isBreak_of_isClientBreak⟩
    rw [counted, counted, ends]

/-- The line of a position is the number of breaks that end at or before the offset, and its
character the number of code units since the last of them. Every break counts, so it is the position
for a client exactly if no other break than those of a client has been passed. -/
theorem position_counted (text : List Char) (encoding : Encoding) {offset : Nat}
    (h : offset ≤ text.length) :
    (ofText text).position encoding offset = .ok (counted isBreak encoding text offset) ∧
    ((ofText text).position encoding offset = .ok (counted isClientBreak encoding text offset) ↔
      ∀ c ∈ text.take offset, isBreak c → isClientBreak c) := by
  have found := position_ofText encoding h
  rw [walk_eq_counted encoding h] at found
  refine ⟨found, ?_⟩
  rw [found, Except.ok.injEq]
  exact counted_eq_iff encoding

/-- A pair of breaks, a carriage return of its own and a wide character. -/
theorem position_counted_known :
    (ofText "a\r\nb\r😀c".toList).position .utf16 6 = .ok ⟨2, 2⟩ := by
  have known : ∀ c ∈ "a\r\nb\r😀c".toList.take 6, isBreak c → isClientBreak c := by
    simp [isBreak, isClientBreak]
  exact (position_counted "a\r\nb\r😀c".toList .utf16 (show 6 ≤ _ by decide)).2.2 known

/-- A form feed is a break of its own here, and none for a client. -/
theorem position_formFeed :
    (ofText "a\x0cb".toList).position .utf16 3 = .ok ⟨1, 1⟩ ∧
    counted isClientBreak .utf16 "a\x0cb".toList 3 = ⟨0, 3⟩ := by
  have found := position_ofText .utf16 (show 3 ≤ "a\x0cb".toList.length by decide)
  exact ⟨found.trans (by decide), by decide⟩

end LineTable

end ScriptAssist
