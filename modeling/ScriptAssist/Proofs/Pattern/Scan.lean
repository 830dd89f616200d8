import Mathlib.Data.List.Find
import ScriptAssist.Pattern.Expression
import ScriptAssist.Proofs.Pattern.Ends

namespace ScriptAssist

/-! ## Scanning with any expression -/

/-- A piece of a text that is not empty. -/
structure Pattern.Span.Cuts (text : List Char) (span : Pattern.Span) : Prop where
  first_lt : span.first < span.last
  last_le : span.last ≤ text.length
  text_eq : span.text = (text.drop span.first).take (span.last - span.first)

namespace Expression

/-- A scan goes forward: no match begins before the place from which it was sought, and none before
the end of the match before it. -/
theorem everyMatch_ascends (expression : Expression) (text : List Char) (start : Nat)
    (moving : Bool) :
    (∀ span ∈ expression.everyMatch text start moving,
      start ≤ span.first ∧ (span.first ≠ span.last → span.Cuts text)) ∧
    (expression.everyMatch text start moving).Pairwise
      fun earlier later => earlier.last ≤ later.first := by
  fun_induction everyMatch expression text start moving with
  | case1 start moving last found ih =>
    have forward := expression.start_le found
    constructor
    · intro span hspan
      rcases List.mem_cons.1 hspan with rfl | hspan
      · refine ⟨Nat.le_refl _, fun moved => ⟨?_, expression.last_le found, rfl⟩⟩
        exact Nat.lt_of_le_of_ne forward moved
      · exact ⟨Nat.le_trans forward (ih.1 span hspan).1, (ih.1 span hspan).2⟩
    · exact List.pairwise_cons.2 ⟨fun span hspan => (ih.1 span hspan).1, ih.2⟩
  | case2 start moving missing less ih =>
    refine ⟨fun span hspan => ⟨?_, (ih.1 span hspan).2⟩, ih.2⟩
    exact Nat.le_of_succ_le (ih.1 span hspan).1
  | case3 => simp

theorem spans_cuts (expression : Expression) (text : List Char) :
    (∀ span ∈ expression.spans text, span.Cuts text) ∧
    (expression.spans text).Pairwise fun earlier later => earlier.last ≤ later.first := by
  obtain ⟨inside, apart⟩ := expression.everyMatch_ascends text 0 false
  refine ⟨?_, apart.filter _⟩
  intro span hspan
  obtain ⟨hspan, moved⟩ := List.mem_filter.1 hspan
  exact (inside span hspan).2 (by simpa using moved)

end Expression

namespace Pattern

/-! ## Patterns as expressions -/

/-- The end of the preferred match that begins at the cursor. If the match before it was empty and
ended here, it must be `moving` on. -/
def nextEnd? (pattern : Pattern) (options : Options) (moving : Bool) (cursor : Cursor) :
    Option Cursor :=
  pattern.run options cursor fun after =>
    if moving ∧ after.offset = cursor.offset then none else some after

theorem nextEnd?_eq_find? (pattern : Pattern) (options : Options) (moving : Bool)
    (cursor : Cursor) :
    pattern.nextEnd? options moving cursor =
      (pattern.ends options cursor).find? fun after =>
        !(moving && decide (after.offset = cursor.offset)) := by
  rw [nextEnd?, offers_run, ← List.findSome?_guard]
  congr 1
  funext after
  by_cases stays : moving ∧ after.offset = cursor.offset
  · simp [Option.guard, stays]
  · simp [Option.guard, stays]

theorem reaches_nextEnd? {pattern : Pattern} {options : Options} {moving : Bool}
    {cursor after : Cursor} (h : pattern.nextEnd? options moving cursor = some after) :
    cursor.Reaches after := by
  rw [nextEnd?_eq_find?] at h
  exact reaches_ends options pattern cursor after (List.mem_of_find?_eq_some h)

theorem moves_nextEnd? {pattern : Pattern} {options : Options} {cursor after : Cursor}
    (h : pattern.nextEnd? options true cursor = some after) : cursor.offset < after.offset := by
  have forward := (reaches_nextEnd? h).offset_le
  rw [nextEnd?_eq_find?] at h
  have moved := List.find?_some h
  simp only [Bool.true_and, Bool.not_eq_true', decide_eq_false_iff_not] at moved
  omega

theorem Cursor.Reaches.length_rest {a b : Cursor} (h : a.Reaches b) :
    a.rest.length + a.offset = b.rest.length + b.offset := by
  obtain ⟨passed, rest, offset, -⟩ := h
  rw [rest, List.length_append]
  omega

/-- The place so many characters into a text. -/
def Cursor.into (text : List Char) (start : Nat) : Cursor :=
  ⟨start, (text.take start).getLast?, text.drop start⟩

/-- What is reached from a place in a text is a place in it too. -/
theorem Cursor.Reaches.into {text : List Char} {start : Nat} {after : Cursor}
    (h : (Cursor.into text start).Reaches after) (within : start ≤ text.length) :
    after = .into text after.offset ∧ after.offset ≤ text.length := by
  have balance := h.length_rest
  obtain ⟨passed, rest, offset, previous⟩ := h
  obtain ⟨last, character, behind⟩ := after
  simp only [Cursor.into, List.length_drop] at rest offset previous balance
  subst offset
  have taken : text.take (start + passed.length) = text.take start ++ passed := by
    rw [List.take_add, rest, List.take_left]
  have dropped : text.drop (start + passed.length) = behind := by
    rw [← List.drop_drop, rest, List.drop_left]
  refine ⟨?_, by simp only; omega⟩
  rw [Cursor.into, taken, dropped, previous, List.getLast?_append]

/-- A pattern as an expression. -/
def expression (pattern : Pattern) (options : Options) : Expression where
  endAt? text start moving :=
    if start ≤ text.length then
      (pattern.nextEnd? options moving (.into text start)).map Cursor.offset
    else none
  start_le := by
    intro text start last moving found
    simp only [Option.ite_none_right_eq_some, Option.map_eq_some_iff] at found
    obtain ⟨-, after, found, rfl⟩ := found
    exact (reaches_nextEnd? found).offset_le
  last_le := by
    intro text start last moving found
    simp only [Option.ite_none_right_eq_some, Option.map_eq_some_iff] at found
    obtain ⟨within, after, found, rfl⟩ := found
    exact ((reaches_nextEnd? found).into within).2
  moves := by
    intro text start last found
    simp only [Option.ite_none_right_eq_some, Option.map_eq_some_iff] at found
    obtain ⟨-, after, found, rfl⟩ := found
    exact moves_nextEnd? found

theorem nextEnd?_of_endAt? {pattern : Pattern} {options : Options} {text : List Char}
    {start last : Nat} {moving : Bool}
    (h : (pattern.expression options).endAt? text start moving = some last) :
    pattern.nextEnd? options moving (.into text start) = some (.into text last) ∧
      last ≤ text.length := by
  simp only [expression, Option.ite_none_right_eq_some, Option.map_eq_some_iff] at h
  obtain ⟨within, after, found, rfl⟩ := h
  obtain ⟨same, inside⟩ := (reaches_nextEnd? found).into within
  exact ⟨by rw [← same, found], inside⟩

theorem nextEnd?_of_endAt?_none {pattern : Pattern} {options : Options} {text : List Char}
    {start : Nat} {moving : Bool} (within : start ≤ text.length)
    (h : (pattern.expression options).endAt? text start moving = none) :
    pattern.nextEnd? options moving (.into text start) = none := by
  simpa [expression, within] using h

theorem endAt?_eq (pattern : Pattern) (options : Options) (cursor : Cursor) :
    pattern.endAt? options cursor =
      (pattern.nextEnd? options true cursor).map Cursor.offset := by
  have guarded : (fun after : Cursor => if cursor.offset < after.offset then some after else none) =
      Option.guard fun after => decide (cursor.offset < after.offset) := by
    funext after
    simp [Option.guard]
  rw [endAt?, offers_run, guarded, List.findSome?_guard, nextEnd?_eq_find?]
  congr 1
  apply List.find?_congr
  intro after hafter
  have forward := (reaches_ends options pattern cursor after hafter).offset_le
  by_cases stays : after.offset = cursor.offset
  · simp [stays]
  · have moved : cursor.offset < after.offset := by omega
    simp [stays, moved]

/-- If the preferred match moves on, it is also the preferred one of those that do. -/
theorem nextEnd?_of_moved {pattern : Pattern} {options : Options} {moving : Bool}
    {cursor after : Cursor} (h : pattern.nextEnd? options moving cursor = some after)
    (moved : after.offset ≠ cursor.offset) : pattern.nextEnd? options true cursor = some after := by
  cases moving with
  | true => exact h
  | false =>
    rw [nextEnd?_eq_find?] at h ⊢
    cases hends : pattern.ends options cursor with
    | nil => simp [hends] at h
    | cons first others =>
      have same : first = after := by simpa [hends] using h
      simp [same, moved]

theorem nextEnd?_of_none {pattern : Pattern} {options : Options} {moving : Bool} {cursor : Cursor}
    (h : pattern.nextEnd? options moving cursor = none) :
    pattern.nextEnd? options true cursor = none := by
  cases moving with
  | true => exact h
  | false =>
    rw [nextEnd?_eq_find?] at h ⊢
    have none : pattern.ends options cursor = [] := by
      apply List.eq_nil_iff_forall_not_mem.2
      simpa using h
    rw [none]
    rfl

theorem scanFrom_skip (pattern : Pattern) (options : Options) (passed rest : List Char)
    (offset : Nat) (previous : Option Char) :
    pattern.scanFrom options passed.length offset previous (passed ++ rest) =
      pattern.scanFrom options 0 (offset + passed.length) (passed.getLast?.or previous) rest := by
  induction passed generalizing offset previous with
  | nil => rfl
  | cons c cs ih =>
    rw [List.length_cons, List.cons_append, scanFrom, ih, List.getLast?_cons, Nat.add_assoc,
      Nat.add_comm 1]
    cases cs.getLast? <;> rfl

/-- The scan goes on where a match ends. -/
theorem scanFrom_found {pattern : Pattern} {options : Options} {cursor after : Cursor}
    (h : pattern.nextEnd? options true cursor = some after) :
    pattern.scanFrom options 0 cursor.offset cursor.previous cursor.rest =
      ⟨cursor.offset, after.offset, cursor.rest.take (after.offset - cursor.offset)⟩ ::
        pattern.scanFrom options 0 after.offset after.previous after.rest := by
  have moved := moves_nextEnd? h
  obtain ⟨passed, rest, offset, previous⟩ := reaches_nextEnd? h
  obtain ⟨start, before, text⟩ := cursor
  cases passed with
  | nil => simp at offset moved; omega
  | cons c cs =>
    simp only [List.cons_append, List.length_cons] at rest offset previous moved ⊢
    subst rest
    have found : pattern.endAt? options ⟨start, before, c :: (cs ++ after.rest)⟩ =
        some after.offset := by
      rw [endAt?_eq, h]
      rfl
    have skipped := scanFrom_skip pattern options cs after.rest (start + 1) (some c)
    have last : start + 1 + cs.length = after.offset := by omega
    have character : cs.getLast?.or (some c) = after.previous := by
      rw [previous, List.getLast?_cons]
      cases cs.getLast? <;> rfl
    have length : after.offset - start - 1 = cs.length := by omega
    rw [last, character] at skipped
    simp only [scanFrom, found, length, skipped]

/-- The scan keeps every match that is not empty and no other. -/
theorem filter_everyMatch (pattern : Pattern) (options : Options) (text : List Char) (start : Nat)
    (moving : Bool) (within : start ≤ text.length) :
    ((pattern.expression options).everyMatch text start moving).filter
        (fun span => span.first ≠ span.last) =
      pattern.scanFrom options 0 start (text.take start).getLast? (text.drop start) := by
  fun_induction Expression.everyMatch (pattern.expression options) text start moving with
  | case1 start moving last found ih =>
    obtain ⟨reached, inside⟩ := nextEnd?_of_endAt? found
    -- After an empty match the scan seeks on from the same place, now for a match that moves.
    by_cases stays : last = start
    · rw [List.filter_cons_of_neg (by simp [stays]), ih inside, stays]
    · rw [List.filter_cons_of_pos (by simpa using Ne.symm stays), ih inside]
      exact (scanFrom_found (nextEnd?_of_moved reached stays)).symm
  | case2 start moving missing less ih =>
    have ends := nextEnd?_of_none (nextEnd?_of_endAt?_none within missing)
    obtain ⟨c, cs, rest⟩ : ∃ c cs, text.drop start = c :: cs :=
      List.exists_cons_of_ne_nil (by simpa using less)
    have missing : pattern.endAt? options ⟨start, (text.take start).getLast?, c :: cs⟩ = none := by
      rw [← rest, endAt?_eq]
      exact Option.map_eq_none_iff.2 ends
    have taken : text.take (start + 1) = text.take start ++ [c] := by
      rw [List.take_add, rest]
      rfl
    have dropped : text.drop (start + 1) = cs := by
      rw [← List.drop_drop, rest]
      rfl
    rw [ih less, rest, scanFrom, missing, taken, dropped, List.getLast?_concat]
  | case3 start moving missing behind =>
    rw [List.drop_eq_nil_of_le (Nat.le_of_not_lt behind)]
    rfl

theorem scan_eq_spans (pattern : Pattern) (options : Options) (text : List Char) :
    pattern.scan options text = (pattern.expression options).spans text :=
  (filter_everyMatch pattern options text 0 false (Nat.zero_le _)).symm

end Pattern

end ScriptAssist
