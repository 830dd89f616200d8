import ScriptAssist.Pattern.Matcher

namespace ScriptAssist.Pattern

/-- A place that is reached from another by passing characters. -/
def Cursor.Reaches (start finish : Cursor) : Prop :=
  ∃ passed, start.rest = passed ++ finish.rest ∧ finish.offset = start.offset + passed.length ∧
    finish.previous = passed.getLast?.or start.previous

namespace Cursor.Reaches

variable {a b c : Cursor}

theorem refl (a : Cursor) : a.Reaches a := ⟨[], rfl, rfl, rfl⟩

theorem trans (hab : a.Reaches b) (hbc : b.Reaches c) : a.Reaches c := by
  obtain ⟨p, rest_ab, offset_ab, previous_ab⟩ := hab
  obtain ⟨q, rest_bc, offset_bc, previous_bc⟩ := hbc
  refine ⟨p ++ q, ?_, ?_, ?_⟩
  · rw [rest_ab, rest_bc, List.append_assoc]
  · rw [offset_bc, offset_ab, List.length_append, Nat.add_assoc]
  · rw [previous_bc, previous_ab, List.getLast?_append, Option.or_assoc]

theorem of_pass? {test : Char → Bool} (h : a.pass? test = some b) : a.Reaches b := by
  unfold Cursor.pass? at h
  split at h
  · contradiction
  · case h_2 d ds rest =>
    split at h
    · obtain rfl : _ = b := Option.some.inj h
      exact ⟨[d], rest, rfl, rfl⟩
    · contradiction

theorem offset_le (h : a.Reaches b) : a.offset ≤ b.offset := by
  obtain ⟨passed, -, offset, -⟩ := h
  omega

end Cursor.Reaches

/-! ## The ends that a pattern offers -/

/-- The ends of exactly `count` rounds, in order of preference. -/
def exactlyEnds (body : Cursor → List Cursor) : Nat → Cursor → List Cursor
  | 0, cursor => [cursor]
  | count + 1, cursor => (body cursor).flatMap (exactlyEnds body count)

/-- The ends of at most `count` rounds, in order of preference. -/
def atMostEnds (body : Cursor → List Cursor) (greedy : Bool) :
    Nat → Option Nat → Cursor → List Cursor
  | 0, _, cursor => [cursor]
  | count + 1, last, cursor =>
    if last = some cursor.offset then [cursor]
    else
      let further := (body cursor).flatMap (atMostEnds body greedy count (some cursor.offset))
      if greedy then further ++ [cursor] else cursor :: further

/-- The ends of a pattern's matches from a place on, in order of preference. -/
def ends (options : Options) : Pattern → Cursor → List Cursor
  | empty, cursor => [cursor]
  | char c, cursor => (cursor.pass? (inRanges options [(c, c)])).toList
  | any, cursor => (cursor.pass? fun c => options.dotAll || c ≠ '\n').toList
  | set negated ranges, cursor =>
    (cursor.pass? fun c => inRanges options ranges c ≠ negated).toList
  | lineStart, cursor => if isLineStart options cursor then [cursor] else []
  | lineEnd, cursor => if isLineEnd options cursor then [cursor] else []
  | seq first second, cursor => (first.ends options cursor).flatMap (second.ends options)
  | alt first second, cursor => first.ends options cursor ++ second.ends options cursor
  | group body, cursor => body.ends options cursor
  | rounds body least most greedy, cursor =>
    (exactlyEnds (body.ends options) least cursor).flatMap fun after =>
      atMostEnds (body.ends options) greedy (spare least most after) none after
  | once body, cursor => (body.ends options cursor).head?.toList
  | ahead positive body, cursor =>
    if (body.ends options cursor).head?.isSome = positive then [cursor] else []

/-- A matcher tries the ends that it offers one after the other. -/
def Offers (matcher : Matcher) (offered : Cursor → List Cursor) : Prop :=
  ∀ cursor next, matcher cursor next = (offered cursor).findSome? next

theorem findSome?_flatMap (cursors : List Cursor) (more : Cursor → List Cursor) (next : Continue) :
    (cursors.flatMap more).findSome? next =
      cursors.findSome? fun cursor => (more cursor).findSome? next := by
  induction cursors with
  | nil => rfl
  | cons cursor cursors ih =>
    rw [List.flatMap_cons, List.findSome?_append, ih, List.findSome?_cons]
    cases (more cursor).findSome? next <;> rfl

theorem offers_exactly {body : Matcher} {offered : Cursor → List Cursor} (h : Offers body offered)
    (count : Nat) : Offers (exactly body count) (exactlyEnds offered count) := by
  induction count with
  | zero =>
    intro cursor next
    simp [exactly, exactlyEnds]
  | succ count ih =>
    intro cursor next
    rw [exactly, exactlyEnds, findSome?_flatMap, h]
    congr 1
    funext after
    exact ih after next

theorem offers_atMost {body : Matcher} {offered : Cursor → List Cursor} (h : Offers body offered)
    (greedy : Bool) (count : Nat) (last : Option Nat) :
    Offers (atMost body greedy count last) (atMostEnds offered greedy count last) := by
  induction count generalizing last with
  | zero =>
    intro cursor next
    simp [atMost, atMostEnds]
  | succ count ih =>
    intro cursor next
    have further : (body cursor fun after =>
        atMost body greedy count (some cursor.offset) after next) =
          ((offered cursor).flatMap
            (atMostEnds offered greedy count (some cursor.offset))).findSome? next := by
      rw [findSome?_flatMap, h]
      congr 1
      funext after
      exact ih (some cursor.offset) after next
    simp only [atMost, atMostEnds, further]
    split
    · simp
    · cases greedy with
      | true => simp [List.findSome?_append]
      | false =>
        simp only [Bool.false_eq_true, if_false, List.findSome?_cons]
        cases next cursor <;> rfl

/-- Backtracking through a pattern is trying its ends in order of preference. -/
theorem offers_run (options : Options) (pattern : Pattern) :
    Offers (pattern.run options) (pattern.ends options) := by
  induction pattern with
  | empty =>
    intro cursor next
    simp [run, ends]
  | char c =>
    intro cursor next
    rw [run, ends]
    cases cursor.pass? (inRanges options [(c, c)]) <;> simp
  | any =>
    intro cursor next
    rw [run, ends]
    cases cursor.pass? fun c => options.dotAll || c ≠ '\n' <;> simp
  | set negated ranges =>
    intro cursor next
    rw [run, ends]
    cases cursor.pass? fun c => inRanges options ranges c ≠ negated <;> simp
  | lineStart =>
    intro cursor next
    rw [run, ends]
    split <;> simp
  | lineEnd =>
    intro cursor next
    rw [run, ends]
    split <;> simp
  | seq first second first_ih second_ih =>
    intro cursor next
    rw [run, ends, findSome?_flatMap, first_ih]
    congr 1
    funext after
    exact second_ih after next
  | alt first second first_ih second_ih =>
    intro cursor next
    rw [run, ends, List.findSome?_append, first_ih, second_ih]
  | group body ih =>
    intro cursor next
    exact ih cursor next
  | rounds body least most greedy ih =>
    intro cursor next
    rw [run, ends, findSome?_flatMap, offers_exactly ih least]
    congr 1
    funext after
    exact offers_atMost ih greedy _ none after next
  | once body ih =>
    intro cursor next
    rw [run, ends, ih]
    cases body.ends options cursor <;> simp
  | ahead positive body ih =>
    intro cursor next
    rw [run, ends, ih]
    cases body.ends options cursor <;> simp <;> split <;> simp

theorem reaches_exactlyEnds {offered : Cursor → List Cursor}
    (h : ∀ cursor, ∀ after ∈ offered cursor, cursor.Reaches after) (count : Nat) (cursor : Cursor) :
    ∀ after ∈ exactlyEnds offered count cursor, cursor.Reaches after := by
  induction count generalizing cursor with
  | zero =>
    intro after hafter
    rw [List.mem_singleton.1 hafter]
    exact .refl cursor
  | succ count ih =>
    intro after hafter
    obtain ⟨middle, hmiddle, hafter⟩ := List.mem_flatMap.1 hafter
    exact (h cursor middle hmiddle).trans (ih middle after hafter)

theorem reaches_atMostEnds {offered : Cursor → List Cursor}
    (h : ∀ cursor, ∀ after ∈ offered cursor, cursor.Reaches after) (greedy : Bool) (count : Nat)
    (last : Option Nat) (cursor : Cursor) :
    ∀ after ∈ atMostEnds offered greedy count last cursor, cursor.Reaches after := by
  induction count generalizing last cursor with
  | zero =>
    intro after hafter
    rw [List.mem_singleton.1 hafter]
    exact .refl cursor
  | succ count ih =>
    intro after hafter
    have further : after ∈ (offered cursor).flatMap
        (atMostEnds offered greedy count (some cursor.offset)) → cursor.Reaches after := by
      intro hafter
      obtain ⟨middle, hmiddle, hafter⟩ := List.mem_flatMap.1 hafter
      exact (h cursor middle hmiddle).trans (ih _ middle after hafter)
    have here : after = cursor ∨ after ∈ (offered cursor).flatMap
        (atMostEnds offered greedy count (some cursor.offset)) := by
      simp only [atMostEnds] at hafter
      split at hafter
      · exact Or.inl (List.mem_singleton.1 hafter)
      · cases greedy with
        | true => simpa [or_comm] using hafter
        | false => simpa using hafter
    rcases here with rfl | hafter
    · exact .refl after
    · exact further hafter

theorem reaches_ends (options : Options) (pattern : Pattern) (cursor : Cursor) :
    ∀ after ∈ pattern.ends options cursor, cursor.Reaches after := by
  have stays (kept : Bool) (cursor : Cursor) :
      ∀ after ∈ (if kept then [cursor] else []), cursor.Reaches after := by
    intro after hafter
    cases kept with
    | true =>
      rw [List.mem_singleton.1 hafter]
      exact .refl cursor
    | false => simp at hafter
  have passes (test : Char → Bool) (cursor : Cursor) :
      ∀ after ∈ (cursor.pass? test).toList, cursor.Reaches after := by
    intro after hafter
    exact .of_pass? (Option.mem_toList.1 hafter)
  induction pattern generalizing cursor with
  | empty => exact stays true cursor
  | char c => exact passes _ cursor
  | any => exact passes _ cursor
  | set negated ranges => exact passes _ cursor
  | lineStart => exact stays _ cursor
  | lineEnd => exact stays _ cursor
  | seq first second first_ih second_ih =>
    intro after hafter
    obtain ⟨middle, hmiddle, hafter⟩ := List.mem_flatMap.1 hafter
    exact (first_ih cursor middle hmiddle).trans (second_ih middle after hafter)
  | alt first second first_ih second_ih =>
    intro after hafter
    rcases List.mem_append.1 hafter with hafter | hafter
    · exact first_ih cursor after hafter
    · exact second_ih cursor after hafter
  | group body ih => exact ih cursor
  | rounds body least most greedy ih =>
    intro after hafter
    obtain ⟨middle, hmiddle, hafter⟩ := List.mem_flatMap.1 hafter
    have first := reaches_exactlyEnds ih least cursor middle hmiddle
    exact first.trans (reaches_atMostEnds ih greedy _ none middle after hafter)
  | once body ih =>
    intro after hafter
    exact ih cursor after (List.mem_of_head? (Option.mem_toList.1 hafter))
  | ahead positive body ih =>
    intro after hafter
    rw [ends] at hafter
    split at hafter
    · exact stays true cursor after hafter
    · simp at hafter

end ScriptAssist.Pattern
