import ScriptAssist.Pattern.Matcher

namespace ScriptAssist

/-- A compiled expression of any make, known by the match that it prefers at each place of a text:
what stands before the place and behind it may both matter. -/
structure Expression where
  /-- The end of the preferred match that begins at `start`. Of the matches that begin there only
  those that are not empty count if the scan must be `moving` on. -/
  endAt? : (text : List Char) → (start : Nat) → (moving : Bool) → Option Nat
  start_le {text : List Char} {start last : Nat} {moving : Bool} :
    endAt? text start moving = some last → start ≤ last
  last_le {text : List Char} {start last : Nat} {moving : Bool} :
    endAt? text start moving = some last → last ≤ text.length
  moves {text : List Char} {start last : Nat} :
    endAt? text start true = some last → start < last

namespace Expression

open Pattern (Span)

/-- Every match from a place on, the empty ones too. The next match is sought where the one before
it ended, and is not empty there if that one was. -/
def everyMatch (expression : Expression) (text : List Char) (start : Nat) (moving : Bool) :
    List Span :=
  match _h : expression.endAt? text start moving with
  | some last =>
    ⟨start, last, (text.drop start).take (last - start)⟩ ::
      expression.everyMatch text last (last = start)
  | none => if start < text.length then expression.everyMatch text (start + 1) false else []
termination_by (text.length - start, if moving then 0 else 1)
decreasing_by
  · have forward := expression.start_le _h
    have inside := expression.last_le _h
    -- An empty match stays where it is, but then the next one has to move.
    by_cases stays : last = start
    · cases moving with
      | true =>
        have moved := expression.moves _h
        omega
      | false =>
        rw [stays]
        exact Prod.Lex.right _ (by simp)
    · exact Prod.Lex.left _ _ (by omega)
  · exact Prod.Lex.left _ _ (by omega)

/-- The matches of an expression from left to right, without the empty ones. -/
def spans (expression : Expression) (text : List Char) : List Span :=
  (expression.everyMatch text 0 false).filter fun span => span.first ≠ span.last

end Expression

end ScriptAssist
