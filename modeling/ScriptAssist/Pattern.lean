namespace ScriptAssist

/-- A regular expression with ordered choice. -/
inductive Pattern where
  | empty
  | char (c : Char)
  | any
  | set (negated : Bool) (ranges : List (Char × Char))
  | lineStart
  | lineEnd
  | seq (first second : Pattern)
  | alt (first second : Pattern)
  | group (body : Pattern)
  /-- From `least` to `most` rounds, as many as possible first if `greedy`. -/
  | rounds (body : Pattern) (least : Nat) (most : Option Nat) (greedy : Bool)
  /-- The first way in which the body matches, and no other. -/
  | once (body : Pattern)
  /-- Whether the body matches here, as `positive` says, without moving on. -/
  | ahead (positive : Bool) (body : Pattern)
  deriving DecidableEq, Repr

namespace Pattern

/-- How a pattern is applied. -/
structure Options where
  ignoreCase : Bool := false
  /-- Anchors match at every line feed, not at the ends of the text only. -/
  multiLine : Bool := false
  /-- The any-character pattern matches a line feed too. -/
  dotAll : Bool := false
  deriving DecidableEq, Repr

/-- Reads the options off the bits 2, 8 and 16. -/
def Options.ofFlags (flags : Nat) : Options :=
  ⟨flags.testBit 1, flags.testBit 3, flags.testBit 4⟩

/-- One pattern after the other. -/
def sequence : List Pattern → Pattern
  | [] => empty
  | [item] => item
  | item :: items => seq item (sequence items)

/-- The first pattern that matches. -/
def choice : List Pattern → Pattern
  | [] => empty
  | [branch] => branch
  | branch :: branches => alt branch (choice branches)

end Pattern

end ScriptAssist
