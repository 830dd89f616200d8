namespace ScriptAssist.Text

/-- How a client counts the characters of a line. -/
inductive Encoding where
  | utf8
  | utf16
  | utf32
  deriving DecidableEq, Repr

namespace Encoding

/-- The encoding of a name; an unknown name counts as UTF-16. -/
def ofName (name : String) : Encoding :=
  if name = "utf-8" then .utf8 else if name = "utf-32" then .utf32 else .utf16

/-- The number of code units of one character. -/
def units : Encoding → Char → Nat
  | .utf8, c =>
    if c.toNat < 0x80 then 1 else if c.toNat < 0x800 then 2 else if c.toNat < 0x10000 then 3 else 4
  | .utf16, c => if c.toNat < 0x10000 then 1 else 2
  | .utf32, _ => 1

/-- The number of code units of a text. -/
def width (encoding : Encoding) : List Char → Nat
  | [] => 0
  | c :: cs => encoding.units c + encoding.width cs

theorem units_pos (encoding : Encoding) (c : Char) : 0 < encoding.units c := by
  cases encoding <;> simp only [units] <;> (repeat' split) <;> decide

@[simp] theorem width_nil (encoding : Encoding) : encoding.width [] = 0 := rfl

@[simp] theorem width_cons (encoding : Encoding) (c : Char) (cs : List Char) :
    encoding.width (c :: cs) = encoding.units c + encoding.width cs := rfl

@[simp] theorem width_append (encoding : Encoding) (as bs : List Char) :
    encoding.width (as ++ bs) = encoding.width as + encoding.width bs := by
  induction as with
  | nil => simp
  | cons c cs ih => simp [ih, Nat.add_assoc]

end Encoding

end ScriptAssist.Text
