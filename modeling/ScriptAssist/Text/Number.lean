import ScriptAssist.Text.Line
import ScriptAssist.Text.Quoted

namespace ScriptAssist.Text

/-- Why a run of digits denotes no number, or a number is not written. -/
inductive NumberFault where
  /-- More decimal digits than `digitLimit` stand at its start. -/
  | tooLong (digits : Nat)
  /-- One of its digits is not decimal. -/
  | notDecimal (run : List Char)
  /-- The number has more decimal digits than `digitLimit`. -/
  | tooLarge
  deriving DecidableEq, Repr

/-- The literal of a faulty run is cut after two hundred characters. -/
def NumberFault.message : NumberFault → String
  | .tooLong digits =>
    s!"Exceeds the limit ({digitLimit} digits) for integer string conversion: value has " ++
      s!"{digits} digits; use sys.set_int_max_str_digits() to increase the limit"
  | .notDecimal run =>
    "invalid literal for int() with base 10: " ++ String.ofList ((quotedChars run).take 200)
  | .tooLarge =>
    s!"Exceeds the limit ({digitLimit} digits) for integer string conversion; use " ++
      "sys.set_int_max_str_digits() to increase the limit"

/-- Reads a run of digits. The decimal digits at its start are counted against the limit before the
rest of the run is looked at. -/
def readNumber (run : List Char) : Except NumberFault Nat :=
  let decimals := run.takeWhile isDecimal
  if digitLimit < decimals.length then .error (.tooLong decimals.length)
  else if decimals.length = run.length then .ok (decimalNumber run)
  else .error (.notDecimal run)

/-- The integer that a text writes: decimal digits of any script with single underscores between
them, a sign in front, and blanks around all of it. -/
def integer? (text : String) : Option Int :=
  let (negative, digits) := match trim text.toList with
    | '-' :: cs => (true, cs)
    | '+' :: cs => (false, cs)
    | cs => (false, cs)
  match digitRun? isDecimal digits with
  | some (run, []) =>
    if run.length ≤ digitLimit then
      some (if negative then -(decimalNumber run : Int) else decimalNumber run)
    else none
  | _ => none

/-! ## Writing -/

/-- The least number that has more decimal digits than `digitLimit`. -/
def writingBound : Nat := Nat.pow 10 digitLimit

/-- A number that has at most `digitLimit` decimal digits. No other number is ever written. -/
def Writable (n : Int) : Prop := n.natAbs < writingBound

instance (n : Int) : Decidable (Writable n) := inferInstanceAs (Decidable (_ < _))

/-- The decimal digits of a number, with a sign if it is negative. -/
def numeral (n : Int) : Except NumberFault String :=
  if Writable n then .ok (toString n) else .error .tooLarge

theorem numeral_of_writable {n : Int} (h : Writable n) : numeral n = .ok (toString n) := if_pos h

theorem numeral_of_not_writable {n : Int} (h : ¬Writable n) : numeral n = .error .tooLarge :=
  if_neg h

end ScriptAssist.Text
