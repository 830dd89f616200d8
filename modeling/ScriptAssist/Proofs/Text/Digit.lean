import Mathlib.Data.List.Basic
import Mathlib.Data.List.TakeWhile
import ScriptAssist.Text.Number

namespace ScriptAssist.Text

theorem takeWhile_run {p : Char → Bool} {run rest : List Char} (h : ∀ c ∈ run, p c)
    (hr : ∀ c ∈ rest.head?, p c = false) : (run ++ rest).takeWhile p = run := by
  rw [List.takeWhile_append_of_pos h]
  cases rest with
  | nil => rw [List.takeWhile_nil, List.append_nil]
  | cons c rest => rw [List.takeWhile_cons_of_neg (by simp [hr c rfl]), List.append_nil]

theorem dropWhile_run {p : Char → Bool} {run rest : List Char} (h : ∀ c ∈ run, p c)
    (hr : ∀ c ∈ rest.head?, p c = false) : (run ++ rest).dropWhile p = rest := by
  rw [List.dropWhile_append_of_pos h]
  cases rest with
  | nil => rfl
  | cons c rest => rw [List.dropWhile_cons_of_neg (by simp [hr c rfl])]

/-- Among the ASCII characters only the first script of the table has digits. -/
theorem decimalValue?_of_ascii {c : Char} (h : c.toNat < 0x80) :
    decimalValue? c = if c.isDigit then some (c.toNat - 0x30) else none := by
  have tail : (decimalZeros.tail.find? fun z => z ≤ c.toNat && c.toNat < z + 10) = none := by
    apply List.find?_eq_none.2
    intro z hz
    have above : ∀ z ∈ decimalZeros.tail, 0x80 ≤ z := by decide
    have hz := above z hz
    simp only [Bool.and_eq_true, decide_eq_true_eq]
    omega
  have digit : c.isDigit = (decide (0x30 ≤ c.toNat) && decide (c.toNat < 0x30 + 10)) := by
    rw [Bool.eq_iff_iff, Char.isDigit_iff_toNat]
    simp only [Char.reduceToNat, Bool.and_eq_true, decide_eq_true_eq]
    omega
  change ((0x30 :: decimalZeros.tail).find? fun z => z ≤ c.toNat && c.toNat < z + 10).map _ = _
  rw [List.find?_cons, tail, digit]
  cases decide (0x30 ≤ c.toNat) && decide (c.toNat < 0x30 + 10) <;> rfl

theorem isDecimal_of_ascii {c : Char} (h : c.toNat < 0x80) : isDecimal c = c.isDigit := by
  rw [isDecimal, decimalValue?_of_ascii h]
  cases c.isDigit <;> rfl

theorem isDigit_of_ascii {c : Char} (h : c.toNat < 0x80) : isDigit c = c.isDigit := by
  have others : (otherDigits.any fun range => range.1 ≤ c.toNat && c.toNat ≤ range.2) = false := by
    apply List.any_eq_false.2
    intro range hr
    have above : ∀ range ∈ otherDigits, 0x80 ≤ range.1 := by decide
    have hr := above range hr
    simp only [Bool.and_eq_true, decide_eq_true_eq]
    omega
  rw [isDigit, isDecimal_of_ascii h, others, Bool.or_false]

theorem toNat_lt_of_isDigit {c : Char} (h : c.isDigit) : c.toNat < 0x80 := by
  have hc := Char.isDigit_iff_toNat.1 h
  simp only [Char.reduceToNat] at hc
  omega

theorem decimalNumber_of_ascii (run : List Char) (h : ∀ c ∈ run, c.isDigit) :
    decimalNumber run = Nat.ofDigitChars 10 run 0 := by
  rw [decimalNumber, Nat.ofDigitChars_eq_foldl]
  apply List.foldl_ext
  intro n c hc
  rw [decimalValue?_of_ascii (toNat_lt_of_isDigit (h c hc)), if_pos (h c hc)]
  rfl

theorem isDigit_of_isDecimal {c : Char} (h : isDecimal c) : isDigit c := by
  rw [isDigit, h, Bool.true_or]

/-- A run is read exactly if it is decimal throughout and keeps within the limit. -/
theorem readNumber_eq_ok_iff {run : List Char} {n : Nat} :
    readNumber run = .ok n ↔
      (∀ c ∈ run, isDecimal c) ∧ run.length ≤ digitLimit ∧ decimalNumber run = n := by
  by_cases decimal : ∀ c ∈ run, isDecimal c
  · have all : run.takeWhile isDecimal = run := List.takeWhile_eq_self_iff.2 decimal
    rw [readNumber, all]
    by_cases short : run.length ≤ digitLimit
    · simp only [Nat.not_lt.2 short, if_false, if_true, Except.ok.injEq]
      exact ⟨fun value => ⟨decimal, short, value⟩, fun h => h.2.2⟩
    · simp [short, Nat.lt_of_not_le short]
  · have cut : (run.takeWhile isDecimal).length ≠ run.length := by
      intro same
      have whole := (List.takeWhile_prefix isDecimal).eq_of_length same
      exact decimal (List.takeWhile_eq_self_iff.1 whole)
    have refused : readNumber run ≠ .ok n := by
      rw [readNumber]
      simp only [cut, if_false]
      split <;> simp
    exact ⟨fun read => absurd read refused, fun h => absurd h.1 decimal⟩

theorem isDecimal_of_mem_toDigits {n : Nat} {c : Char} (h : c ∈ Nat.toDigits 10 n) :
    isDecimal c := by
  have digit : c.isDigit := Nat.isDigit_of_mem_toDigits (by decide) (by decide) h
  rw [isDecimal_of_ascii (toNat_lt_of_isDigit digit)]
  exact digit

theorem isAsciiDigit_eq (c : Char) : isAsciiDigit c = c.isDigit := rfl

theorem readNumber_of_ascii {run : List Char} (h : ∀ c ∈ run, isAsciiDigit c) :
    readNumber run =
      if digitLimit < run.length then .error (.tooLong run.length)
      else .ok (Nat.ofDigitChars 10 run 0) := by
  have digits : ∀ c ∈ run, c.isDigit := fun c hc => (isAsciiDigit_eq c).symm.trans (h c hc)
  have decimal : ∀ c ∈ run, isDecimal c := by
    intro c hc
    rw [isDecimal_of_ascii (toNat_lt_of_isDigit (digits c hc))]
    exact digits c hc
  have all : run.takeWhile isDecimal = run := List.takeWhile_eq_self_iff.2 decimal
  rw [readNumber, all, decimalNumber_of_ascii run digits]
  simp only [if_true]

/-- A number that is written in no more digits than the limit is read back. -/
theorem readNumber_toDigits (n : Nat) (h : (Nat.toDigits 10 n).length ≤ digitLimit) :
    readNumber (Nat.toDigits 10 n) = .ok n := by
  have digits : ∀ c ∈ Nat.toDigits 10 n, isAsciiDigit c := fun c hc =>
    Nat.isDigit_of_mem_toDigits (by decide) (by decide) hc
  rw [readNumber_of_ascii digits, if_neg (Nat.not_lt.2 h), Nat.ofDigitChars_ten_toDigits]

end ScriptAssist.Text
