import ScriptAssist.Log

namespace ScriptAssist.Log

/-- All lines that are offered to a log, whatever its threshold. -/
def offered (events : List Event) : List Line :=
  events.filterMap fun
    | .line line => some line
    | .threshold _ => none

/-- A text that is the name of a threshold once it is trimmed and in capitals. -/
def Spells (text : String) (rank : Int) : Prop :=
  ∃ name, (name, rank) ∈ names ∧ (Text.trim text.toList).map capital = name.toList

theorem named?_eq_some_iff {text : String} {rank : Int} :
    named? text = some rank ↔ Spells text rank := by
  constructor
  · intro found
    obtain ⟨before, later, split, -⟩ := List.lookup_eq_some_iff.1 found
    exact ⟨_, by simp [split], String.toList_ofList.symm⟩
  · rintro ⟨name, member, same⟩
    have known : ∀ entry ∈ names, names.lookup entry.1 = some entry.2 := by decide
    rw [named?, same, String.ofList_toList]
    exact known (name, rank) member

theorem kept_eq_filter {events : List Event} (h : ∀ rank, .threshold rank ∉ events)
    (threshold : Int) :
    kept threshold events =
      (offered events).filter fun line => inForce threshold ≤ line.level.rank := by
  induction events with
  | nil => rfl
  | cons event events ih =>
    have later := ih fun rank member => h rank (by simp [member])
    cases event with
    | threshold rank => exact absurd (by simp) (h rank)
    | line line =>
      rw [kept, later]
      change _ = List.filter _ (line :: offered events)
      rw [List.filter_cons]
      simp only [decide_eq_true_eq]

theorem thresholdAfter_eq_self {events : List Event} (h : ∀ rank, .threshold rank ∉ events)
    (threshold : Int) : thresholdAfter threshold events = threshold := by
  induction events with
  | nil => rfl
  | cons event events ih =>
    cases event with
    | threshold rank => exact absurd (by simp) (h rank)
    | line line => exact ih fun rank member => h rank (by simp [member])

theorem thresholdAfter_append (threshold : Int) (first second : List Event) :
    thresholdAfter threshold (first ++ second) =
      thresholdAfter (thresholdAfter threshold first) second := by
  induction first generalizing threshold with
  | nil => rfl
  | cons event first ih => cases event <;> exact ih _

end ScriptAssist.Log
