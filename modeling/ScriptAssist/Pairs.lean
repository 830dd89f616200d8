namespace ScriptAssist.Pairs

/-! Lists of pairs as maps whose keys stay in the order in which they were first put. -/

variable {α β : Type} [DecidableEq α]

/-- The value at a key. -/
def get? (key : α) : List (α × β) → Option β
  | [] => none
  | entry :: entries => if entry.1 = key then some entry.2 else get? key entries

/-- Sets the value at a key; a new key goes to the end. -/
def put (key : α) (value : β) : List (α × β) → List (α × β)
  | [] => [(key, value)]
  | entry :: entries =>
    if entry.1 = key then (key, value) :: entries else entry :: put key value entries

/-- Forgets a key. -/
def erase (key : α) (entries : List (α × β)) : List (α × β) := entries.filter (·.1 ≠ key)

/-- Puts pairs one after the other: a repeated key keeps its first place and its last value. -/
def ofList (entries : List (α × β)) : List (α × β) :=
  entries.foldl (fun pairs entry => put entry.1 entry.2 pairs) []

@[simp] theorem get?_put_self (key : α) (value : β) (entries : List (α × β)) :
    get? key (put key value entries) = some value := by
  induction entries with
  | nil => simp [put, get?]
  | cons entry entries ih => by_cases h : entry.1 = key <;> simp [put, get?, h, ih]

@[simp] theorem get?_put_of_ne {key other : α} (h : other ≠ key) (value : β)
    (entries : List (α × β)) : get? other (put key value entries) = get? other entries := by
  induction entries with
  | nil => simp [put, get?, h.symm]
  | cons entry entries ih =>
    by_cases hk : entry.1 = key
    · simp [put, get?, hk, h.symm]
    · by_cases ho : entry.1 = other
      · subst ho
        simp [put, get?, hk]
      · simp [put, get?, hk, ho, ih]

@[simp] theorem get?_erase_self (key : α) (entries : List (α × β)) :
    get? key (erase key entries) = none := by
  induction entries with
  | nil => rfl
  | cons entry entries ih =>
    by_cases h : entry.1 = key
    · simpa [erase, h] using ih
    · simpa [erase, get?, h] using ih

@[simp] theorem get?_erase_of_ne {key other : α} (h : other ≠ key) (entries : List (α × β)) :
    get? other (erase key entries) = get? other entries := by
  induction entries with
  | nil => rfl
  | cons entry entries ih =>
    by_cases hk : entry.1 = key
    · have : entry.1 ≠ other := fun ho => h (ho ▸ hk)
      simpa [erase, get?, hk, h.symm] using ih
    · by_cases ho : entry.1 = other
      · subst ho
        simp [erase, get?, hk]
      · simpa [erase, get?, hk, ho] using ih

theorem exists_get?_iff (key : α) (entries : List (α × β)) :
    (∃ value, get? key entries = some value) ↔ key ∈ entries.map Prod.fst := by
  induction entries with
  | nil => simp [get?]
  | cons entry entries ih =>
    by_cases h : entry.1 = key
    · simp [get?, h]
    · have other : key ≠ entry.1 := fun same => h same.symm
      rw [List.map_cons, List.mem_cons, ← ih]
      simp [get?, h, other]

end ScriptAssist.Pairs
