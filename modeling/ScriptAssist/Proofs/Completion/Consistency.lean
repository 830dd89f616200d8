import Mathlib.Data.List.Nodup
import ScriptAssist.Completion.Provider

namespace ScriptAssist.Completion.Tables

/-- The two tables speak of the same ids, each listed once, and say the same of each; what is to be
read as a template can be read. -/
structure Consistent (tables : Tables) : Prop where
  ids_nodup : tables.ids.Nodup
  same_ids : ∀ id, id ∈ tables.ids ↔ id ∈ tables.resolvedIds
  labels : ∀ entry ∈ tables.catalog, ∀ resolution,
    tables.resolution? entry.id = some resolution → resolution.label = entry.label
  templates : ∀ id resolution, tables.resolution? id = some resolution →
    resolution.format = .snippet → ∃ t, Template.read resolution.insertText.toList = .ok t

theorem firstRepeated_eq_none_iff (seen ids : List Int) :
    firstRepeated seen ids = none ↔ ids.Nodup ∧ ∀ id ∈ ids, id ∉ seen := by
  induction ids generalizing seen with
  | nil => simp [firstRepeated]
  | cons id ids ih =>
    by_cases repeated : id ∈ seen
    · simp [firstRepeated, repeated]
    · rw [firstRepeated, if_neg repeated, ih]
      constructor
      · rintro ⟨nodup, fresh⟩
        have first : id ∉ ids := fun again => fresh id again (by simp)
        refine ⟨List.nodup_cons.2 ⟨first, nodup⟩, ?_⟩
        intro other hother
        rcases List.mem_cons.1 hother with rfl | hother
        · exact repeated
        · exact fun earlier => fresh other hother (by simp [earlier])
      · rintro ⟨nodup, fresh⟩
        obtain ⟨first, nodup⟩ := List.nodup_cons.1 nodup
        refine ⟨nodup, ?_⟩
        intro other hother earlier
        rcases List.mem_cons.1 earlier with rfl | earlier
        · exact first hother
        · exact fresh other (by simp [hother]) earlier

theorem exists_resolution_iff (tables : Tables) (id : Int) :
    (∃ resolution, tables.resolution? id = some resolution) ↔ id ∈ tables.resolvedIds :=
  Pairs.exists_get?_iff id tables.resolutions

theorem checkEntry_eq_ok_iff (entry : Entry) (resolution : Resolution) :
    checkEntry entry resolution = .ok () ↔
      resolution.label = entry.label ∧
        (resolution.format = .snippet →
          ∃ t, Template.read resolution.insertText.toList = .ok t) := by
  rw [checkEntry]
  by_cases label : resolution.label = entry.label
  · cases format : resolution.format with
    | plainText => simp [label]
    | snippet =>
      cases Template.read resolution.insertText.toList with
      | ok t => simp [label]
      | error fault => cases fault <;> simp [label]
  · simp [label]

theorem checkEntries_eq_ok_iff (tables : Tables) (entries : List Entry) :
    tables.checkEntries entries = .ok () ↔
      ∀ entry ∈ entries, ∃ resolution, tables.resolution? entry.id = some resolution ∧
        checkEntry entry resolution = .ok () := by
  induction entries with
  | nil => simp [checkEntries]
  | cons entry entries ih =>
    rw [checkEntries]
    cases found : tables.resolution? entry.id with
    | none => simp [found]
    | some resolution =>
      cases checked : checkEntry entry resolution with
      | error fault => simp [found, checked]
      | ok => simp [found, checked, ih]

theorem filter_notMem_eq_nil_iff (ids others : List Int) :
    ids.filter (· ∉ others) = [] ↔ ∀ id ∈ ids, id ∈ others := by
  simp [List.filter_eq_nil_iff]

/-- The lines are looked at only if each id is listed once and both tables have the same ids; all
else is an inconsistency. -/
theorem check_cases (tables : Tables) :
    (tables.ids.Nodup ∧ (∀ id, id ∈ tables.ids ↔ id ∈ tables.resolvedIds) ∧
      tables.check = tables.checkEntries tables.catalog) ∨
    (¬(tables.ids.Nodup ∧ ∀ id, id ∈ tables.ids ↔ id ∈ tables.resolvedIds) ∧
      ∃ inconsistency, tables.check = .error (.inconsistent inconsistency)) := by
  rw [check]
  cases repeated : firstRepeated [] tables.ids with
  | some id =>
    refine Or.inr ⟨?_, _, rfl⟩
    rintro ⟨nodup, -⟩
    have none := (firstRepeated_eq_none_iff [] tables.ids).2 ⟨nodup, by simp⟩
    simp [repeated] at none
  | none =>
    obtain ⟨nodup, -⟩ := (firstRepeated_eq_none_iff [] tables.ids).1 repeated
    dsimp only
    by_cases unresolved : tables.ids.filter (· ∉ tables.resolvedIds) = []
    · rw [if_neg (not_not.2 unresolved)]
      by_cases unlisted : tables.resolvedIds.filter (· ∉ tables.ids) = []
      · rw [if_neg (not_not.2 unlisted)]
        have resolved := (filter_notMem_eq_nil_iff _ _).1 unresolved
        have listed := (filter_notMem_eq_nil_iff _ _).1 unlisted
        exact Or.inl ⟨nodup, fun id => ⟨resolved id, listed id⟩, rfl⟩
      · rw [if_pos unlisted]
        refine Or.inr ⟨?_, _, rfl⟩
        rintro ⟨-, same⟩
        exact unlisted ((filter_notMem_eq_nil_iff _ _).2 fun id => (same id).2)
    · rw [if_pos unresolved]
      refine Or.inr ⟨?_, _, rfl⟩
      rintro ⟨-, same⟩
      exact unresolved ((filter_notMem_eq_nil_iff _ _).2 fun id => (same id).1)

theorem check_eq_ok_iff (tables : Tables) : tables.check = .ok () ↔ tables.Consistent := by
  rcases tables.check_cases with ⟨nodup, same, lines⟩ | ⟨differ, inconsistency, refused⟩
  · rw [lines, checkEntries_eq_ok_iff]
    constructor
    · intro checked
      refine ⟨nodup, same, ?_, ?_⟩
      · intro entry hentry resolution found
        obtain ⟨other, found', line⟩ := checked entry hentry
        obtain rfl := Option.some.inj (found.symm.trans found')
        exact ((checkEntry_eq_ok_iff entry resolution).1 line).1
      · intro id resolution found
        have resolved := (exists_resolution_iff tables id).1 ⟨resolution, found⟩
        obtain ⟨entry, hentry, rfl⟩ := List.mem_map.1 ((same id).2 resolved)
        obtain ⟨other, found', line⟩ := checked entry hentry
        obtain rfl := Option.some.inj (found.symm.trans found')
        exact ((checkEntry_eq_ok_iff entry resolution).1 line).2
    · intro consistent entry hentry
      have listed : entry.id ∈ tables.ids := List.mem_map_of_mem hentry
      obtain ⟨resolution, found⟩ := (exists_resolution_iff tables entry.id).2 ((same _).1 listed)
      refine ⟨resolution, found, (checkEntry_eq_ok_iff entry resolution).2 ⟨?_, ?_⟩⟩
      · exact consistent.labels entry hentry resolution found
      · exact consistent.templates entry.id resolution found
  · rw [refused]
    constructor
    · intro accepted
      cases accepted
    · intro consistent
      exact absurd ⟨consistent.ids_nodup, consistent.same_ids⟩ differ

end ScriptAssist.Completion.Tables

namespace ScriptAssist.Completion.Provider

theorem ofTables_eq_error_iff {tables : Tables} {fault : Tables.Fault} :
    ofTables tables = .error fault ↔ tables.check = .error fault := by
  rw [ofTables]
  split
  · next checked => simp [checked]
  · next other checked => simp [checked]

theorem ofTables_eq_ok_iff {tables : Tables} {provider : Provider} :
    ofTables tables = .ok provider ↔ provider.tables = tables := by
  rw [ofTables]
  split
  · next checked =>
    constructor
    · intro same
      cases same
      rfl
    · rintro rfl
      rfl
  · next fault checked =>
    constructor
    · intro same
      cases same
    · rintro rfl
      rw [provider.checked] at checked
      cases checked

theorem consistent (provider : Provider) : provider.tables.Consistent :=
  (Tables.check_eq_ok_iff _).1 provider.checked

end ScriptAssist.Completion.Provider
