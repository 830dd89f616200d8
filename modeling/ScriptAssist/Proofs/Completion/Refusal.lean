import ScriptAssist.Proofs.Command.Serving
import ScriptAssist.Proofs.Completion.Consistency
import ScriptAssist.Proofs.Template.Fault

namespace ScriptAssist.Completion.Tables

/-! ## Why tables are refused -/

theorem checkEntry_index {entry : Entry} {resolution : Resolution} {fault : Text.NumberFault}
    (h : checkEntry entry resolution = .error (.index fault)) :
    resolution.format = .snippet ∧
      Template.read resolution.insertText.toList = .error (.index fault) := by
  rw [checkEntry] at h
  split at h
  · simp at h
  · cases format : resolution.format with
    | plainText => simp [format] at h
    | snippet =>
      cases read : Template.read resolution.insertText.toList with
      | ok t => simp [format, read] at h
      | error other => cases other <;> simp_all

theorem checkEntries_index {tables : Tables} {entries : List Entry} {fault : Text.NumberFault}
    (h : tables.checkEntries entries = .error (.index fault)) :
    ∃ entry ∈ entries, ∃ resolution, tables.resolution? entry.id = some resolution ∧
      resolution.format = .snippet ∧
      Template.read resolution.insertText.toList = .error (.index fault) := by
  induction entries with
  | nil => simp [checkEntries] at h
  | cons entry entries ih =>
    rw [checkEntries] at h
    cases found : tables.resolution? entry.id with
    | none => simp [found] at h
    | some resolution =>
      cases checked : checkEntry entry resolution with
      | error other =>
        simp only [found, checked, Except.error.injEq] at h
        subst h
        exact ⟨entry, by simp, resolution, found, checkEntry_index checked⟩
      | ok =>
        simp only [found, checked] at h
        obtain ⟨later, hlater, rest⟩ := ih h
        exact ⟨later, by simp [hlater], rest⟩

/-- A line whose template has an index without a value. -/
def Misnumbered (tables : Tables) (entry : Entry) : Prop :=
  entry ∈ tables.catalog ∧ ∃ resolution, tables.resolution? entry.id = some resolution ∧
    resolution.format = .snippet ∧ Template.Misnumbered resolution.insertText.toList

/-- Tables that are neither accepted nor inconsistent have a line with a misnumbered template. -/
theorem check_outcomes (tables : Tables) :
    tables.check = .ok () ∨
    (∃ inconsistency, tables.check = .error (.inconsistent inconsistency)) ∨
    ∃ fault entry, tables.check = .error (.index fault) ∧ tables.Misnumbered entry := by
  cases checked : tables.check with
  | ok => exact Or.inl rfl
  | error fault =>
    cases fault with
    | inconsistent inconsistency => exact Or.inr (Or.inl ⟨inconsistency, rfl⟩)
    | index fault =>
      rcases tables.check_cases with ⟨-, -, lines⟩ | ⟨-, inconsistency, refused⟩
      · rw [checked] at lines
        obtain ⟨entry, hentry, resolution, found, format, read⟩ := checkEntries_index lines.symm
        have misnumbered := Template.misnumbered_of_read read
        exact Or.inr (Or.inr ⟨fault, entry, rfl, hentry, resolution, found, format, misnumbered⟩)
      · rw [checked] at refused
        cases refused

/-! ## The ids that a refusal names -/

def Inconsistency.ids : Inconsistency → List Int
  | .duplicateId id => [id]
  | .unresolved ids => ids
  | .unlisted ids => ids
  | .labels id _ _ => [id]
  | .template id _ _ _ _ => [id]

theorem areWritable_ints (ids : List Int) :
    Value.areWritable (ids.map .int) ↔ ∀ id ∈ ids, Text.Writable id := by
  induction ids with
  | nil => simp [Value.areWritable]
  | cons id ids ih => simp [Value.areWritable, Value.isWritable, ih]

/-- A refusal can be written if the ids that it names can be. -/
theorem Inconsistency.isWritable_complaint_iff (inconsistency : Inconsistency) :
    inconsistency.complaint.isWritable ↔ ∀ id ∈ inconsistency.ids, Text.Writable id := by
  cases inconsistency with
  | unresolved ids =>
    simpa [complaint, Complaint.isWritable, Value.isWritable, Inconsistency.ids] using
      areWritable_ints ids
  | unlisted ids =>
    simpa [complaint, Complaint.isWritable, Value.isWritable, Inconsistency.ids] using
      areWritable_ints ids
  | _ => simp [complaint, Complaint.isWritable, Value.isWritable, Inconsistency.ids]

theorem mem_of_firstRepeated {seen ids : List Int} {id : Int}
    (h : firstRepeated seen ids = some id) : id ∈ ids := by
  induction ids generalizing seen with
  | nil => simp [firstRepeated] at h
  | cons first ids ih =>
    rw [firstRepeated] at h
    split at h
    · obtain rfl := Option.some.inj h
      simp
    · simp [ih h]

theorem ids_of_checkEntry {entry : Entry} {resolution : Resolution} {inconsistency : Inconsistency}
    (h : checkEntry entry resolution = .error (.inconsistent inconsistency)) :
    inconsistency.ids = [entry.id] := by
  rw [checkEntry] at h
  split at h
  · cases h
    rfl
  · cases format : resolution.format with
    | plainText => simp [format] at h
    | snippet =>
      cases read : Template.read resolution.insertText.toList with
      | ok t => simp [format, read] at h
      | error fault =>
        cases fault with
        | malformed reason offset =>
          simp only [format, read, Except.error.injEq, Fault.inconsistent.injEq] at h
          subst h
          rfl
        | index fault => simp [format, read] at h

theorem exists_ids_of_checkEntries {tables : Tables} {entries : List Entry}
    {inconsistency : Inconsistency}
    (h : tables.checkEntries entries = .error (.inconsistent inconsistency)) :
    ∃ entry ∈ entries, inconsistency.ids = [entry.id] := by
  induction entries with
  | nil => simp [checkEntries] at h
  | cons entry entries ih =>
    rw [checkEntries] at h
    cases found : tables.resolution? entry.id with
    | none =>
      simp only [found, Except.error.injEq, Fault.inconsistent.injEq] at h
      subst h
      exact ⟨entry, by simp, rfl⟩
    | some resolution =>
      cases checked : checkEntry entry resolution with
      | error fault =>
        simp only [found, checked, Except.error.injEq] at h
        subst h
        exact ⟨entry, by simp, ids_of_checkEntry checked⟩
      | ok =>
        simp only [found, checked] at h
        obtain ⟨later, hlater, ids⟩ := ih h
        exact ⟨later, by simp [hlater], ids⟩

/-- A refusal names ids of the tables. -/
theorem mem_of_check {tables : Tables} {inconsistency : Inconsistency}
    (h : tables.check = .error (.inconsistent inconsistency)) {id : Int}
    (named : id ∈ inconsistency.ids) : id ∈ tables.ids ∨ id ∈ tables.resolvedIds := by
  rw [check] at h
  cases repeated : firstRepeated [] tables.ids with
  | some first =>
    simp only [repeated, Except.error.injEq, Fault.inconsistent.injEq] at h
    subst h
    rw [List.mem_singleton.1 named]
    exact Or.inl (mem_of_firstRepeated repeated)
  | none =>
    simp only [repeated] at h
    split at h
    · cases h
      exact Or.inl (List.mem_filter.1 (List.mem_mergeSort.1 named)).1
    · split at h
      · cases h
        exact Or.inr (List.mem_filter.1 (List.mem_mergeSort.1 named)).1
      · obtain ⟨entry, hentry, ids⟩ := exists_ids_of_checkEntries h
        rw [ids, List.mem_singleton] at named
        subst named
        exact Or.inl (List.mem_map_of_mem hentry)

end ScriptAssist.Completion.Tables

namespace ScriptAssist.Command

open Completion

/-! ## What the commands say of it -/

/-- A server that would start with empty tables is refused with others, and one that would not start
ends in the same way. -/
theorem runServe_of_refused {world : World} {fault : Tables.Fault}
    (h : Provider.ofTables world.tables = .error fault) (address : Option (String × Int))
    (flags : Settings.Flags) (config : Option Path) :
    runServe world address flags config =
      let idle := runServe { world with tables := ⟨[], []⟩ } address flags config
      if idle.ending = .exit 0 then { refuse "cannot start" fault with events := idle.events }
      else idle := by
  have settled : configure { world with tables := ⟨[], []⟩ } config = configure world config := rfl
  have logs : logFault? { world with tables := ⟨[], []⟩ } = logFault? world := rfl
  have empty : Provider.ofTables ⟨[], []⟩ = .ok ⟨⟨[], []⟩, rfl⟩ := Provider.ofTables_eq_ok_iff.2 rfl
  unfold runServe
  rw [settled, logs, h, empty]
  cases configure world config with
  | error fault => simp
  | ok found =>
    obtain ⟨settings, events⟩ := found
    cases flagged : settings.withFlags flags with
    | none => simp [flagged]
    | some settings =>
      cases logged : (settings.logFile.map Path.collapse).bind (logFault? world) with
      | some ending =>
        obtain ⟨path, -, fault⟩ := Option.bind_eq_some_iff.1 logged
        have other : ending ≠ .exit 0 := by
          rcases logFault?_cases fault with rfl | rfl | rfl <;> simp
        simp [flagged, logged, other]
      | none => simp [flagged, logged]

/-- A command that asks for what the tables hold. -/
def Asks (command : Command) : Prop :=
  (∃ json, command = .catalog json) ∨ ∃ id json, command = .resolve id json

theorem run_of_refused {world : World} {fault : Tables.Fault}
    (h : Provider.ofTables world.tables = .error fault) {command : Command} (asks : Asks command) :
    run world command = refuse "completion tables are inconsistent" fault := by
  have stopped (next : Provider → Outcome) :
      withProvider world next = refuse "completion tables are inconsistent" fault := by
    rw [withProvider, h]
  rcases asks with ⟨json, rfl⟩ | ⟨id, json, rfl⟩
  · exact stopped _
  · exact stopped _

/-- A template that cannot be read is malformed, and a provider is made or the tables are
inconsistent, unless a template has an index without a value. Inconsistent tables are reported by
each command that needs them, which then exits with two, unless an id that the report names has too
many digits to be written; a server that does not come so far ends as it would with other tables. -/
theorem refused_with_two (world : World) :
    (∀ text fault, Template.read text = .error fault →
      (∃ reason offset, fault = .malformed reason offset) ∨ Template.Misnumbered text) ∧
    ((∃ provider, Provider.ofTables world.tables = .ok provider) ∨
      (∃ inconsistency,
        Provider.ofTables world.tables = .error (.inconsistent inconsistency)) ∨
      ∃ fault entry, Provider.ofTables world.tables = .error (.index fault) ∧
        world.tables.Misnumbered entry) ∧
    ∀ inconsistency, Provider.ofTables world.tables = .error (.inconsistent inconsistency) →
      (∀ id ∈ inconsistency.ids, id ∈ world.tables.ids ∨ id ∈ world.tables.resolvedIds) ∧
      ((∀ id ∈ inconsistency.ids, Text.Writable id) →
        (∀ command, Asks command →
          run world command =
            { ending := .exit 2
              complaints := "completion tables are inconsistent: " ++
                inconsistency.complaint.spelled ++ "\n" }) ∧
        ∀ tcp host port logLevel logFile config,
          let command : Command := .serve tcp host port logLevel logFile config
          let idle := run { world with tables := ⟨[], []⟩ } command
          run world command =
            if idle.ending = .exit 0 then
              { ending := .exit 2
                complaints := "cannot start: " ++ inconsistency.complaint.spelled ++ "\n"
                events := idle.events }
            else idle) ∧
      ∀ id ∈ inconsistency.ids, ¬Text.Writable id →
        (∀ command, Asks command → run world command = { ending := .number .tooLarge }) ∧
        ∀ tcp host port logLevel logFile config,
          let command : Command := .serve tcp host port logLevel logFile config
          let idle := run { world with tables := ⟨[], []⟩ } command
          run world command =
            if idle.ending = .exit 0 then { ending := .number .tooLarge, events := idle.events }
            else idle := by
  refine ⟨?_, ?_, ?_⟩
  · intro text fault unread
    cases fault with
    | malformed reason offset => exact Or.inl ⟨reason, offset, rfl⟩
    | index fault => exact Or.inr (Template.misnumbered_of_read unread)
  · rcases world.tables.check_outcomes with accepted | ⟨inconsistency, refused⟩ |
      ⟨fault, entry, failed, misnumbered⟩
    · exact Or.inl ⟨⟨world.tables, accepted⟩, Provider.ofTables_eq_ok_iff.2 rfl⟩
    · exact Or.inr (Or.inl ⟨inconsistency, Provider.ofTables_eq_error_iff.2 refused⟩)
    · exact Or.inr (Or.inr ⟨fault, entry, Provider.ofTables_eq_error_iff.2 failed, misnumbered⟩)
  · intro inconsistency refused
    refine ⟨?_, ?_, ?_⟩
    · intro id named
      exact Tables.mem_of_check (Provider.ofTables_eq_error_iff.1 refused) named
    · intro writable
      have reported (headline : String) :
          refuse headline (.inconsistent inconsistency) =
            { ending := .exit 2
              complaints := headline ++ ": " ++ inconsistency.complaint.spelled ++ "\n" } :=
        complain_of_writable (inconsistency.isWritable_complaint_iff.2 writable) headline
      constructor
      · intro command asks
        rw [run_of_refused refused asks, reported]
        rfl
      · intro tcp host port logLevel logFile config command idle
        have started := runServe_of_refused refused (if tcp then some (host, port) else none)
          { logLevel, logFile } config
        rw [reported] at started
        exact started
    · intro id hid unwritable
      have failed (headline : String) :
          refuse headline (.inconsistent inconsistency) = { ending := .number .tooLarge } := by
        apply complain_of_not_writable
        rw [inconsistency.isWritable_complaint_iff]
        exact fun writable => unwritable (writable id hid)
      constructor
      · intro command asks
        rw [run_of_refused refused asks, failed]
      · intro tcp host port logLevel logFile config command idle
        have started := runServe_of_refused refused (if tcp then some (host, port) else none)
          { logLevel, logFile } config
        rw [failed] at started
        exact started

theorem refused_with_two_unclosed :
    let resolution : Resolution := ⟨"a", "$\x7b1:", "", .snippet, none, none⟩
    let tables := Tables.ofLists [⟨0, "a", .function⟩] [(0, resolution)]
    let world : World := ⟨fun _ => .missing, [], tables⟩
    let inconsistency : Tables.Inconsistency := .template 0 "a" "$\x7b1:" .unterminated 4
    Provider.ofTables tables = .error (.inconsistent inconsistency) ∧
      (run world (.resolve 0 false)).ending = .exit 2 ∧
      run world (.serve false "" 0 none none none) =
        { ending := .exit 2
          complaints := "cannot start: " ++ inconsistency.complaint.spelled ++ "\n" } := by
  intro resolution tables world inconsistency
  have refused : Provider.ofTables tables = .error (.inconsistent inconsistency) :=
    Provider.ofTables_eq_error_iff.2 (by decide +kernel)
  have writable : ∀ id ∈ inconsistency.ids, Text.Writable id := by decide +kernel
  obtain ⟨-, reports, -⟩ := (refused_with_two world).2.2 inconsistency refused
  obtain ⟨reported, served⟩ := reports writable
  refine ⟨refused, ?_, ?_⟩
  · rw [reported _ (Or.inr ⟨0, false, rfl⟩)]
  · rw [served false "" 0 none none none]
    have starts : (run { world with tables := ⟨[], []⟩ } (.serve false "" 0 none none none)) =
        { ending := .exit 0, served := some ⟨none, _⟩, events := [] } := rfl
    rw [starts]
    rfl

/-- A digit that is not decimal makes an index without a value, and the command fails. -/
theorem failed_by_superscript :
    let resolution : Resolution := ⟨"a", "$²", "", .snippet, none, none⟩
    let tables := Tables.ofLists [⟨0, "a", .function⟩] [(0, resolution)]
    let world : World := ⟨fun _ => .missing, [], tables⟩
    Provider.ofTables tables = .error (.index (.notDecimal ['²'])) ∧
      (run world (.catalog false)).ending = .number (.notDecimal ['²']) := by
  intro resolution tables world
  have failed : Provider.ofTables tables = .error (.index (.notDecimal ['²'])) :=
    Provider.ofTables_eq_error_iff.2 (by decide +kernel)
  refine ⟨failed, ?_⟩
  change (withProvider world _).ending = _
  rw [withProvider, failed]
  rfl

end ScriptAssist.Command
