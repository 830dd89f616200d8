import ScriptAssist.Command.Run
import ScriptAssist.Proofs.Completion.Consistency
import ScriptAssist.Proofs.Text.Line

namespace ScriptAssist.Completion.Provider

open Text

/-! ## Ids -/

/-- A string holds a run of ASCII digits and nothing but blanks around it. -/
def Writes (s : String) (digits : List Char) : Prop :=
  ∃ before after, s.toList = before ++ digits ++ after ∧ (∀ c ∈ before, isBlank c) ∧
    (∀ c ∈ after, isBlank c) ∧ digits ≠ [] ∧ ∀ c ∈ digits, isAsciiDigit c

/-- The ids that values stand for. A string stands for the number that it writes, leading zeros or
not, unless it has more digits than are read. -/
inductive Denotes : Value → Int → Prop where
  | int (id : Int) : Denotes (.int id) id
  | digits {s : String} {digits : List Char} :
      Writes s digits → digits.length ≤ digitLimit →
      Denotes (.string s) (Nat.ofDigitChars 10 digits 0)

/-- A string of digits that is too long to stand for an id. -/
inductive Overlong : Value → Nat → Prop where
  | digits {s : String} {digits : List Char} :
      Writes s digits → digitLimit < digits.length → Overlong (.string s) digits.length

theorem isBlank_of_isAsciiDigit {c : Char} (h : isAsciiDigit c) : isBlank c = false := by
  have range := Char.isDigit_iff_toNat.1 h
  simp only [Char.reduceToNat] at range
  simp only [isBlank, Bool.or_eq_false_iff, Bool.and_eq_false_iff, decide_eq_false_iff_not,
    beq_eq_false_iff_ne]
  omega

theorem writes_iff {s : String} {digits : List Char} :
    Writes s digits ↔
      trim s.toList = digits ∧ digits ≠ [] ∧ ∀ c ∈ digits, isAsciiDigit c := by
  constructor
  · rintro ⟨before, after, text, hbefore, hafter, some, all⟩
    refine ⟨?_, some, all⟩
    rw [text]
    apply trim_append hbefore hafter some
    · exact fun c hc => isBlank_of_isAsciiDigit (all c (List.mem_of_mem_head? hc))
    · exact fun c hc => isBlank_of_isAsciiDigit (all c (List.mem_of_mem_getLast? hc))
  · rintro ⟨rfl, some, all⟩
    obtain ⟨before, after, text, hbefore, hafter⟩ := exists_trim s.toList
    exact ⟨before, after, text, hbefore, hafter, some, all⟩

theorem writes_ofList {digits : List Char} (some : digits ≠ [])
    (all : ∀ c ∈ digits, isAsciiDigit c) : Writes (String.ofList digits) digits :=
  ⟨[], [], by simp, by simp, by simp, some, all⟩

/-- The three things that a string can be when it is taken for an id. -/
theorem idOf_string (s : String) :
    (∃ digits, Writes s digits ∧ digits.length ≤ digitLimit ∧
      idOf (.string s) = .ok (some (Nat.ofDigitChars 10 digits 0))) ∨
    (∃ digits, Writes s digits ∧ digitLimit < digits.length ∧
      idOf (.string s) = .error (.tooLong digits.length)) ∨
    ((∀ digits, ¬Writes s digits) ∧ idOf (.string s) = .ok none) := by
  by_cases written : Writes s (trim s.toList)
  · obtain ⟨-, some, all⟩ := writes_iff.1 written
    have test : (!(trim s.toList).isEmpty && (trim s.toList).all isAsciiDigit) = true := by
      simpa [some] using all
    by_cases long : digitLimit < (trim s.toList).length
    · refine Or.inr (Or.inl ⟨_, written, long, ?_⟩)
      rw [idOf]
      simp only [test, if_true, readNumber_of_ascii all, long]
    · refine Or.inl ⟨_, written, Nat.le_of_not_lt long, ?_⟩
      rw [idOf]
      simp only [test, if_true, readNumber_of_ascii all, long, if_false]
  · have test : (!(trim s.toList).isEmpty && (trim s.toList).all isAsciiDigit) = false := by
      rw [Bool.eq_false_iff]
      intro passed
      have parts : trim s.toList ≠ [] ∧ ∀ c ∈ trim s.toList, isAsciiDigit c := by
        simpa using passed
      exact written (writes_iff.2 ⟨rfl, parts⟩)
    refine Or.inr (Or.inr ⟨?_, ?_⟩)
    · intro digits other
      obtain ⟨rfl, -⟩ := writes_iff.1 other
      exact written other
    · rw [idOf]
      simp only [test, Bool.false_eq_true, if_false]

theorem Writes.unique {s : String} {digits others : List Char} (h : Writes s digits)
    (h' : Writes s others) : digits = others :=
  (writes_iff.1 h).1.symm.trans (writes_iff.1 h').1

theorem idOf_eq_some_iff {value : Value} {id : Int} :
    idOf value = .ok (some id) ↔ Denotes value id := by
  constructor
  · intro h
    cases value with
    | int n =>
      obtain rfl : n = id := by simpa [idOf] using h
      exact .int n
    | string s =>
      rcases idOf_string s with ⟨digits, written, short, read⟩ | ⟨digits, -, -, read⟩ | ⟨-, read⟩
      · rw [read] at h
        obtain rfl : (Nat.ofDigitChars 10 digits 0 : Int) = id := by simpa using h
        exact .digits written short
      · rw [read] at h
        cases h
      · rw [read] at h
        cases h
    | _ => simp [idOf] at h
  · intro h
    cases h with
    | int id => rfl
    | @digits s digits written short =>
      rcases idOf_string s with ⟨others, written', -, read⟩ | ⟨others, written', long, -⟩ |
        ⟨none, -⟩
      · rw [read, written.unique written']
      · rw [written.unique written'] at short
        omega
      · exact absurd written (none digits)

theorem idOf_eq_error_iff {value : Value} {fault : NumberFault} :
    idOf value = .error fault ↔ ∃ n, Overlong value n ∧ fault = .tooLong n := by
  constructor
  · intro h
    cases value with
    | string s =>
      rcases idOf_string s with ⟨digits, -, -, read⟩ | ⟨digits, written, long, read⟩ | ⟨-, read⟩
      · rw [read] at h
        cases h
      · rw [read] at h
        exact ⟨_, .digits written long, (Except.error.inj h).symm⟩
      · rw [read] at h
        cases h
    | _ => simp [idOf] at h
  · rintro ⟨n, overlong, rfl⟩
    cases overlong with
    | @digits s digits written long =>
      rcases idOf_string s with ⟨others, written', short, -⟩ | ⟨others, written', -, read⟩ |
        ⟨none, -⟩
      · rw [written.unique written'] at long
        omega
      · rw [read, written.unique written']
      · exact absurd written (none digits)

theorem Denotes.unique {value : Value} {id other : Int} (h : Denotes value id)
    (h' : Denotes value other) : id = other := by
  have same := (idOf_eq_some_iff.2 h).symm.trans (idOf_eq_some_iff.2 h')
  simpa using same

theorem Overlong.not_denotes {value : Value} {n : Nat} (h : Overlong value n) (id : Int) :
    ¬Denotes value id := by
  intro denotes
  have read := idOf_eq_some_iff.2 denotes
  rw [idOf_eq_error_iff.2 ⟨n, h, rfl⟩] at read
  cases read

/-! ## Resolutions -/

/-- The three things that can come of a request. -/
theorem resolve_cases (provider : Provider) (value : Value) :
    (∃ id resolution, Denotes value id ∧ provider.tables.resolution? id = some resolution ∧
      provider.resolve value = .ok resolution) ∨
    (∃ n, Overlong value n ∧ provider.resolve value = .error (.number (.tooLong n))) ∨
    ((∀ id, Denotes value id → id ∉ provider.tables.resolvedIds) ∧ (∀ n, ¬Overlong value n) ∧
      provider.resolve value = .error (.ofValue value)) := by
  cases read : idOf value with
  | error fault =>
    obtain ⟨n, overlong, rfl⟩ := idOf_eq_error_iff.1 read
    exact Or.inr (Or.inl ⟨n, overlong, by rw [resolve, read]⟩)
  | ok found =>
    have short : ∀ n, ¬Overlong value n := by
      intro n overlong
      rw [idOf_eq_error_iff.2 ⟨n, overlong, rfl⟩] at read
      cases read
    cases found with
    | none =>
      refine Or.inr (Or.inr ⟨?_, short, by rw [resolve, read]⟩)
      intro id denotes
      rw [idOf_eq_some_iff.2 denotes] at read
      cases read
    | some id =>
      have denotes : Denotes value id := idOf_eq_some_iff.1 read
      cases found : provider.tables.resolution? id with
      | some resolution =>
        refine Or.inl ⟨id, resolution, denotes, found, ?_⟩
        rw [resolve, read]
        simp only [found]
      | none =>
        refine Or.inr (Or.inr ⟨?_, short, ?_⟩)
        · intro other denotes' resolved
          obtain rfl := denotes.unique denotes'
          obtain ⟨resolution, found'⟩ := (Tables.exists_resolution_iff _ id).2 resolved
          simp [found] at found'
        · rw [resolve, read]
          simp only [found]

theorem resolve_of_denotes {provider : Provider} {value : Value} {id : Int}
    (listed : id ∈ provider.tables.ids) (denotes : Denotes value id) :
    ∃ resolution, provider.tables.resolution? id = some resolution ∧
      provider.resolve value = .ok resolution := by
  rcases provider.resolve_cases value with ⟨other, resolution, denotes', found, resolved⟩ |
    ⟨n, overlong, -⟩ | ⟨unresolved, -, -⟩
  · obtain rfl := denotes.unique denotes'
    exact ⟨resolution, found, resolved⟩
  · exact absurd denotes (overlong.not_denotes id)
  · exact absurd ((provider.consistent.same_ids id).1 listed) (unresolved id denotes)

theorem resolve_of_overlong {provider : Provider} {value : Value} {n : Nat}
    (h : Overlong value n) : provider.resolve value = .error (.number (.tooLong n)) := by
  rw [resolve, idOf_eq_error_iff.2 ⟨n, h, rfl⟩]

theorem resolve_of_unlisted {provider : Provider} {value : Value}
    (unlisted : ∀ id ∈ provider.tables.ids, ¬Denotes value id) (short : ∀ n, ¬Overlong value n) :
    provider.resolve value = .error (.ofValue value) := by
  rcases provider.resolve_cases value with ⟨id, resolution, denotes, found, -⟩ |
    ⟨n, overlong, -⟩ | ⟨-, -, refused⟩
  · have known := (Tables.exists_resolution_iff _ id).1 ⟨resolution, found⟩
    exact absurd denotes (unlisted id ((provider.consistent.same_ids id).2 known))
  · exact absurd overlong (short n)
  · exact refused

/-- What is resolved belongs to a line of the catalog. -/
theorem exists_entry_of_resolve {provider : Provider} {value : Value} {resolution : Resolution}
    (h : provider.resolve value = .ok resolution) :
    ∃ entry ∈ provider.tables.catalog, Denotes value entry.id ∧
      provider.tables.resolution? entry.id = some resolution := by
  rcases provider.resolve_cases value with ⟨id, other, denotes, found, resolved⟩ |
    ⟨n, -, refused⟩ | ⟨-, -, refused⟩
  · obtain rfl := Except.ok.inj (h.symm.trans resolved)
    have known := (Tables.exists_resolution_iff _ id).1 ⟨resolution, found⟩
    obtain ⟨entry, hentry, rfl⟩ := List.mem_map.1 ((provider.consistent.same_ids id).2 known)
    exact ⟨entry, hentry, denotes, found⟩
  · rw [refused] at h
    cases h
  · rw [refused] at h
    cases h

theorem exists_resolve_iff (provider : Provider) (value : Value) :
    (∃ resolution, provider.resolve value = .ok resolution) ↔
      ∃ id ∈ provider.tables.ids, Denotes value id := by
  constructor
  · rintro ⟨resolution, resolved⟩
    obtain ⟨entry, hentry, denotes, -⟩ := exists_entry_of_resolve resolved
    exact ⟨entry.id, List.mem_map_of_mem hentry, denotes⟩
  · rintro ⟨id, listed, denotes⟩
    obtain ⟨resolution, -, resolved⟩ := resolve_of_denotes listed denotes
    exact ⟨resolution, resolved⟩

theorem preview_of_read {resolution : Resolution} (format : resolution.format = .snippet)
    {t : Template} (read : Template.read resolution.insertText.toList = .ok t) :
    Command.preview resolution = ["-> " ++ String.ofList t.render] := by
  rw [Command.preview, format, read]

/-- A provider is made of consistent tables and of no others. It resolves exactly the values that
stand for a listed id, each to the resolution that carries the label of its line; and what is to be
read as a template can be shown. -/
theorem provider_of_consistent (tables : Tables) :
    ((∃ provider, ofTables tables = .ok provider) ↔ tables.Consistent) ∧
    ∀ provider, ofTables tables = .ok provider → ∀ value,
      ((∃ resolution, provider.resolve value = .ok resolution) ↔
        ∃ id ∈ tables.ids, Denotes value id) ∧
      ∀ resolution, provider.resolve value = .ok resolution →
        ∃ entry ∈ tables.catalog, Denotes value entry.id ∧
          tables.resolution? entry.id = some resolution ∧ resolution.label = entry.label ∧
          (resolution.format = .snippet →
            ∃ t, Template.read resolution.insertText.toList = .ok t ∧
              Command.preview resolution = ["-> " ++ String.ofList t.render]) := by
  constructor
  · constructor
    · rintro ⟨provider, accepted⟩
      rw [← ofTables_eq_ok_iff.1 accepted]
      exact provider.consistent
    · intro consistent
      exact ⟨⟨tables, (Tables.check_eq_ok_iff tables).2 consistent⟩, ofTables_eq_ok_iff.2 rfl⟩
  · intro provider accepted value
    obtain rfl := ofTables_eq_ok_iff.1 accepted
    refine ⟨provider.exists_resolve_iff value, ?_⟩
    intro resolution resolved
    obtain ⟨entry, hentry, denotes, found⟩ := exists_entry_of_resolve resolved
    refine ⟨entry, hentry, denotes, found, provider.consistent.labels entry hentry _ found, ?_⟩
    intro format
    obtain ⟨t, read⟩ := provider.consistent.templates entry.id resolution found format
    exact ⟨t, read, preview_of_read format read⟩

theorem provider_of_consistent_one :
    let resolution : Resolution := ⟨"a", "$\x7b1:x\x7d", "", .snippet, none, none⟩
    ∃ provider, ofTables (Tables.ofLists [⟨7, "a", .function⟩] [(7, resolution)]) = .ok provider ∧
      provider.resolve (.string " 007\n") = .ok resolution ∧
      ∀ other, provider.resolve (.bool true) ≠ .ok other := by
  intro resolution
  let tables : Tables := Tables.ofLists [⟨7, "a", .function⟩] [(7, resolution)]
  have only : ∀ id found, tables.resolution? id = some found → found = resolution := by
    intro id found h
    simp only [tables, Tables.ofLists, Tables.resolution?, Pairs.ofList, Pairs.put, Pairs.get?,
      List.foldl_cons, List.foldl_nil, Option.ite_none_right_eq_some, Option.some.injEq] at h
    exact h.2.symm
  have consistent : tables.Consistent := by
    refine ⟨by decide, fun id => Iff.rfl, ?_, ?_⟩
    · intro entry hentry found h
      rw [only _ found h, List.mem_singleton.1 hentry]
    · intro id found h _
      rw [only id found h]
      exact ⟨.filled (.index 1) (.char 'x' .done) .done, by decide +kernel⟩
  have written : Writes " 007\n" ['0', '0', '7'] :=
    writes_iff.2 ⟨by decide, by decide, List.all_eq_true.1 rfl⟩
  have denotes : Denotes (.string " 007\n") 7 := .digits written (by decide)
  obtain ⟨accepts, resolves⟩ := provider_of_consistent tables
  obtain ⟨provider, accepted⟩ := accepts.2 consistent
  obtain ⟨asText, entries⟩ := resolves provider accepted (.string " 007\n")
  obtain ⟨found, resolved⟩ := asText.2 ⟨7, by decide, denotes⟩
  obtain ⟨entry, -, -, h, -⟩ := entries found resolved
  refine ⟨provider, accepted, only _ found h ▸ resolved, ?_⟩
  intro other answered
  obtain ⟨id, -, wrong⟩ := (resolves provider accepted (.bool true)).1.1 ⟨other, answered⟩
  cases wrong

end ScriptAssist.Completion.Provider
