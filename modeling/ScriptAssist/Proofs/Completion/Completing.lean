import ScriptAssist.Proofs.Completion.Resolving

namespace ScriptAssist.Completion

open Text

theorem Item.merge_merge (item : Item) (resolution : Resolution) :
    (item.merge resolution).merge resolution = item.merge resolution := by
  obtain ⟨label, text, documentation, format, sortText, category⟩ := resolution
  cases category with
  | none => cases sortText <;> rfl
  | some category => cases sortText <;> rfl

namespace Provider

/-- The forms in which the id of a listed item comes back: as it was sent or, if it is not negative,
as its decimal string. A number of more digits than the limit has none: it is neither written nor
read. -/
inductive Returned (id : Int) : Value → Prop where
  | int : Returned id (.int id)
  | decimal : 0 ≤ id → (toString id).length ≤ digitLimit → Returned id (.string (toString id))

theorem writes_toString (n : Nat) : Writes (toString (n : Int)) (Nat.toDigits 10 n) := by
  have printed : toString (n : Int) = String.ofList (Nat.toDigits 10 n) := rfl
  rw [printed]
  apply writes_ofList
  · exact Nat.toDigits_ne_nil
  · intro c hc
    exact Nat.isDigit_of_mem_toDigits (by decide) (by decide) hc

theorem Returned.denotes {id : Int} {data : Value} (h : Returned id data) : Denotes data id := by
  cases h with
  | int => exact .int id
  | decimal natural short =>
    obtain ⟨n, same⟩ := Int.eq_ofNat_of_zero_le natural
    subst same
    have length : (toString (n : Int)).length = (Nat.toDigits 10 n).length := String.length_ofList
    rw [length] at short
    have denotes := Denotes.digits (writes_toString n) short
    rw [Nat.ofDigitChars_ten_toDigits] at denotes
    exact denotes

/-- A listed id resolves in every form in which it comes back, and to the same resolution. -/
theorem exists_resolution_of_listed {provider : Provider} {entry : Entry}
    (h : entry ∈ provider.tables.catalog) :
    ∃ resolution, provider.tables.resolution? entry.id = some resolution ∧
      resolution.label = entry.label ∧
      ∀ data, Returned entry.id data → provider.resolve data = .ok resolution := by
  have listed : entry.id ∈ provider.tables.ids := List.mem_map_of_mem h
  have resolved := (provider.consistent.same_ids entry.id).1 listed
  obtain ⟨resolution, found⟩ := (Tables.exists_resolution_iff _ entry.id).2 resolved
  refine ⟨resolution, found, provider.consistent.labels entry h resolution found, ?_⟩
  intro data returned
  obtain ⟨other, found', answered⟩ := resolve_of_denotes listed returned.denotes
  have same : resolution = other := Option.some.inj (found.symm.trans found')
  rw [same]
  exact answered

/-- What a completed item says is not overwritten by the resolution that said it. -/
theorem complete_again {provider : Provider} {item : Item} {resolution : Resolution}
    (h : provider.resolve item.data = .ok resolution) :
    provider.complete.run (item.merge resolution) = .ok () (item.merge resolution) := by
  have resolved : provider.resolve (item.merge resolution).data = .ok resolution := h
  have again := complete_of_ok resolved
  rw [Item.merge_merge] at again
  exact again

/-- Listing and resolving fit together. An item of the catalog is completed in every form in which
its data come back, by the resolution of its line. Completing any item a second time changes nothing
more, and what the resolution does not give stays as it is; an item that is refused is left
untouched. -/
theorem complete_listed (provider : Provider) :
    (∀ listed ∈ provider.items, ∃ entry ∈ provider.tables.catalog, ∃ resolution,
      listed.data = .int entry.id ∧ provider.tables.resolution? entry.id = some resolution ∧
      listed.label = resolution.label ∧
      ∀ data, Returned entry.id data →
        ∃ completed, provider.complete.run { listed with data } = .ok () completed ∧
          completed.label = listed.label ∧ completed.data = data ∧
          completed.insertText = some resolution.insertText ∧
          completed.format = some resolution.format ∧
          completed.documentation = some resolution.documentation ∧
          completed.kind = some (resolution.category.getD entry.category).kind ∧
          completed.sortText = resolution.sortText) ∧
    (∀ item resolution, provider.resolve item.data = .ok resolution →
      ∃ once, provider.complete.run item = .ok () once ∧
        provider.complete.run once = .ok () once ∧
        once.label = item.label ∧ once.data = item.data ∧
        (resolution.category = none → once.kind = item.kind) ∧
        (resolution.sortText = none → once.sortText = item.sortText)) ∧
    ∀ item fault left, provider.complete.run item = .error fault left → left = item := by
  refine ⟨?_, ?_, ?_⟩
  · intro listed hlisted
    obtain ⟨entry, hentry, same⟩ := List.mem_map.1 hlisted
    subst same
    obtain ⟨resolution, found, label, answers⟩ := exists_resolution_of_listed hentry
    refine ⟨entry, hentry, resolution, rfl, found, label.symm, ?_⟩
    intro data returned
    refine ⟨_, complete_of_ok (answers data returned), rfl, rfl, rfl, rfl, rfl, ?_, ?_⟩
    · cases category : resolution.category <;> simp [Item.merge, category]
    · simp [Item.merge]
  · intro item resolution resolved
    refine ⟨_, complete_of_ok resolved, complete_again resolved, rfl, rfl, ?_, ?_⟩
    · intro none
      simp [Item.merge, none]
    · intro none
      simp [Item.merge, none]
  · intro item fault left failed
    cases answer : provider.resolve item.data with
    | ok resolution =>
      rw [complete_of_ok answer] at failed
      cases failed
    | error other =>
      rw [complete_of_error answer] at failed
      cases failed
      rfl

/-- A line whose resolution has a sort text and no category, and data that stand for no line. -/
theorem complete_listed_mixed :
    let resolution : Resolution := ⟨"a", "f($1)", "calls f", .snippet, some "01", none⟩
    let provider : Provider :=
      ⟨Tables.ofLists [⟨7, "a", .snippet⟩] [(7, resolution)], by decide +kernel⟩
    let returned : Item := { label := "a", kind := some 15, data := .string "7" }
    let stale : Item := { label := "a", kind := some 15, data := .string "8" }
    (∃ completed, provider.complete.run returned = .ok () completed ∧
      completed.kind = some 15 ∧ completed.sortText = some "01" ∧
      completed.insertText = some "f($1)" ∧ provider.complete.run completed = .ok () completed) ∧
    ∃ fault, provider.complete.run stale = .error fault stale := by
  intro resolution provider returned stale
  obtain ⟨lists, again, refused⟩ := complete_listed provider
  constructor
  · let listed : Item := { label := "a", kind := some 15, data := .int 7 }
    obtain ⟨entry, hentry, found, -, hfound, -, answers⟩ := lists listed (List.mem_singleton.2 rfl)
    have line : entry = ⟨7, "a", .snippet⟩ := List.mem_singleton.1 hentry
    subst line
    have same : resolution = found := Option.some.inj hfound
    subst same
    have decimal : Returned 7 (.string "7") := .decimal (by decide) (by decide)
    obtain ⟨completed, once, -, -, inserted, -, -, kind, sorted⟩ := answers _ decimal
    obtain ⟨_, once', twice, -⟩ := again returned resolution rfl
    rw [once'] at once
    cases once
    exact ⟨_, once', kind, sorted, inserted, twice⟩
  · have failed : ∃ fault left, provider.complete.run stale = .error fault left := ⟨_, _, rfl⟩
    obtain ⟨fault, left, failed⟩ := failed
    have same := refused stale fault left failed
    rw [same] at failed
    exact ⟨fault, failed⟩

/-- The decimal string of a listed id that has more digits than are read is refused. -/
theorem unread_decimal :
    let id : Int := writingBound
    let resolution : Resolution := ⟨"a", "f()", "", .plainText, none, none⟩
    let provider : Provider :=
      ⟨Tables.ofLists [⟨id, "a", .function⟩] [(id, resolution)], by decide +kernel⟩
    let returned : Item := { label := "a", kind := some 3, data := .string (toString id) }
    id ∈ provider.tables.ids ∧ 0 ≤ id ∧
      provider.complete.run returned = .error (.number (.tooLong 4301)) returned := by
  intro id resolution provider returned
  refine ⟨by decide +kernel, by decide +kernel, complete_of_error ?_⟩
  have length : (Nat.toDigits 10 writingBound).length = 4301 := by decide +kernel
  have overlong : Overlong (.string (toString id)) (Nat.toDigits 10 writingBound).length :=
    .digits (writes_toString _) (by rw [length]; decide)
  rw [length] at overlong
  exact resolve_of_overlong overlong

end Provider

end ScriptAssist.Completion
