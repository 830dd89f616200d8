import ScriptAssist.Proofs.Completion.Resolving
import ScriptAssist.Proofs.Server.View

namespace ScriptAssist.Server

open Completion

theorem resolveItem_of_ok {server : Server} {item : Item} {resolution : Resolution}
    (h : server.provider.resolve item.data = .ok resolution) :
    server.resolveItem item = { result := .item (item.merge resolution) } := by
  rw [resolveItem, Provider.complete_of_ok h]

theorem resolveItem_of_number {server : Server} {item : Item} {fault : Text.NumberFault}
    (h : server.provider.resolve item.data = .error (.number fault)) :
    server.resolveItem item = { result := .number fault } := by
  rw [resolveItem, Provider.complete_of_error h]

theorem resolveItem_of_unresolved {server : Server} {item : Item} {id : Value} {literal : String}
    (h : server.provider.resolve item.data = .error (.unresolved id literal)) :
    server.resolveItem item =
      { result := .item item
        events := [Log.warning ("no completion resolution for id " ++ literal ++ " (label " ++
          Text.quoted item.label ++ ")")] } := by
  rw [resolveItem, Provider.complete_of_error h]
  rfl

/-- Data that are not listed give a number fault if they have too many digits, to read or to write. -/
theorem exists_number_of_unlisted {provider : Provider} {value : Value}
    (unlisted : ∀ id ∈ provider.tables.ids, ¬Provider.Denotes value id)
    (h : (∃ n, Provider.Overlong value n) ∨ ¬value.isWritable) :
    ∃ fault, provider.resolve value = .error (.number fault) := by
  by_cases overlong : ∃ n, Provider.Overlong value n
  · obtain ⟨n, overlong⟩ := overlong
    exact ⟨_, Provider.resolve_of_overlong overlong⟩
  · have unwritable := h.resolve_left overlong
    refine ⟨.tooLarge, ?_⟩
    rw [Provider.resolve_of_unlisted unlisted (not_exists.1 overlong),
      Provider.Fault.ofValue_of_not_writable unwritable]

/-- Whatever came before, a request to complete an item changes nothing and sends nothing. If the
data stand for a listed id, the answer is the item with its resolution merged in. If they stand for
none, it is the item as it came, with one warning; only data with more digits than are read or
written, in a string or in an integer, are not answered. -/
theorem resolve_answered (server : Server) (steps : List Step) (item : Item) :
    (∀ id ∈ server.provider.tables.ids, Provider.Denotes item.data id →
      ∃ resolution, server.provider.tables.resolution? id = some resolution ∧
        server.provider.resolve item.data = .ok resolution ∧
        (server.after steps).step (.resolve item) =
          (server.after steps, { result := .item (item.merge resolution) })) ∧
    ((∀ id ∈ server.provider.tables.ids, ¬Provider.Denotes item.data id) →
      ((∀ n, ¬Provider.Overlong item.data n) → item.data.isWritable →
        server.provider.resolve item.data = .error (.unresolved item.data item.data.spelled) ∧
        (server.after steps).step (.resolve item) =
          (server.after steps,
            { result := .item item
              events := [Log.warning ("no completion resolution for id " ++ item.data.spelled ++
                " (label " ++ Text.quoted item.label ++ ")")] })) ∧
      ((∃ n, Provider.Overlong item.data n) ∨ ¬item.data.isWritable →
        ∃ fault, server.provider.resolve item.data = .error (.number fault) ∧
          (server.after steps).step (.resolve item) =
            (server.after steps, { result := .number fault }))) := by
  have same := (server.kept_after steps).2
  refine ⟨?_, fun unlisted => ⟨?_, ?_⟩⟩
  · intro id listed denotes
    obtain ⟨resolution, found, resolved⟩ := Provider.resolve_of_denotes listed denotes
    refine ⟨resolution, found, resolved, ?_⟩
    rw [step, resolveItem_of_ok (same ▸ resolved)]
  · intro short writable
    have refused := Provider.resolve_of_unlisted unlisted short
    rw [Provider.Fault.ofValue_of_writable writable] at refused
    refine ⟨refused, ?_⟩
    rw [step, resolveItem_of_unresolved (same ▸ refused)]
  · intro long
    obtain ⟨fault, failed⟩ := exists_number_of_unlisted unlisted long
    refine ⟨fault, failed, ?_⟩
    rw [step, resolveItem_of_number (same ▸ failed)]

theorem resolve_answered_one :
    let resolution : Resolution := ⟨"a", "f()", "", .plainText, none, none⟩
    let tables := Tables.ofLists [⟨7, "a", .function⟩] [(7, resolution)]
    let started := fresh (Engine.builtIn "ex") ⟨tables, by decide +kernel⟩ .utf16
    let server := started.after [.ready]
    let item := fun data => ({ label := "a", data } : Item)
    server.step (.resolve (item (.string " 007"))) =
      (server, { result := .item ((item (.string " 007")).merge resolution) }) ∧
    server.step (.resolve (item (.bool true))) =
      (server,
        { result := .item (item (.bool true))
          events := [Log.warning "no completion resolution for id True (label 'a')"] }) := by
  intro resolution tables started server item
  have written : Provider.Writes " 007" ['0', '0', '7'] :=
    Provider.writes_iff.2 ⟨by decide, by decide, List.all_eq_true.1 rfl⟩
  have denotes : Provider.Denotes (.string " 007") 7 := .digits written (by decide)
  constructor
  · obtain ⟨listed, -⟩ := resolve_answered started [.ready] (item (.string " 007"))
    obtain ⟨found, h, -, answered⟩ := listed 7 (by decide) denotes
    have only : tables.resolution? 7 = some resolution := by decide +kernel
    obtain rfl : resolution = found := Option.some.inj (only.symm.trans h)
    exact answered
  · obtain ⟨-, unlisted⟩ := resolve_answered started [.ready] (item (.bool true))
    have denotesNone : ∀ id ∈ started.provider.tables.ids,
        ¬Provider.Denotes (item (.bool true)).data id := by
      intro id _ denotes
      cases denotes
    obtain ⟨-, answered⟩ := (unlisted denotesNone).1 (by intro n h; cases h) rfl
    have text : "no completion resolution for id " ++ (Value.bool true).spelled ++ " (label " ++
        Text.quoted "a" ++ ")" = "no completion resolution for id True (label 'a')" := by
      decide +kernel
    rw [← text]
    exact answered

/-- Neither a string of more digits than are read nor a number of more digits than are written is
answered with an item. -/
theorem unanswered_digits :
    let server := fresh (Engine.builtIn "ex") ⟨Tables.ofLists [] [], rfl⟩ .utf16
    let item := fun data => ({ label := "x", data } : Item)
    (server.step (.resolve (item (.string (String.ofList (List.replicate 4301 '1')))))).2.result =
        .number (.tooLong 4301) ∧
      (server.step (.resolve (item (.int (Text.writingBound))))).2.result =
        .number .tooLarge := by
  intro server item
  have length : (List.replicate 4301 '1').length = 4301 := List.length_replicate
  have written : Provider.Writes (String.ofList (List.replicate 4301 '1'))
      (List.replicate 4301 '1') := by
    apply Provider.writes_ofList
    · apply List.ne_nil_of_length_pos
      omega
    · intro c hc
      rw [List.eq_of_mem_replicate hc]
      rfl
  have overlong : Provider.Overlong (.string (String.ofList (List.replicate 4301 '1')))
      (List.replicate 4301 '1').length :=
    .digits written (by rw [length]; decide)
  have unwritable : ¬(Value.int (Text.writingBound)).isWritable := by decide +kernel
  have refused : server.provider.resolve (.int (Text.writingBound)) =
      .error (.number .tooLarge) := by
    rw [← Provider.Fault.ofValue_of_not_writable unwritable]
    rfl
  constructor
  · rw [step, resolveItem_of_number (Provider.resolve_of_overlong overlong), length]
  · rw [step, resolveItem_of_number refused]

end ScriptAssist.Server
