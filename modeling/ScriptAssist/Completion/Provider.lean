import ScriptAssist.Completion.Table
import ScriptAssist.Text.Line

namespace ScriptAssist.Completion

/-- A completion as it travels to a client and back. -/
structure Item where
  label : String
  kind : Option Nat := none
  documentation : Option String := none
  sortText : Option String := none
  insertText : Option String := none
  format : Option Format := none
  data : Value := .null

/-- Merges a resolution into an item. A category or sort text that the resolution lacks is kept. -/
def Item.merge (item : Item) (resolution : Resolution) : Item :=
  { item with
    kind := (resolution.category.map Category.kind).or item.kind
    insertText := some resolution.insertText
    format := some resolution.format
    documentation := some resolution.documentation
    sortText := resolution.sortText.or item.sortText }

/-- Tables that passed their check. -/
structure Provider where
  tables : Tables
  checked : tables.check = .ok ()

namespace Provider

def ofTables (tables : Tables) : Except Tables.Fault Provider :=
  match h : tables.check with
  | .ok () => .ok ⟨tables, h⟩
  | .error fault => .error fault

/-- Why a value resolves to nothing: no id of the tables, or more digits than are read or written. -/
inductive Fault where
  | unresolved (id : Value) (literal : String)
  | number (fault : Text.NumberFault)

def Fault.message : Fault → String
  | .unresolved _ literal => "no completion resolution for id " ++ literal
  | .number fault => fault.message

/-- The fault of a value that is no id of the tables. Its literal is taken at once. -/
def Fault.ofValue (value : Value) : Fault :=
  match value.literal with
  | .ok literal => .unresolved value literal
  | .error fault => .number fault

theorem Fault.ofValue_of_writable {value : Value} (h : value.isWritable) :
    ofValue value = .unresolved value value.spelled := by
  rw [ofValue, Value.literal, if_pos h]

theorem Fault.ofValue_of_not_writable {value : Value} (h : ¬value.isWritable) :
    ofValue value = .number .tooLarge := by
  rw [ofValue, Value.literal, if_neg h]

/-- The id that a value denotes: an integer itself, a string the number that its ASCII digits write,
blanks around them aside. -/
def idOf (value : Value) : Except Text.NumberFault (Option Int) :=
  match value with
  | .int id => .ok (some id)
  | .string s =>
    let digits := Text.trim s.toList
    if !digits.isEmpty && digits.all Text.isAsciiDigit then
      match Text.readNumber digits with
      | .ok id => .ok (some id)
      | .error fault => .error fault
    else .ok none
  | _ => .ok none

def resolve (provider : Provider) (value : Value) : Except Fault Resolution :=
  match idOf value with
  | .error fault => .error (.number fault)
  | .ok none => .error (.ofValue value)
  | .ok (some id) =>
    match provider.tables.resolution? id with
    | none => .error (.ofValue value)
    | some resolution => .ok resolution

/-- The catalog as items; each carries its id. -/
def items (provider : Provider) : List Item :=
  provider.tables.catalog.map fun entry =>
    { label := entry.label, kind := some entry.category.kind, data := .int entry.id }

/-- Completes the item at hand, field by field. Its data are looked up before anything is written, and
a category or sort text that the resolution lacks is not written. -/
def complete (provider : Provider) : EStateM Fault Item Unit := do
  let resolution ← MonadExcept.ofExcept (provider.resolve (← get).data)
  if let some category := resolution.category then
    modify ({ · with kind := some category.kind })
  modify ({ · with insertText := some resolution.insertText })
  modify ({ · with format := some resolution.format })
  modify ({ · with documentation := some resolution.documentation })
  if let some sortText := resolution.sortText then
    modify ({ · with sortText := some sortText })

/-- Completes an item by the resolution of its data. -/
def resolveItem (provider : Provider) (item : Item) : Except Fault Item :=
  match provider.complete.run item with
  | .ok () completed => .ok completed
  | .error fault _ => .error fault

theorem complete_of_ok {provider : Provider} {item : Item} {resolution : Resolution}
    (h : provider.resolve item.data = .ok resolution) :
    provider.complete.run item = .ok () (item.merge resolution) := by
  obtain ⟨label, text, documentation, format, sortText, category⟩ := resolution
  cases category <;> cases sortText <;>
    simp [complete, h, MonadExcept.ofExcept, Item.merge]

theorem complete_of_error {provider : Provider} {item : Item} {fault : Fault}
    (h : provider.resolve item.data = .error fault) :
    provider.complete.run item = .error fault item := by
  have thrown : (throw fault : EStateM Fault Item Resolution).run item = .error fault item := rfl
  simp [complete, h, MonadExcept.ofExcept, thrown]

end Provider

end ScriptAssist.Completion
