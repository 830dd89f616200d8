import ScriptAssist.Pairs

namespace ScriptAssist.Toml

/-- A value of a configuration file. Floats and moments keep their spelling. -/
inductive Value where
  | string (s : String)
  | integer (n : Int)
  | float (spelling : String)
  | boolean (b : Bool)
  | moment (spelling : String)
  | array (items : List Value)
  | table (entries : List (String × Value))
  deriving Inhabited

/-- Arrays and tables are written inside other values. -/
def Value.isInline : Value → Bool
  | array _ => true
  | table _ => true
  | _ => false

abbrev Table := List (String × Value)

/-- The names that lead to a value, from the outside in. -/
abbrev Key := List String

/-- Changes the table that a key leads to, and makes the tables on the way that are missing. An
array of tables stands for its last one if `throughArrays`. No other value has a way through it. -/
def Table.change (throughArrays : Bool) (f : Table → Option Table) : Key → Table → Option Table
  | [], table => f table
  | name :: key, table =>
    match Pairs.get? name table with
    | none => (change throughArrays f key []).map fun inner => Pairs.put name (.table inner) table
    | some (.table inner) =>
      (change throughArrays f key inner).map fun inner => Pairs.put name (.table inner) table
    | some (.array items) =>
      match items.getLast? with
      | some (.table inner) =>
        if throughArrays then
          (change throughArrays f key inner).map fun inner =>
            Pairs.put name (.array (items.dropLast ++ [.table inner])) table
        else none
      | _ => none
    | some _ => none

/-- Adds a new name to a table. -/
def Table.add? (name : String) (value : Value) (table : Table) : Option Table :=
  if (Pairs.get? name table).isSome then none else some (Pairs.put name value table)

/-- Adds an empty table to an array of tables, which may be missing. -/
def Table.grow? (name : String) (table : Table) : Option Table :=
  match Pairs.get? name table with
  | none => some (Pairs.put name (.array [.table []]) table)
  | some (.array items) => some (Pairs.put name (.array (items ++ [.table []])) table)
  | some _ => none

/-- What has been read of a file: its values, the keys of inline values, which nothing may extend,
the keys that no header may declare again, and those of them that count from the next header on. -/
structure Document where
  root : Table := []
  frozen : List Key := []
  declared : List Key := []
  pending : List Key := []

namespace Document

def isFrozen (document : Document) (key : Key) : Bool := document.frozen.any (·.isPrefixOf key)

def isDeclared (document : Document) (key : Key) : Bool := document.declared.contains key

/-- Makes the pending keys count. -/
def settle (document : Document) : Document :=
  { document with declared := document.pending ++ document.declared, pending := [] }

/-- Declares a table. Nobody else has declared it, and no inline value holds it. -/
def declareTable? (document : Document) (key : Key) : Option Document :=
  if document.isDeclared key || document.isFrozen key then none
  else
    (document.root.change true some key).map fun root =>
      { document with root, declared := key :: document.declared }

/-- Declares one more table of an array. What was declared inside the last one is free again. -/
def declareItem? (document : Document) (key : Key) : Option Document :=
  if document.isFrozen key then none
  else
    let free := fun keys : List Key => keys.filter fun other => !key.isPrefixOf other
    (document.root.change true (Table.grow? (key.getLastD "")) key.dropLast).map fun root =>
      { document with
        root
        frozen := free document.frozen
        declared := key :: free document.declared }

/-- The keys that lead from `header` to `key`, both ends excluded. -/
def between (header key : Key) : List Key :=
  (List.range key.length).filterMap fun n => if n = 0 then none else some (header ++ key.take n)

/-- Sets a value below a header. The tables on the way must not have been declared. -/
def assign? (document : Document) (header key : Key) (value : Value) : Option Document :=
  let way := between header key
  if way.any document.isDeclared || document.isFrozen (header ++ key.dropLast) then none
  else
    (document.root.change true (Table.add? (key.getLastD "") value) (header ++ key.dropLast)).map
      fun root =>
        { document with
          root
          pending := way ++ document.pending
          frozen := if value.isInline then (header ++ key) :: document.frozen else document.frozen }

end Document

end ScriptAssist.Toml
