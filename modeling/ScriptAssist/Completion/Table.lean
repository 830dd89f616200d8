import ScriptAssist.Pairs
import ScriptAssist.Template.Reader
import ScriptAssist.Value

namespace ScriptAssist.Completion

/-- What a completion inserts: a call of a function, or a longer piece of script. -/
inductive Category where
  | function
  | snippet
  deriving DecidableEq, Repr

namespace Category

def name : Category → String
  | function => "function"
  | snippet => "snippet"

/-- The number by which clients know the kind. -/
def kind : Category → Nat
  | function => 3
  | snippet => 15

def ofName? (name : String) : Option Category := [function, snippet].find? (·.name = name)

end Category

/-- Whether the inserted text is a template. -/
inductive Format where
  | plainText
  | snippet
  deriving DecidableEq, Repr

namespace Format

def name : Format → String
  | plainText => "plaintext"
  | snippet => "snippet"

/-- The number by which clients know the format. -/
def code : Format → Nat
  | plainText => 1
  | snippet => 2

def ofName? (name : String) : Option Format := [plainText, snippet].find? (·.name = name)

def ofCode? (code : Nat) : Option Format := [plainText, snippet].find? (·.code = code)

end Format

/-- A line of the catalog. -/
structure Entry where
  id : Int
  label : String
  category : Category := .function
  deriving DecidableEq, Repr

/-- What a catalog line stands for, told when a client asks for it. -/
structure Resolution where
  label : String
  insertText : String
  documentation : String
  format : Format := .snippet
  sortText : Option String := none
  /-- Without one, the category of the catalog line stays. -/
  category : Option Category := some .function
  deriving DecidableEq, Repr

/-- A catalog and the resolutions of its ids. -/
structure Tables where
  catalog : List Entry
  resolutions : List (Int × Resolution)
  deriving DecidableEq, Repr

namespace Tables

/-- Later resolutions of an id replace earlier ones. -/
def ofLists (catalog : List Entry) (resolutions : List (Int × Resolution)) : Tables :=
  ⟨catalog, Pairs.ofList resolutions⟩

def ids (tables : Tables) : List Int := tables.catalog.map Entry.id

def resolvedIds (tables : Tables) : List Int := tables.resolutions.map Prod.fst

def resolution? (tables : Tables) (id : Int) : Option Resolution := Pairs.get? id tables.resolutions

/-- How the two tables can disagree. -/
inductive Inconsistency where
  | duplicateId (id : Int)
  | unresolved (ids : List Int)
  | unlisted (ids : List Int)
  | labels (id : Int) (listed resolved : String)
  | template (id : Int) (label insertText : String) (reason : Template.Reason) (offset : Nat)
  deriving DecidableEq, Repr

def Inconsistency.complaint : Inconsistency → Complaint
  | .duplicateId id => ⟨"duplicate catalog id", [("id", .int id)]⟩
  | .unresolved ids => ⟨"catalog ids without resolution", [("ids", .list (ids.map .int))]⟩
  | .unlisted ids => ⟨"resolutions without catalog entry", [("ids", .list (ids.map .int))]⟩
  | .labels id listed resolved =>
    ⟨"catalog and resolution labels disagree",
      [("id", .int id), ("catalog", .string listed), ("resolution", .string resolved)]⟩
  | .template id label insertText reason offset =>
    let fault := Template.Fault.malformed reason offset
    ⟨"malformed snippet template",
      [("id", .int id), ("label", .string label),
        ("error", .string (fault.message insertText.toList))]⟩

/-- Why tables are refused: they disagree, or an index in a template has no value. -/
inductive Fault where
  | inconsistent (inconsistency : Inconsistency)
  | index (fault : Text.NumberFault)
  deriving DecidableEq, Repr

/-- The first id that stands earlier in the list too. -/
def firstRepeated (seen : List Int) : List Int → Option Int
  | [] => none
  | id :: ids => if id ∈ seen then some id else firstRepeated (id :: seen) ids

def sorted (ids : List Int) : List Int := ids.mergeSort (· ≤ ·)

/-- A resolution agrees with its catalog line, and its template can be read. -/
def checkEntry (entry : Entry) (resolution : Resolution) : Except Fault Unit :=
  if resolution.label ≠ entry.label then
    .error (.inconsistent (.labels entry.id entry.label resolution.label))
  else
    match resolution.format with
    | .plainText => .ok ()
    | .snippet =>
      match Template.read resolution.insertText.toList with
      | .ok _ => .ok ()
      | .error (.malformed reason offset) =>
        .error (.inconsistent (.template entry.id entry.label resolution.insertText reason offset))
      | .error (.index fault) => .error (.index fault)

def checkEntries (tables : Tables) : List Entry → Except Fault Unit
  | [] => .ok ()
  | entry :: entries =>
    match tables.resolution? entry.id with
    | none => .error (.inconsistent (.unresolved [entry.id]))
    | some resolution =>
      match checkEntry entry resolution with
      | .error fault => .error fault
      | .ok () => checkEntries tables entries

/-- Looks for repeated ids first, then for ids of one table only, then at each line. -/
def check (tables : Tables) : Except Fault Unit :=
  match firstRepeated [] tables.ids with
  | some id => .error (.inconsistent (.duplicateId id))
  | none =>
    let unresolved := tables.ids.filter (· ∉ tables.resolvedIds)
    if unresolved ≠ [] then .error (.inconsistent (.unresolved (sorted unresolved)))
    else
      let unlisted := tables.resolvedIds.filter (· ∉ tables.ids)
      if unlisted ≠ [] then .error (.inconsistent (.unlisted (sorted unlisted)))
      else tables.checkEntries tables.catalog

end Tables

end ScriptAssist.Completion
