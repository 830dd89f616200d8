import ScriptAssist.Text.Number

namespace ScriptAssist

/-- A value as clients send it. A number with a point is known by its shortest literal. -/
inductive Value where
  | null
  | bool (b : Bool)
  | int (n : Int)
  | decimal (shortest : String)
  | string (s : String)
  | list (items : List Value)
  | object (fields : List (String × Value))
  deriving Inhabited

namespace Value

/-! ## Parts -/

/-- A field of an object; whatever has no such field gives null. -/
def field (value : Value) (name : String) : Value :=
  match value with
  | object fields => (fields.lookup name).getD null
  | _ => null

def isTrue : Value → Bool
  | bool b => b
  | _ => false

def items : Value → List Value
  | list items => items
  | _ => []

def text : Value → String
  | string s => s
  | _ => ""

def number : Value → Nat
  | int n => n.toNat
  | _ => 0

/-! ## Literals -/

mutual

/-- Whether every number in a value can be written. -/
def isWritable : Value → Bool
  | int n => decide (Text.Writable n)
  | list items => areWritable items
  | object fields => areFieldsWritable fields
  | _ => true

def areWritable : List Value → Bool
  | [] => true
  | item :: items => item.isWritable && areWritable items

def areFieldsWritable : List (String × Value) → Bool
  | [] => true
  | (_, value) :: fields => value.isWritable && areFieldsWritable fields

end

def boolLiteral (b : Bool) : String := if b then "True" else "False"

mutual

/-- The literal of a value, whatever its numbers are. -/
def spelled : Value → String
  | null => "None"
  | bool b => boolLiteral b
  | int n => toString n
  | decimal shortest => shortest
  | string s => Text.quoted s
  | list items => "[" ++ ", ".intercalate (spelledItems items) ++ "]"
  | object fields => "\x7b" ++ ", ".intercalate (spelledFields fields) ++ "\x7d"

def spelledItems : List Value → List String
  | [] => []
  | item :: items => item.spelled :: spelledItems items

def spelledFields : List (String × Value) → List String
  | [] => []
  | (key, value) :: fields => (Text.quoted key ++ ": " ++ value.spelled) :: spelledFields fields

end

/-- The literal of a value in messages. One number that cannot be written spoils it. -/
def literal (value : Value) : Except Text.NumberFault String :=
  if value.isWritable then .ok value.spelled else .error .tooLarge

end Value

/-- What went wrong with a table or a rule: a headline and the values that show it. -/
structure Complaint where
  headline : String
  details : List (String × Value)

namespace Complaint

def isWritable (complaint : Complaint) : Bool := complaint.details.all (·.2.isWritable)

/-- The headline, and the details in parentheses if there are any. -/
def spelled (complaint : Complaint) : String :=
  if complaint.details.isEmpty then complaint.headline
  else
    let details := complaint.details.map fun detail => detail.1 ++ "=" ++ detail.2.spelled
    complaint.headline ++ " (" ++ ", ".intercalate details ++ ")"

/-- The text of a complaint, unless it has a number that cannot be written. -/
def text (complaint : Complaint) : Except Text.NumberFault String :=
  if complaint.isWritable then .ok complaint.spelled else .error .tooLarge

end Complaint

/-- The message of a mark that should never be reached. -/
def unreachableMessage (reason : String) : String :=
  if reason.isEmpty then "never() marker reached" else reason

end ScriptAssist
