import ScriptAssist.Value

namespace ScriptAssist.Value

/-- One code unit as an escape. -/
def unitEscape (unit : Nat) : List Char := '\\' :: 'u' :: Text.hexDigits 4 unit

/-- One character inside a JSON string: in ASCII, with a short escape where there is one and a pair
of surrogates beyond the first plane. -/
def jsonChar (c : Char) : List Char :=
  match [('"', '"'), ('\\', '\\'), ('\n', 'n'), ('\r', 'r'), ('\t', 't'), ('\x0c', 'f'),
      ('\x08', 'b')].lookup c with
  | some letter => ['\\', letter]
  | none =>
    if ' ' ≤ c && c ≤ '~' then [c]
    else if c.toNat < 0x10000 then unitEscape c.toNat
    else
      unitEscape (0xD800 + (c.toNat - 0x10000) / 0x400) ++
        unitEscape (0xDC00 + (c.toNat - 0x10000) % 0x400)

def jsonString (s : String) : String := "\"" ++ String.ofList (s.toList.flatMap jsonChar) ++ "\""

/-- Items between brackets, each on a line of its own. -/
def block (left right : String) (depth : Nat) (items : List String) : String :=
  let newLine := fun (depth : Nat) => "\n" ++ String.ofList (List.replicate (2 * depth) ' ')
  if items.isEmpty then left ++ right
  else
    left ++ newLine (depth + 1) ++ ("," ++ newLine (depth + 1)).intercalate items ++
      newLine depth ++ right

mutual

/-- The JSON text of a value that begins `depth` levels in; each level is indented by two spaces. -/
def json (depth : Nat) : Value → String
  | null => "null"
  | bool true => "true"
  | bool false => "false"
  | int n => toString n
  | decimal shortest => shortest
  | string s => jsonString s
  | list items => block "[" "]" depth (jsonItems (depth + 1) items)
  | object fields => block "\x7b" "\x7d" depth (jsonFields (depth + 1) fields)

def jsonItems (depth : Nat) : List Value → List String
  | [] => []
  | item :: items => item.json depth :: jsonItems depth items

def jsonFields (depth : Nat) : List (String × Value) → List String
  | [] => []
  | (key, value) :: fields =>
    (jsonString key ++ ": " ++ value.json depth) :: jsonFields depth fields

end

/-- The JSON text of a value. -/
def indented (value : Value) : String := value.json 0

/-- The JSON text of a value, unless it has a number that cannot be written. -/
def written (value : Value) : Except Text.NumberFault String :=
  if value.isWritable then .ok value.indented else .error .tooLarge

end ScriptAssist.Value
