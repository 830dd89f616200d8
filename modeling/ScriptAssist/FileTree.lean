import ScriptAssist.Pairs
import ScriptAssist.Path
import ScriptAssist.Text.Line
import ScriptAssist.Text.Quoted
import ScriptAssist.Text.Utf8

namespace ScriptAssist

/-- What a path leads to. -/
inductive Lookup where
  | missing
  /-- A name on the way is that of a file. -/
  | blocked
  | directory
  | file (bytes : List UInt8)

/-- Why there is no text to read. -/
inductive ReadFault where
  | missing
  | blocked
  | directory
  | encoding (fault : Text.Utf8.Fault)
  deriving DecidableEq, Repr

def ReadFault.message (path : Path) : ReadFault → String
  | .missing => s!"[Errno 2] No such file or directory: {Text.quoted path.text}"
  | .blocked => s!"[Errno 20] Not a directory: {Text.quoted path.text}"
  | .directory => s!"[Errno 21] Is a directory: {Text.quoted path.text}"
  | .encoding fault => fault.message

/-- The text of a file: its bytes as UTF-8, with a line feed for every carriage return. -/
def Lookup.text : Lookup → Except ReadFault (List Char)
  | .missing => .error .missing
  | .blocked => .error .blocked
  | .directory => .error .directory
  | .file bytes =>
    match Text.Utf8.decode bytes with
    | .ok text => .ok (Text.unifyBreaks text)
    | .error fault => .error (.encoding fault)

/-- Files and directories below a working directory, by the names that lead to them. -/
structure FileTree where
  files : List (List (List Char) × List UInt8)
  directories : List (List (List Char))

namespace FileTree

/-- What stands at a place of the tree; the directories on the way to something are there too. -/
def entry (tree : FileTree) (place : List (List Char)) : Lookup :=
  match Pairs.get? place tree.files with
  | some bytes => .file bytes
  | none =>
    if place = [] ∨ tree.files.any (place.isPrefixOf ·.1) ∨
        tree.directories.any place.isPrefixOf then
      .directory
    else .missing

/-- Follows names from a place on. The tree ends at the working directory. -/
def follow (tree : FileTree) : List (List Char) → List (List Char) → Lookup
  | place, [] => tree.entry place
  | place, name :: names =>
    match tree.entry place with
    | .directory =>
      if name = ['.', '.'] then
        if place = [] then if names = [] then .directory else .missing
        else tree.follow place.dropLast names
      else tree.follow (place ++ [name]) names
    | .file _ => .blocked
    | other => other

/-- What a path leads to; only what is below the working directory is known. -/
def lookup (tree : FileTree) (path : Path) : Lookup :=
  if path.root = 0 then tree.follow [] path.parts else .missing

end FileTree

end ScriptAssist
