namespace ScriptAssist

/-- A path of files: its leading slashes, none, one or two, and the names between the others. -/
structure Path where
  root : Nat
  parts : List (List Char)
  deriving DecidableEq, Repr

namespace Path

/-- The pieces of a text between slashes. -/
def pieces : List Char → List (List Char)
  | [] => [[]]
  | c :: cs =>
    if c = '/' then [] :: pieces cs
    else
      match pieces cs with
      | [] => [[c]]
      | piece :: rest => (c :: piece) :: rest

/-- Reads a path: repeated slashes count once, but exactly two at the front count as two; single
dots and a slash at the end go; double dots stay. -/
def read (text : String) : Path :=
  let slashes := (text.toList.takeWhile (· = '/')).length
  ⟨if slashes ≤ 2 then slashes else 1,
    (pieces text.toList).filter fun piece => piece ≠ [] ∧ piece ≠ ['.']⟩

/-- The text of a path; the path without root and names is a dot. -/
def text (path : Path) : String :=
  let names := "/".intercalate (path.parts.map String.ofList)
  if path.root = 0 ∧ path.parts = [] then "."
  else String.ofList (List.replicate path.root '/') ++ names

/-- One path after another; a path with a root of its own stands alone. -/
def join (path other : Path) : Path :=
  if other.root = 0 then ⟨path.root, path.parts ++ other.parts⟩ else other

/-- Takes away a name for each double dot behind it. At the root a double dot leads nowhere; without
a root those at the front stay. -/
def collapse (path : Path) : Path :=
  let up := ['.', '.']
  let names := path.parts.foldl (fun (names : List (List Char)) part =>
    if part = up then
      match names with
      | [] => if path.root = 0 then [up] else []
      | name :: rest => if name = up then up :: names else rest
    else part :: names) []
  ⟨path.root, names.reverse⟩

end Path

end ScriptAssist
