namespace ScriptAssist

/-- What a placeholder of a template stands for: a place to visit, or a named value. -/
inductive Template.Head where
  | index (index : Nat)
  | name (name : List Char)
  deriving DecidableEq, Repr

/-- A template is a sequence of literal characters and placeholders. A placeholder is written bare
(`$1`), in braces (`${1}`), or in braces with a default that is a template itself (`${1:text}`). -/
inductive Template where
  | done
  | char (c : Char) (rest : Template)
  | bare (head : Template.Head) (rest : Template)
  | closed (head : Template.Head) (rest : Template)
  | filled (head : Template.Head) (default rest : Template)
  deriving DecidableEq, Repr

namespace Template

/-- A place that the cursor visits, with the text that is offered there. -/
structure Stop where
  index : Nat
  default : List Char
  deriving DecidableEq, Repr

namespace Head

/-- What a placeholder shows: an index its default, a name its default or, if that is empty,
itself. -/
def shown : Head → List Char → List Char
  | .index _, default => default
  | .name id, default => if default.isEmpty then id else default

def stops : Head → List Char → List Stop
  | .index n, default => [⟨n, default⟩]
  | .name _, _ => []

def names : Head → List (List Char)
  | .index _ => []
  | .name id => [id]

end Head

protected def append : Template → Template → Template
  | done, after => after
  | char c rest, after => char c (rest.append after)
  | bare head rest, after => bare head (rest.append after)
  | closed head rest, after => closed head (rest.append after)
  | filled head default rest, after => filled head default (rest.append after)

instance : Append Template := ⟨Template.append⟩

/-- The text of a template before anyone fills it in. -/
def render : Template → List Char
  | done => []
  | char c rest => c :: rest.render
  | bare head rest => head.shown [] ++ rest.render
  | closed head rest => head.shown [] ++ rest.render
  | filled head default rest => head.shown default.render ++ rest.render

/-- The stops of a template, those inside a default before the stop that has it. -/
def stops : Template → List Stop
  | done => []
  | char _ rest => rest.stops
  | bare head rest => head.stops [] ++ rest.stops
  | closed head rest => head.stops [] ++ rest.stops
  | filled head default rest => default.stops ++ head.stops default.render ++ rest.stops

/-- The names of a template, those inside a default before the name that has it. -/
def names : Template → List (List Char)
  | done => []
  | char _ rest => rest.names
  | bare head rest => head.names ++ rest.names
  | closed head rest => head.names ++ rest.names
  | filled head default rest => default.names ++ head.names ++ rest.names

/-- Index zero marks where the cursor stays at the end. -/
def hasFinalStop (template : Template) : Bool := template.stops.any (·.index = 0)

/-- The indices in visiting order: each once, ascending, and zero last. -/
def tabOrder (template : Template) : List Nat :=
  let indices := (template.stops.map Stop.index).filter (· ≠ 0)
  indices.eraseDups.mergeSort (· ≤ ·) ++ if template.hasFinalStop then [0] else []

@[simp] theorem done_append (t : Template) : done ++ t = t := rfl

@[simp] theorem char_append (c : Char) (rest t : Template) :
    char c rest ++ t = char c (rest ++ t) := rfl

@[simp] theorem bare_append (head : Head) (rest t : Template) :
    bare head rest ++ t = bare head (rest ++ t) := rfl

@[simp] theorem closed_append (head : Head) (rest t : Template) :
    closed head rest ++ t = closed head (rest ++ t) := rfl

@[simp] theorem filled_append (head : Head) (default rest t : Template) :
    filled head default rest ++ t = filled head default (rest ++ t) := rfl

@[simp] theorem render_append (s t : Template) : (s ++ t).render = s.render ++ t.render := by
  induction s <;> simp_all [render]

@[simp] theorem stops_append (s t : Template) : (s ++ t).stops = s.stops ++ t.stops := by
  induction s <;> simp_all [stops]

@[simp] theorem names_append (s t : Template) :
    (s ++ t).names = s.names ++ t.names := by
  induction s <;> simp_all [names]

/-! ## Writing -/

/-- The characters that a backslash makes literal. -/
def isEscapable (c : Char) : Bool := c = '$' || c = '}' || c = '\\'

/-- Writes literal text so that it stands for itself inside a template. -/
def escape (text : List Char) : List Char :=
  text.flatMap fun c => if isEscapable c then ['\\', c] else [c]

namespace Head

/-- An index is written in decimal digits, a name as it is. -/
def print : Head → List Char
  | .index n => Nat.toDigits 10 n
  | .name id => id

end Head

/-- Writes a template with every placeholder in braces. -/
def print : Template → List Char
  | done => []
  | char c rest => escape [c] ++ rest.print
  | bare head rest => '$' :: '{' :: (head.print ++ '}' :: rest.print)
  | closed head rest => '$' :: '{' :: (head.print ++ '}' :: rest.print)
  | filled head default rest =>
    '$' :: '{' :: (head.print ++ ':' :: (default.print ++ '}' :: rest.print))

end Template

end ScriptAssist
