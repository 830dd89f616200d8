import ScriptAssist.Value

namespace ScriptAssist

/-- What a client can do, as far as it matters here. -/
structure Session where
  configuration : Bool := false
  workspaceFolders : Bool := false
  relatedInformation : Bool := false
  deriving DecidableEq, Repr

namespace Session

/-- Reads the capabilities of a client; what is absent at any depth is not there. -/
def ofCapabilities (capabilities : Value) : Session :=
  let workspace := capabilities.field "workspace"
  let publishing := (capabilities.field "textDocument").field "publishDiagnostics"
  ⟨(workspace.field "configuration").isTrue, (workspace.field "workspaceFolders").isTrue,
    (publishing.field "relatedInformation").isTrue⟩

def describe (session : Session) : String :=
  let configuration := Value.boolLiteral session.configuration
  let folders := Value.boolLiteral session.workspaceFolders
  let related := Value.boolLiteral session.relatedInformation
  s!"SessionConfig(configuration={configuration}, workspace_folders={folders}, " ++
    s!"diagnostic_related_information={related})"

/-- Why options are refused. -/
inductive OptionsFault where
  | notObject
  | notText (key : String)
  deriving DecidableEq, Repr

/-- The threshold's name that options ask for. The first of the two keys that is there counts, and
its value is a string or null. -/
def levelName (options : Value) : Except OptionsFault (Option String) :=
  let text := fun (key : String) (value : Value) =>
    match value with
    | .null => .ok none
    | .string name => .ok (some name)
    | _ => .error (.notText key)
  match options with
  | .object fields =>
    match fields.lookup "logLevel" with
    | some value => text "logLevel" value
    | none =>
      match fields.lookup "log_level" with
      | some value => text "log_level" value
      | none => .ok none
  | _ => .error .notObject

end Session

end ScriptAssist
