import ScriptAssist.Engine
import ScriptAssist.FileTree
import ScriptAssist.Log
import ScriptAssist.Toml.Reader

namespace ScriptAssist

/-- The resolved settings of a server. -/
structure Settings where
  logLevel : Int
  logFile : Option Path
  source : String
  deriving DecidableEq, Repr

namespace Settings

/-- The name of the configuration file when none is given. -/
def configName : String := "uselsp.toml"

def levelVariable : String := "USELSP_LOG_LEVEL"
def fileVariable : String := "USELSP_LOG_FILE"

/-- The name of the threshold when none is configured. -/
def defaultLevelName : String := "warning"

/-- The environment: the values of its variables. -/
abbrev Environment := List (String × String)

/-- The value of a variable without the blanks around it; a blank variable counts as absent. -/
def lookedUp? (environment : Environment) (name : String) : Option String :=
  let value := Text.trimmed ((Pairs.get? name environment).getD "")
  if value.isEmpty then none else some value

/-- A section of a configuration; anything but a table counts as an empty one. -/
def sectionOf (table : Toml.Table) (name : String) : Toml.Table :=
  match Pairs.get? name table with
  | some (.table entries) => entries
  | _ => []

/-- The threshold that a configured value asks for: an integer itself, a string by its name. -/
def levelOf? : Toml.Value → Option Int
  | .integer rank => some rank
  | .string name => Log.named? name
  | _ => none

/-- A configured file name; anything but a text that is not empty counts as absent. -/
def fileOf? : Toml.Value → Option String
  | .string name => if name.isEmpty then none else some name
  | _ => none

/-- A configured tag; anything but a text that is not blank counts as absent. -/
def sourceOf? : Toml.Value → Option String
  | .string source => if (Text.trim source.toList).isEmpty then none else some source
  | _ => none

/-- Settings from a configuration, with the environment in front of it. A level that is asked for
but not known is not replaced by one from behind it. -/
def resolve (table : Toml.Table) (environment : Environment) : Settings where
  logLevel :=
    let asked := match lookedUp? environment levelVariable with
      | some name => Log.named? name
      | none => (Pairs.get? "log_level" (sectionOf table "server")).bind levelOf?
    asked.getD Log.defaultThreshold
  logFile :=
    let name := match lookedUp? environment fileVariable with
      | some name => some name
      | none => (Pairs.get? "log_file" (sectionOf table "server")).bind fileOf?
    name.map Path.read
  source :=
    ((Pairs.get? "source" (sectionOf table "diagnostics")).bind sourceOf?).getD Engine.defaultSource

/-- What stands at the place of a configuration file. -/
inductive File where
  | missing
  | unreadable
  | bytes (bytes : List UInt8)

/-- The configuration in a file, and whether a warning says that the file is ignored. Only a number
with too many digits is not passed over. -/
def configuration : File → Except Text.NumberFault (Toml.Table × List Log.Event)
  | .missing => .ok ([], [])
  | .unreadable => .ok ([], [Log.warning "ignoring config file"])
  | .bytes bytes =>
    match Text.Utf8.decode bytes with
    | .error _ => .ok ([], [Log.warning "ignoring config file"])
    | .ok text =>
      match Toml.read text with
      | .ok table => .ok (table, [])
      | .error .malformed => .ok ([], [Log.warning "ignoring config file"])
      | .error (.number fault) => .error fault

/-- What the command line says about settings. -/
structure Flags where
  logLevel : Option String := none
  logFile : Option Path := none
  deriving DecidableEq, Repr

/-- Settings with flags in front of them, unless the level that a flag asks for is not known. -/
def withFlags (settings : Settings) (flags : Flags) : Option Settings :=
  let logFile := flags.logFile.or settings.logFile
  match flags.logLevel with
  | none => some { settings with logFile }
  | some name => (Log.named? name).map fun logLevel => { settings with logLevel, logFile }

end Settings

/-- What a path leads to, as a configuration file. -/
def Lookup.asConfiguration : Lookup → Settings.File
  | .missing => .missing
  | .file bytes => .bytes bytes
  | _ => .unreadable

end ScriptAssist
