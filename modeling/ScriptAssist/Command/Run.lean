import ScriptAssist.Command
import ScriptAssist.Completion.Provider
import ScriptAssist.Settings
import ScriptAssist.Value.Indented

namespace ScriptAssist.Command

/-- How a command ends: with an exit code, with a refusal of its arguments, or with a failure that
it does not handle. -/
inductive Ending where
  | exit (code : Nat)
  | usage
  | number (fault : Text.NumberFault)
  | missingFile
  | isDirectory
  | notDirectory
  deriving DecidableEq, Repr

/-- How and with which settings a server was started. -/
structure Served where
  /-- The host and the port, unless it talks on its standard streams. -/
  address : Option (String × Int)
  settings : Settings
  deriving DecidableEq, Repr

/-- What a command leaves behind. -/
structure Outcome where
  ending : Ending
  output : String := ""
  complaints : String := ""
  served : Option Served := none
  events : List Log.Event := []

/-- What a command works on. -/
structure World where
  files : Path → Lookup
  environment : Settings.Environment
  tables : Completion.Tables

def textLines (lines : List String) : String := String.join (lines.map (· ++ "\n"))

/-- The configuration for a command, from the given file or the usual one. -/
def configure (world : World) (config : Option Path) :
    Except Text.NumberFault (Settings × List Log.Event) :=
  match Settings.configuration
      (world.files (config.getD (Path.read Settings.configName))).asConfiguration with
  | .ok (table, events) => .ok (Settings.resolve table world.environment, events)
  | .error fault => .error fault

/-! ## Checking files -/

/-- The text of a file. -/
def readText (world : World) (path : Path) : Except ReadFault (List Char) :=
  (world.files path).text

/-- What checking a file gives: its findings, or why there are none to give. -/
def checkFile (world : World) (source : String) (path : Path) : Except ReadFault (List Finding) :=
  match readText world path with
  | .ok text => .ok ((Engine.builtIn source).validate .utf16 text).findings
  | .error fault => .error fault

/-- The results of checking files: those that could be read, and the complaints about the others. -/
structure Checked where
  files : List (Path × List Finding) := []
  errors : List String := []

namespace Checked

def ofPath (world : World) (source : String) (path : Path) : Checked :=
  match checkFile world source path with
  | .ok findings => { files := [(path, findings)] }
  | .error fault => { errors := [path.text ++ ": " ++ fault.message path] }

protected def append (first second : Checked) : Checked :=
  ⟨first.files ++ second.files, first.errors ++ second.errors⟩

instance : Append Checked := ⟨Checked.append⟩

def ofPaths (world : World) (source : String) : List Path → Checked
  | [] => {}
  | path :: paths => ofPath world source path ++ ofPaths world source paths

/-- Two if a file could not be read, one if there is a finding, zero otherwise. -/
def exitCode (checked : Checked) : Nat :=
  if !checked.errors.isEmpty then 2
  else if checked.files.any fun file => !file.2.isEmpty then 1
  else 0

/-- A finding on a line, with line and column from one. -/
def findingLine (path : Path) (finding : Finding) : String :=
  let line := finding.first.line + 1
  let column := finding.first.character + 1
  s!"{path.text}:{line}:{column}: {finding.source} {finding.message}"

def lines (checked : Checked) : List String :=
  checked.files.flatMap fun file => file.2.map (findingLine file.1)

def positionValue (position : Position) : Value :=
  .object [("line", .int position.line), ("character", .int position.character)]

def findingValue (finding : Finding) : Value :=
  .object [("severity", .string finding.severity.name), ("start", positionValue finding.first),
    ("end", positionValue finding.last), ("message", .string finding.message),
    ("source", .string finding.source)]

def value (checked : Checked) : Value :=
  let files := checked.files.map fun file =>
    .object [("path", .string file.1.text), ("findings", .list (file.2.map findingValue))]
  .object [("files", .list files), ("errors", .list (checked.errors.map .string))]

end Checked

/-- Checks files. As JSON, complaints are part of the output. -/
def runCheck (world : World) (paths : List Path) (json : Bool) (config : Option Path) : Outcome :=
  match configure world config with
  | .error fault => { ending := .number fault }
  | .ok (settings, events) =>
    let checked := Checked.ofPaths world settings.source paths
    { ending := .exit checked.exitCode
      output := if json then checked.value.indented ++ "\n" else textLines checked.lines
      complaints := if json then "" else textLines checked.errors
      events }

/-! ## Completions -/

/-- A complaint that ends a command, unless it cannot be written. -/
def complain (headline : String) (complaint : Complaint) : Outcome :=
  match complaint.text with
  | .ok text => { ending := .exit 2, complaints := headline ++ ": " ++ text ++ "\n" }
  | .error fault => { ending := .number fault }

/-- Stops a command whose tables are refused. -/
def refuse (headline : String) : Completion.Tables.Fault → Outcome
  | .inconsistent inconsistency => complain headline inconsistency.complaint
  | .index fault => { ending := .number fault }

def withProvider (world : World) (run : Completion.Provider → Outcome) : Outcome :=
  match Completion.Provider.ofTables world.tables with
  | .ok provider => run provider
  | .error fault => refuse "completion tables are inconsistent" fault

/-- The lines of a catalog, printed one after the other, up to an id that cannot be written. -/
def printCatalog : List Completion.Entry → Outcome
  | [] => { ending := .exit 0 }
  | entry :: entries =>
    match Text.numeral entry.id with
    | .error fault => { ending := .number fault }
    | .ok id =>
      let later := printCatalog entries
      { later with output := textLines [id ++ "\t" ++ entry.label] ++ later.output }

/-- Prints a value as JSON, unless it cannot be written. -/
def printJson (value : Value) : Outcome :=
  match value.written with
  | .ok text => { ending := .exit 0, output := text ++ "\n" }
  | .error fault => { ending := .number fault }

def entryValue (entry : Completion.Entry) : Value :=
  .object [("id", .int entry.id), ("label", .string entry.label),
    ("category", .string entry.category.name)]

def runCatalog (world : World) (json : Bool) : Outcome :=
  withProvider world fun provider =>
    let entries := provider.tables.catalog
    if json then printJson (.list (entries.map entryValue)) else printCatalog entries

def resolutionValue (id : Int) (resolution : Completion.Resolution) : Value :=
  let text := fun (s : Option String) => (s.map Value.string).getD .null
  .object
    [("id", .int id), ("label", .string resolution.label),
      ("category", text (resolution.category.map Completion.Category.name)),
      ("insert_text", .string resolution.insertText),
      ("insert_format", .string resolution.format.name), ("sort_text", text resolution.sortText),
      ("documentation", .string resolution.documentation)]

/-- What a template shows before it is filled in. -/
def preview (resolution : Completion.Resolution) : List String :=
  match resolution.format, Template.read resolution.insertText.toList with
  | .snippet, .ok template => ["-> " ++ String.ofList template.render]
  | _, _ => []

def runResolve (world : World) (id : Int) (json : Bool) : Outcome :=
  withProvider world fun provider =>
    match provider.resolve (.int id) with
    | .error (.number fault) => { ending := .number fault }
    | .error fault => { ending := .exit 2, complaints := fault.message ++ "\n" }
    | .ok resolution =>
      if json then printJson (resolutionValue id resolution)
      else
        { ending := .exit 0
          output := textLines ([resolution.label, resolution.insertText] ++ preview resolution ++
            ["", resolution.documentation]) }

/-! ## Serving -/

/-- Why a log cannot be written to a file, if it cannot. A file that is missing is made. -/
def logFault? (world : World) (path : Path) : Option Ending :=
  match world.files path with
  | .file _ => none
  | .directory => some .isDirectory
  | .blocked => some .notDirectory
  | .missing =>
    match world.files ⟨path.root, path.parts.dropLast⟩ with
    | .directory => none
    | .file _ => some .notDirectory
    | .blocked => some .notDirectory
    | .missing => some .missingFile

/-- Starts a server: settings and flags first, then the log, then the tables. -/
def runServe (world : World) (address : Option (String × Int)) (flags : Settings.Flags)
    (config : Option Path) : Outcome :=
  match configure world config with
  | .error fault => { ending := .number fault }
  | .ok (settings, events) =>
    match settings.withFlags flags with
    | none => { ending := .usage, events }
    | some settings =>
      let settings := { settings with logFile := settings.logFile.map Path.collapse }
      match settings.logFile.bind (logFault? world) with
      | some ending => { ending, events }
      | none =>
        match Completion.Provider.ofTables world.tables with
        | .error fault => { refuse "cannot start" fault with events }
        | .ok _ => { ending := .exit 0, served := some ⟨address, settings⟩, events }

/-- Runs a command. -/
def run (world : World) : Command → Outcome
  | .serve tcp host port logLevel logFile config =>
    runServe world (if tcp then some (host, port) else none) { logLevel, logFile } config
  | .check paths json config => runCheck world paths json config
  | .catalog json => runCatalog world json
  | .resolve id json => runResolve world id json
  | .help => { ending := .exit 0 }

/-- Runs a command line. -/
def runLine (world : World) (arguments : List String) : Outcome :=
  match read arguments with
  | some command => command.run world
  | none => { ending := .usage }

end ScriptAssist.Command
