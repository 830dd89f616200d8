import ScriptAssist.Path
import ScriptAssist.Text.Number

namespace ScriptAssist

/-- What the command line asks for. -/
inductive Command where
  | serve (tcp : Bool) (host : String) (port : Int) (logLevel : Option String)
      (logFile config : Option Path)
  | check (paths : List Path) (json : Bool) (config : Option Path)
  | catalog (json : Bool)
  | resolve (id : Int) (json : Bool)
  | help
  deriving DecidableEq, Repr

namespace Command

/-- The options of a command: those that stand alone, and those that take a value. -/
structure Options where
  flags : List String
  valued : List String

/-- Sorted arguments: the flags that were given, the values of options in order, and the rest. -/
structure Arguments where
  flags : List String := []
  values : List (String × String) := []
  positional : List String := []
  deriving DecidableEq, Repr

namespace Arguments

def has (arguments : Arguments) (flag : String) : Bool := arguments.flags.contains flag

/-- The value of an option; the last one counts. -/
def value? (arguments : Arguments) (option : String) : Option String :=
  arguments.values.reverse.lookup option

def path? (arguments : Arguments) (option : String) : Option Path :=
  (arguments.value? option).map Path.read

end Arguments

/-- An option and the value that is attached to it by an equals sign. -/
def splitOption (argument : String) : String × Option String :=
  let name := argument.toList.takeWhile (· ≠ '=')
  let rest := argument.toList.dropWhile (· ≠ '=')
  (String.ofList name, if rest.isEmpty then none else some (String.ofList (rest.drop 1)))

/-- An argument that begins with a hyphen and is longer than one. -/
def isOption (argument : String) : Bool :=
  match argument.toList with
  | '-' :: _ :: _ => true
  | _ => false

/-- Sorts arguments. Options may stand anywhere before a double hyphen, and an option that takes a
value takes the next argument whatever it looks like. -/
def sort (options : Options) (sorted : Arguments) : List String → Option Arguments
  | [] => some sorted
  | argument :: rest =>
    if argument = "--" then some { sorted with positional := sorted.positional ++ rest }
    else if isOption argument then
      let (name, attached) := splitOption argument
      if options.flags.contains name then
        if attached.isSome then none
        else sort options { sorted with flags := sorted.flags ++ [name] } rest
      else if options.valued.contains name then
        match attached, rest with
        | some value, rest =>
          sort options { sorted with values := sorted.values ++ [(name, value)] } rest
        | none, value :: rest =>
          sort options { sorted with values := sorted.values ++ [(name, value)] } rest
        | none, [] => none
      else none
    else sort options { sorted with positional := sorted.positional ++ [argument] } rest

/-- The TCP port when none is given. -/
def defaultPort : Int := 2087

/-- The host when none is given. -/
def defaultHost : String := "127.0.0.1"

def ofServe (arguments : Arguments) : Option Command := do
  let port ← match arguments.value? "--port" with
    | some text => Text.integer? text
    | none => some defaultPort
  if arguments.positional.isEmpty then
    some (.serve (arguments.has "--tcp") ((arguments.value? "--host").getD defaultHost) port
      (arguments.value? "--log-level") (arguments.path? "--log-file") (arguments.path? "--config"))
  else none

def ofCheck (arguments : Arguments) : Option Command :=
  if arguments.positional.isEmpty then none
  else
    some (.check (arguments.positional.map Path.read) (arguments.has "--json")
      (arguments.path? "--config"))

def ofCatalog (arguments : Arguments) : Option Command :=
  if arguments.positional.isEmpty then some (.catalog (arguments.has "--json")) else none

def ofResolve (arguments : Arguments) : Option Command :=
  match arguments.positional with
  | [text] => (Text.integer? text).map fun id => .resolve id (arguments.has "--json")
  | _ => none

/-- The options of a command by its name, and what its arguments ask for. -/
def named? (name : String) : Option (Options × (Arguments → Option Command)) :=
  match name with
  | "serve" =>
    some (⟨["--tcp"], ["--host", "--port", "--log-level", "--log-file", "--config"]⟩, ofServe)
  | "check" => some (⟨["--json"], ["--config"]⟩, ofCheck)
  | "catalog" => some (⟨["--json"], []⟩, ofCatalog)
  | "resolve" => some (⟨["--json"], []⟩, ofResolve)
  | _ => none

/-- Reads a command and its arguments. Asking for help comes before any complaint about values. -/
def ofNamed (name : String) (arguments : List String) : Option Command := do
  let (options, build) ← named? name
  let sorted ← sort { options with flags := "--help" :: options.flags } {} arguments
  if sorted.has "--help" then some .help else build sorted

/-- Reads a command line; there is none in arguments that are not understood. -/
def read : List String → Option Command
  | [] => none
  | "--help" :: _ => some .help
  | "--" :: name :: arguments => ofNamed name arguments
  | name :: arguments => ofNamed name arguments

end Command

end ScriptAssist
