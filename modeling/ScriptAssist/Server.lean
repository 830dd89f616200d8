import ScriptAssist.Completion.Provider
import ScriptAssist.Document
import ScriptAssist.Engine
import ScriptAssist.FileTree
import ScriptAssist.Log
import ScriptAssist.Session

namespace ScriptAssist

/-- The state of a server: what it checks and offers, what its client can do, and the documents that
are open, by their decoded names. -/
structure Server where
  engine : Engine
  provider : Completion.Provider
  encoding : Text.Encoding
  session : Option Session := none
  documents : List (List Char × Document) := []

namespace Server

/-- The name under which a server introduces itself. -/
def ownName : String := "uselsp"

def ownVersion : String := "0.1.0"

/-- What a client asks of a server. Where a step may look at a document that is not open, it comes
with what stands at the document's place on the disk at that time. -/
inductive Step where
  | connect (capabilities options : Value)
  | ready
  | openDocument (uri : String) (text : List Char) (version : Int)
  | changeDocument (uri : String) (version : Int) (edits : List Edit) (disk : Lookup)
  | closeDocument (uri : String)
  | validateDocument (uri : String) (disk : Lookup)
  | configure (source : String)
  | configurationChanged
  | filesChanged
  | foldersChanged
  | complete
  | resolve (item : Completion.Item)

/-- What a server sends to its client on its own account. -/
inductive Message where
  /-- The findings of a document replace those sent before. -/
  | publish (uri : String) (version : Option Int) (findings : List Finding)
  | note (text : String)
  | register (methods : List String)
  deriving DecidableEq, Repr

/-- What a step comes to. -/
inductive Result where
  | nothing
  | session (session : Session)
  | text (text : List Char)
  /-- The number of findings, unless the validation failed. -/
  | findings (count : Option Nat)
  | items (items : List Completion.Item)
  | item (item : Completion.Item)
  /-- The document is not open, and there is no text to read in its place. -/
  | unreadable (fault : ReadFault)
  /-- A change came for a document that is not open. -/
  | unknownDocument (name : List Char)
  | number (fault : Text.NumberFault)

/-- What a step does besides changing the server. -/
structure Response where
  result : Result := .nothing
  sent : List Message := []
  events : List Log.Event := []

/-- The name under which a document is kept. -/
def nameOf (uri : String) : List Char := Text.percentDecode uri.toList

def document? (server : Server) (uri : String) : Option Document :=
  Pairs.get? (nameOf uri) server.documents

/-- A text to validate, and the version by which its client knows it. -/
structure Source where
  text : List Char
  version : Option Int
  deriving DecidableEq, Repr

/-- The text of a document: what the client has open or, if it has not, what is on the disk. -/
def source (server : Server) (uri : String) (disk : Lookup) : Except ReadFault Source :=
  match server.document? uri with
  | some document => .ok ⟨document.text, some document.version⟩
  | none =>
    match disk.text with
    | .ok text => .ok ⟨text, none⟩
    | .error fault => .error fault

/-- Validates a text and publishes all that is found. If the validation fails, nothing is
published. -/
def publish (server : Server) (uri : String) (source : Source) : Response :=
  let report := server.engine.validate server.encoding source.text
  let warnings := report.warnings.map Log.warning
  match report.result with
  | .error _ =>
    { result := .findings none
      events := warnings ++ [Log.error s!"validation failed for {uri}"] }
  | .ok findings =>
    { result := .findings (some findings.length)
      sent := [.publish uri source.version findings]
      events := warnings ++ [Log.debug s!"publishing {findings.length} diagnostics for {uri}"] }

/-- Validates a document, if it has a text. -/
def validate (server : Server) (uri : String) (disk : Lookup) : Response :=
  match server.source uri disk with
  | .error fault => { result := .unreadable fault }
  | .ok source => server.publish uri source

/-- Validates a document after a step on it; the step comes to the text of the document. -/
def afterEdit (server : Server) (uri : String) (disk : Lookup) : Response :=
  match server.source uri disk with
  | .error fault => { result := .unreadable fault }
  | .ok source => { server.publish uri source with result := .text source.text }

/-- Sets the threshold that options ask for; options that are refused leave it as it is. -/
def applyOptions (options : Value) : List Log.Event :=
  match options with
  | .null => []
  | _ =>
    match Session.levelName options with
    | .error _ => [Log.warning "ignoring invalid initializationOptions"]
    | .ok name => ((name.bind Log.named?).map Log.Event.threshold).toList

/-- A line for the client's log, which is logged here too. -/
def announce (text : String) : Response := { sent := [.note text], events := [Log.info text] }

/-- Completes an item; one that resolves to nothing comes back as it is, with a warning. -/
def resolveItem (server : Server) (item : Completion.Item) : Response :=
  match server.provider.complete.run item with
  | .ok () completed => { result := .item completed }
  | .error (.number fault) _ => { result := .number fault }
  | .error (.unresolved id literal) left =>
    let message := (Completion.Provider.Fault.unresolved id literal).message
    { result := .item left
      events := [Log.warning s!"{message} (label {Text.quoted left.label})"] }

/-- One step: the server after it, and its response. -/
def step (server : Server) : Step → Server × Response
  | .connect capabilities options =>
    let session := Session.ofCapabilities capabilities
    ({ server with session := some session },
      { result := .session session
        events :=
          applyOptions options ++ [Log.debug s!"session capabilities: {session.describe}"] })
  | .ready =>
    let registers := (server.session.getD {}).configuration
    (server, { sent := if registers then [.register ["workspace/didChangeConfiguration"]] else [] })
  | .openDocument uri text version =>
    let server :=
      { server with documents := Pairs.put (nameOf uri) ⟨text, version⟩ server.documents }
    (server, server.afterEdit uri .missing)
  | .changeDocument uri version edits disk =>
    match server.document? uri, edits with
    | none, [] => (server, server.afterEdit uri disk)
    | none, _ :: _ => (server, { result := .unknownDocument (nameOf uri) })
    | some document, edits =>
      let document := document.change server.encoding version edits
      let server :=
        { server with documents := Pairs.put (nameOf uri) document server.documents }
      (server, server.afterEdit uri disk)
  | .closeDocument uri =>
    ({ server with documents := Pairs.erase (nameOf uri) server.documents },
      { sent := [.publish uri none []] })
  | .validateDocument uri disk => (server, server.validate uri disk)
  | .configure source => ({ server with engine := Engine.builtIn source }, {})
  | .configurationChanged => (server, { events := [Log.debug "configuration change received"] })
  | .filesChanged => (server, announce "We received a file change event")
  | .foldersChanged => (server, announce "Workspace folder change event received.")
  | .complete => (server, { result := .items server.provider.items })
  | .resolve item => (server, server.resolveItem item)

/-- The responses to a run of steps. -/
def run (server : Server) : List Step → List Response
  | [] => []
  | step :: steps => (server.step step).2 :: (server.step step).1.run steps

/-- The lines that the log keeps of each response, from a threshold on. -/
def logs (threshold : Int) : List Response → List (List Log.Line)
  | [] => []
  | response :: responses =>
    Log.kept threshold response.events ::
      logs (Log.thresholdAfter threshold response.events) responses

end Server

end ScriptAssist
