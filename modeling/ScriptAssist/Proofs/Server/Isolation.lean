import ScriptAssist.Proofs.Server.View
import ScriptAssist.Proofs.Text.Utf8

namespace ScriptAssist.Server

/-! ## Failures stay with the document -/

/-- How validating a text ends if nothing escapes from it: all that is found is published at once, or
the validation has failed, which is logged, and nothing is published. -/
def Settled (report : Report) (uri : String) (version : Option Int) (count : Option Nat)
    (sent : List Message) (events : List Log.Event) : Prop :=
  (∃ findings, report.result = .ok findings ∧ count = some findings.length ∧
    sent = [.publish uri version findings]) ∨
  (∃ failure, report.result = .error failure ∧ count = none ∧ sent = [] ∧
    Log.error s!"validation failed for {uri}" ∈ events)

theorem settled_publish (server : Server) (uri : String) (source : Source) :
    ∃ count, (server.publish uri source).result = .findings count ∧
      Settled (server.engine.validate server.encoding source.text) uri source.version count
        (server.publish uri source).sent (server.publish uri source).events := by
  cases result : (server.engine.validate server.encoding source.text).result with
  | ok findings =>
    refine ⟨some findings.length, by simp [publish, result], Or.inl ⟨findings, result, rfl, ?_⟩⟩
    exact sent_publish_ok result uri
  | error failure =>
    refine ⟨none, by simp [publish, result], Or.inr ⟨failure, result, rfl, ?_, ?_⟩⟩
    · exact sent_publish_error result uri
    · simp [publish, result]

theorem settled_validate {server : Server} {uri : String} {disk : Lookup} {source : Source}
    (h : server.source uri disk = .ok source) :
    ∃ count, (server.validate uri disk).result = .findings count ∧
      Settled (server.engine.validate server.encoding source.text) uri source.version count
        (server.validate uri disk).sent (server.validate uri disk).events := by
  have published : server.validate uri disk = server.publish uri source := by rw [validate, h]
  rw [published]
  exact server.settled_publish uri source

theorem settled_afterEdit {server : Server} {uri : String} {disk : Lookup} {source : Source}
    (h : server.source uri disk = .ok source) :
    (server.afterEdit uri disk).result = .text source.text ∧
    ∃ count, Settled (server.engine.validate server.encoding source.text) uri source.version count
      (server.afterEdit uri disk).sent (server.afterEdit uri disk).events := by
  obtain ⟨count, -, settled⟩ := server.settled_publish uri source
  have published : server.afterEdit uri disk =
      { server.publish uri source with result := .text source.text } := by rw [afterEdit, h]
  rw [published]
  exact ⟨rfl, count, settled⟩

/-- Whatever state a server is in and whatever its rules do, a step that opens a document, or that
validates or changes an open one, comes to its answer and settles, and nothing of the server changes
but the document that is opened or changed. A document that is not open is validated as it is on the
disk, if it can be read there; if not, nothing is published and nothing changes. -/
theorem validation_contained (server : Server) (uri : String) (disk : Lookup) :
    (∀ document, server.document? uri = some document →
      let validated := server.step (.validateDocument uri disk)
      validated.1 = server ∧
      ∃ count, validated.2.result = .findings count ∧
        Settled (server.engine.validate server.encoding document.text) uri (some document.version)
          count validated.2.sent validated.2.events) ∧
    (∀ text version,
      let opened := server.step (.openDocument uri text version)
      opened.1 =
        { server with documents := Pairs.put (nameOf uri) ⟨text, version⟩ server.documents } ∧
      opened.2.result = .text text ∧
      ∃ count, Settled (server.engine.validate server.encoding text) uri (some version) count
        opened.2.sent opened.2.events) ∧
    (∀ document version edits, server.document? uri = some document →
      let new := document.change server.encoding version edits
      let changed := server.step (.changeDocument uri version edits disk)
      changed.1 = { server with documents := Pairs.put (nameOf uri) new server.documents } ∧
      changed.2.result = .text new.text ∧
      ∃ count, Settled (server.engine.validate server.encoding new.text) uri (some new.version)
        count changed.2.sent changed.2.events) ∧
    (server.document? uri = none →
      (∀ text, disk.text = .ok text →
        let validated := server.step (.validateDocument uri disk)
        (validated.1 = server ∧
          ∃ count, validated.2.result = .findings count ∧
            Settled (server.engine.validate server.encoding text) uri none count validated.2.sent
              validated.2.events) ∧
        ∀ version,
          let changed := server.step (.changeDocument uri version [] disk)
          changed.1 = server ∧ changed.2.result = .text text ∧
          ∃ count, Settled (server.engine.validate server.encoding text) uri none count
            changed.2.sent changed.2.events) ∧
      (∀ fault, disk.text = .error fault →
        server.step (.validateDocument uri disk) = (server, { result := .unreadable fault }) ∧
        ∀ version, server.step (.changeDocument uri version [] disk) =
          (server, { result := .unreadable fault })) ∧
      ∀ version edit edits, server.step (.changeDocument uri version (edit :: edits) disk) =
        (server, { result := .unknownDocument (nameOf uri) })) := by
  refine ⟨?_, ?_, ?_, fun absent => ⟨?_, ?_, ?_⟩⟩
  · intro document found
    exact ⟨rfl, settled_validate (source_open found disk)⟩
  · intro text version opened
    have found : opened.1.document? uri = some ⟨text, version⟩ := Pairs.get?_put_self _ _ _
    exact ⟨rfl, settled_afterEdit (source_open found .missing)⟩
  · intro document version edits found new
    let kept : Server :=
      { server with documents := Pairs.put (nameOf uri) new server.documents }
    have step : server.step (.changeDocument uri version edits disk) =
        (kept, kept.afterEdit uri disk) :=
      step_change_open found version edits disk
    have found : kept.document? uri = some new := Pairs.get?_put_self _ _ _
    rw [step]
    exact ⟨rfl, settled_afterEdit (source_open found disk)⟩
  · intro text read
    have source : server.source uri disk = .ok ⟨text, none⟩ := by
      rw [source_unopened absent, read]
      rfl
    refine ⟨⟨rfl, settled_validate source⟩, ?_⟩
    intro version
    rw [step_change_nil absent]
    exact ⟨rfl, settled_afterEdit source⟩
  · intro fault unread
    have source : server.source uri disk = .error fault := by
      rw [source_unopened absent, unread]
      rfl
    constructor
    · rw [step, validate, source]
    · intro version
      rw [step_change_nil absent, afterEdit, source]
  · intro version edit edits
    simp [step, absent]

/-- A rule that fails on every text. One document is open, one is on the disk, one is nowhere. -/
theorem validation_contained_failing :
    let rule : Rule := ⟨"crash", "", fun _ => ⟨[], some "rule crashed"⟩⟩
    let engine : Engine := ⟨[rule], "ex", .error, by simp⟩
    let server := (fresh engine ⟨Completion.Tables.ofLists [] [], rfl⟩ .utf16).after
      [.openDocument "a" "if(".toList 1]
    let file : Lookup := .file (Text.Utf8.encode "if(".toList)
    let validated := server.step (.validateDocument "a" .missing)
    let changed := server.step (.changeDocument "a" 2 [.whole "x".toList] .missing)
    validated.1 = server ∧ validated.2.result = .findings none ∧ validated.2.sent = [] ∧
      Log.error "validation failed for a" ∈ validated.2.events ∧
      changed.2.result = .text "x".toList ∧
      Log.error "validation failed for b" ∈
        (server.step (.validateDocument "b" file)).2.events ∧
      (server.step (.validateDocument "b" .missing)).2 = { result := .unreadable .missing } := by
  intro rule engine server file validated changed
  have found : server.document? "a" = some ⟨"if(".toList, 1⟩ := Pairs.get?_put_self _ _ _
  have absent : server.document? "b" = none := by decide +kernel
  obtain ⟨visited, -, edited, -⟩ := validation_contained server "a" .missing
  obtain ⟨same, count, result, settled⟩ := visited _ found
  obtain ⟨-, text, -⟩ := edited _ 2 [.whole "x".toList] found
  obtain ⟨-, -, -, onDisk⟩ := validation_contained server "b" file
  have readable : file.text = .ok "if(".toList := by
    rw [Lookup.text, Text.Utf8.decode_encode]
    rfl
  obtain ⟨⟨-, _, -, read⟩, -⟩ := (onDisk absent).1 _ readable
  obtain ⟨-, -, -, nowhere⟩ := validation_contained server "b" .missing
  have escaped := congrArg Prod.snd ((nowhere absent).2.1 .missing rfl).1
  rcases settled with ⟨findings, ok, -, -⟩ | ⟨failure, -, rfl, sent, logged⟩
  · cases ok
  rcases read with ⟨findings, ok, -, -⟩ | ⟨failure, -, -, -, readLogged⟩
  · cases ok
  exact ⟨same, result, sent, logged, text, readLogged, escaped⟩

/-- Validating a document that is neither open nor on the disk is not answered and not logged, be it
never seen, closed, or changed by nothing. -/
theorem unopened_escapes :
    let server := fresh (Engine.builtIn "ex") ⟨Completion.Tables.ofLists [] [], rfl⟩ .utf16
    let closed := server.after [.openDocument "a" "if(".toList 1, .closeDocument "a"]
    (server.step (.validateDocument "a" .missing)).2 = { result := .unreadable .missing } ∧
      (closed.step (.validateDocument "a" .missing)).2 = { result := .unreadable .missing } ∧
      (server.step (.changeDocument "a" 1 [] .missing)).2 = { result := .unreadable .missing } := by
  intro server closed
  have absent : closed.document? "a" = none := Pairs.get?_erase_self _ _
  refine ⟨rfl, ?_, rfl⟩
  change closed.validate "a" .missing = _
  rw [validate, source_unopened absent]
  rfl

/-! ## Documents do not interfere -/

/-- A step that the document of a name can depend on: one for the document, or one that replaces the
engine. -/
def Step.Concerns (name : List Char) (step : Step) : Prop :=
  step.Touches name ∨ ∃ source, step = .configure source

instance (step : Step) : Decidable (∃ source, step = .configure source) :=
  match step with
  | .configure source => isTrue ⟨source, rfl⟩
  | .connect _ _ | .ready | .openDocument _ _ _ | .changeDocument _ _ _ _ | .closeDocument _
  | .validateDocument _ _ | .configurationChanged | .filesChanged | .foldersChanged | .complete
  | .resolve _ => isFalse (by simp)

instance (name : List Char) (step : Step) : Decidable (step.Concerns name) :=
  inferInstanceAs (Decidable (_ ∨ _))

/-- Servers that no step concerning one document can tell apart. -/
structure Alike (name : List Char) (first second : Server) : Prop where
  engine : first.engine = second.engine
  encoding : first.encoding = second.encoding
  document : Pairs.get? name first.documents = Pairs.get? name second.documents

namespace Alike

variable {name : List Char} {first second : Server}

theorem refl (name : List Char) (server : Server) : Alike name server server := ⟨rfl, rfl, rfl⟩

theorem put (h : Alike name first second) (document : Document) :
    Alike name { first with documents := Pairs.put name document first.documents }
      { second with documents := Pairs.put name document second.documents } :=
  ⟨h.engine, h.encoding, by simp⟩

theorem source {uri : String} (h : Alike (nameOf uri) first second) (disk : Lookup) :
    first.source uri disk = second.source uri disk := by
  rw [Server.source, Server.source, document?, document?, h.document]

theorem publish (h : Alike name first second) (uri : String) (source : Source) :
    first.publish uri source = second.publish uri source := by
  rw [Server.publish, Server.publish, h.engine, h.encoding]

theorem validate {uri : String} (h : Alike (nameOf uri) first second) (disk : Lookup) :
    first.validate uri disk = second.validate uri disk := by
  simp only [Server.validate, h.source, h.publish]

theorem afterEdit {uri : String} (h : Alike (nameOf uri) first second) (disk : Lookup) :
    first.afterEdit uri disk = second.afterEdit uri disk := by
  simp only [Server.afterEdit, h.source, h.publish]

/-- A step that concerns the document gets the same response from both, and they stay alike. -/
theorem step (h : Alike name first second) {step : Step} (concerns : step.Concerns name) :
    (first.step step).2 = (second.step step).2 ∧
    Alike name (first.step step).1 (second.step step).1 := by
  rcases concerns with ⟨uri, about, rfl⟩ | ⟨source, rfl⟩
  · rcases step.close_or_visits about with rfl | visits
    · exact ⟨rfl, h.engine, h.encoding, by simp [Server.step]⟩
    · cases visits with
      | opens text version =>
        have opened := h.put ⟨text, version⟩
        exact ⟨opened.afterEdit .missing, opened⟩
      | changes version edits disk =>
        have same : first.document? uri = second.document? uri := h.document
        cases found : second.document? uri with
        | some document =>
          have edited : document.change first.encoding version edits =
              document.change second.encoding version edits := by rw [h.encoding]
          have changed := h.put (document.change second.encoding version edits)
          rw [step_change_open found, step_change_open (same.trans found), edited]
          exact ⟨changed.afterEdit disk, changed⟩
        | none =>
          have absent := same.trans found
          cases edits with
          | nil =>
            rw [step_change_nil absent, step_change_nil found]
            exact ⟨h.afterEdit disk, h⟩
          | cons edit edits =>
            simp only [Server.step, absent, found]
            exact ⟨trivial, h⟩
      | validates disk => exact ⟨h.validate disk, h⟩
  · exact ⟨rfl, rfl, h.encoding, h.document⟩

/-- A step that does not concern the document makes no difference to it. -/
theorem step_left (h : Alike name first second) {step : Step} (other : ¬step.Concerns name) :
    Alike name (first.step step).1 second := by
  rw [Step.Concerns, not_or] at other
  obtain ⟨untouched, kept⟩ := other
  refine ⟨?_, (first.kept_step step).1.trans h.encoding,
    (get?_step untouched first).trans h.document⟩
  rw [← h.engine]
  cases hstep : step.uri? with
  | some uri =>
    rcases step.close_or_visits hstep with rfl | visits
    · rfl
    · exact engine_visit visits first
  | none =>
    cases step with
    | configure source => exact absurd ⟨source, rfl⟩ kept
    | openDocument | changeDocument | closeDocument | validateDocument => cases hstep
    | _ => rfl

end Alike

/-- Each step of a run with the response to it. -/
def trace (server : Server) (steps : List Step) : List (Step × Response) :=
  steps.zip (server.run steps)

theorem trace_cons (server : Server) (step : Step) (steps : List Step) :
    server.trace (step :: steps) =
      (step, (server.step step).2) :: (server.step step).1.trace steps := rfl

/-- The responses to the steps that concern a document are those of a run of these steps alone. -/
theorem Alike.trace {name : List Char} {first second : Server} (h : Alike name first second)
    (steps : List Step) :
    (first.trace steps).filter (fun answered => answered.1.Concerns name) =
      second.trace (steps.filter fun step => step.Concerns name) := by
  induction steps generalizing first second with
  | nil => rfl
  | cons step steps ih =>
    rw [trace_cons]
    by_cases concerns : step.Concerns name
    · obtain ⟨same, alike⟩ := h.step concerns
      rw [List.filter_cons_of_pos (by simpa using concerns),
        List.filter_cons_of_pos (by simpa using concerns), trace_cons, ih alike, same]
    · rw [List.filter_cons_of_neg (by simpa using concerns),
        List.filter_cons_of_neg (by simpa using concerns), ih (h.step_left concerns)]

/-- A step that asks for completions. -/
inductive Step.Completes : Step → Prop where
  | lists : Completes .complete
  | resolves (item : Completion.Item) : Completes (.resolve item)

theorem response_completes {step : Step} (h : step.Completes) {first second : Server}
    (same : first.provider = second.provider) : (first.step step).2 = (second.step step).2 := by
  cases h with
  | lists => simp only [Server.step, same]
  | resolves item => simp only [Server.step, resolveItem, same]

theorem mem_trace {server : Server} {steps : List Step} {answered : Step × Response}
    (h : answered ∈ server.trace steps) :
    ∃ before, answered.2 = ((server.after before).step answered.1).2 := by
  induction steps generalizing server with
  | nil => simp [trace] at h
  | cons step steps ih =>
    rw [trace_cons, List.mem_cons] at h
    rcases h with rfl | h
    · exact ⟨[], rfl⟩
    · obtain ⟨before, same⟩ := ih h
      exact ⟨step :: before, same⟩

/-- Documents do not interfere. Leave out of a run every step that neither is for the document of a
name nor replaces the engine: the steps that remain are answered in the same way, with the same
messages. What is answered to a request for completions depends on the tables alone. -/
theorem trace_independent (server : Server) (steps : List Step) :
    (∀ name, (server.trace steps).filter (fun answered => answered.1.Concerns name) =
      server.trace (steps.filter fun step => step.Concerns name)) ∧
    (∀ answered ∈ server.trace steps, answered.1.Completes → ∀ engine encoding,
      answered.2 = ((fresh engine server.provider encoding).step answered.1).2) := by
  constructor
  · intro name
    exact (Alike.refl name server).trace steps
  · intro answered listed completes engine encoding
    obtain ⟨before, same⟩ := mem_trace listed
    rw [same]
    exact response_completes completes (server.kept_after before).2

/-- A rule fails on one document, a change comes for another that is not open. -/
theorem trace_independent_failing :
    let rule : Rule := ⟨"crash", "", fun text => if text = ['!'] then ⟨[], some "!"⟩ else ⟨[], none⟩⟩
    let provider : Completion.Provider := ⟨Completion.Tables.ofLists [] [], rfl⟩
    let server := fresh ⟨[rule], "ex", .error, by simp⟩ provider .utf16
    let steps : List Step := [.openDocument "a" ['x'] 1, .openDocument "b" ['!'] 1, .complete,
      .changeDocument "c" 2 [.whole []] .missing, .validateDocument "%61" .missing]
    (server.trace steps).filter (fun answered => answered.1.Concerns ['a']) =
        server.trace [.openDocument "a" ['x'] 1, .validateDocument "%61" .missing] ∧
      ∃ answered ∈ server.trace steps, answered.1 = .complete ∧
        answered.2 = ((fresh (Engine.builtIn "") provider .utf8).step .complete).2 := by
  intro rule provider server steps
  obtain ⟨alone, completed⟩ := trace_independent server steps
  have names : nameOf "a" = ['a'] ∧ nameOf "b" = ['b'] ∧ nameOf "c" = ['c'] ∧
      nameOf "%61" = ['a'] := by
    decide +kernel
  have concerned : steps.filter (fun step => step.Concerns ['a']) =
      [.openDocument "a" ['x'] 1, .validateDocument "%61" .missing] := by
    simp [steps, Step.Concerns, Step.Touches, Step.uri?, names]
  rw [← concerned]
  refine ⟨alone ['a'], ?_⟩
  have listed : (Step.complete, (server.step .complete).2) ∈ server.trace steps :=
    .tail _ (.tail _ (.head _))
  exact ⟨_, listed, rfl, completed _ listed .lists _ _⟩

end ScriptAssist.Server
