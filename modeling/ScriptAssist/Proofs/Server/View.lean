import ScriptAssist.Server

namespace ScriptAssist.Server

/-! ## Runs -/

/-- A server that nobody has talked to yet. -/
def fresh (engine : Engine) (provider : Completion.Provider) (encoding : Text.Encoding) : Server :=
  { engine, provider, encoding }

/-- The server after some steps. -/
def after (server : Server) (steps : List Step) : Server :=
  steps.foldl (fun server step => (server.step step).1) server

/-- All that is sent to the client during some steps. -/
def sent (server : Server) (steps : List Step) : List Message :=
  (server.run steps).flatMap Response.sent

@[simp] theorem after_nil (server : Server) : server.after [] = server := rfl

@[simp] theorem after_cons (server : Server) (step : Step) (steps : List Step) :
    server.after (step :: steps) = (server.step step).1.after steps := rfl

theorem after_append (server : Server) (first second : List Step) :
    server.after (first ++ second) = (server.after first).after second :=
  List.foldl_append

@[simp] theorem sent_nil (server : Server) : server.sent [] = [] := rfl

@[simp] theorem sent_cons (server : Server) (step : Step) (steps : List Step) :
    server.sent (step :: steps) = (server.step step).2.sent ++ (server.step step).1.sent steps := rfl

theorem sent_append (server : Server) (first second : List Step) :
    server.sent (first ++ second) = server.sent first ++ (server.after first).sent second := by
  induction first generalizing server with
  | nil => rfl
  | cons step first ih => simp [ih]

/-! ## Steps on documents -/

/-- The document that a step is about. -/
def Step.uri? : Step → Option String
  | .openDocument uri _ _ => some uri
  | .changeDocument uri _ _ _ => some uri
  | .closeDocument uri => some uri
  | .validateDocument uri _ => some uri
  | _ => none

/-- A step that has a document validated: it opens it, changes it or asks for nothing else. -/
inductive Step.Visits (uri : String) : Step → Prop where
  | opens (text : List Char) (version : Int) : Visits uri (.openDocument uri text version)
  | changes (version : Int) (edits : List Edit) (disk : Lookup) :
      Visits uri (.changeDocument uri version edits disk)
  | validates (disk : Lookup) : Visits uri (.validateDocument uri disk)

/-- A step that has a document validated and may well do so if it is not open: then what is on the
disk is taken for it. -/
inductive Step.Consults (uri : String) (disk : Lookup) : Step → Prop where
  | changes (version : Int) : Consults uri disk (.changeDocument uri version [] disk)
  | validates : Consults uri disk (.validateDocument uri disk)

/-- A step for the document of a name. -/
def Step.Touches (name : List Char) (step : Step) : Prop :=
  ∃ uri, step.uri? = some uri ∧ nameOf uri = name

instance (name : List Char) (step : Step) : Decidable (step.Touches name) :=
  match h : step.uri? with
  | none => isFalse (by simp [Step.Touches, h])
  | some uri => decidable_of_iff (nameOf uri = name) (by simp [Step.Touches, h])

theorem Step.Visits.uri?_eq {uri : String} {step : Step} (h : step.Visits uri) :
    step.uri? = some uri := by
  cases h <;> rfl

/-- A step for a document closes it or has it validated. -/
theorem Step.close_or_visits {uri : String} {step : Step} (h : step.uri? = some uri) :
    step = .closeDocument uri ∨ step.Visits uri := by
  cases step <;> simp only [Step.uri?, Option.some.injEq, reduceCtorEq] at h <;> subst h
  · exact Or.inr (.opens _ _)
  · exact Or.inr (.changes _ _ _)
  · exact Or.inl rfl
  · exact Or.inr (.validates _)

theorem step_change_open {server : Server} {uri : String} {document : Document}
    (h : server.document? uri = some document) (version : Int) (edits : List Edit)
    (disk : Lookup) :
    let changed : Server :=
      { server with
        documents :=
          Pairs.put (nameOf uri) (document.change server.encoding version edits) server.documents }
    server.step (.changeDocument uri version edits disk) = (changed, changed.afterEdit uri disk) := by
  simp [step, h]

theorem step_change_nil {server : Server} {uri : String} (h : server.document? uri = none)
    (version : Int) (disk : Lookup) :
    server.step (.changeDocument uri version [] disk) = (server, server.afterEdit uri disk) := by
  simp [step, h]

/-- Neither a change nor a validation opens a document that is not open. -/
theorem step_unopened {server : Server} {uri : String} (h : server.document? uri = none)
    {step : Step} (visits : step.Visits uri)
    (unopened : ∀ text version, step ≠ .openDocument uri text version) :
    (server.step step).1 = server := by
  cases visits with
  | opens text version => exact absurd rfl (unopened text version)
  | changes version edits disk => cases edits <;> simp [Server.step, h]
  | validates disk => rfl

/-- A step leaves every document alone that it is not about. -/
theorem get?_step {name : List Char} {step : Step} (h : ¬step.Touches name) (server : Server) :
    Pairs.get? name (server.step step).1.documents = Pairs.get? name server.documents := by
  have other {uri : String} (hstep : step.uri? = some uri) : name ≠ nameOf uri := by
    intro same
    exact h ⟨uri, hstep, same.symm⟩
  cases step with
  | openDocument uri text version => exact Pairs.get?_put_of_ne (other rfl) _ _
  | changeDocument uri version edits disk =>
    cases found : server.document? uri with
    | none => rw [step_unopened found (.changes version edits disk) (by simp)]
    | some document =>
      rw [step_change_open found]
      exact Pairs.get?_put_of_ne (other rfl) _ _
  | closeDocument uri => exact Pairs.get?_erase_of_ne (other rfl) _
  | _ => rfl

/-- No step changes the encoding or the completions. -/
theorem kept_step (server : Server) (step : Step) :
    (server.step step).1.encoding = server.encoding ∧
    (server.step step).1.provider = server.provider := by
  cases step with
  | changeDocument uri version edits disk =>
    cases found : server.document? uri with
    | none => simp [step_unopened found (.changes version edits disk)]
    | some document => simp [step_change_open found]
  | _ => exact ⟨rfl, rfl⟩

theorem engine_visit {uri : String} {step : Step} (h : step.Visits uri) (server : Server) :
    (server.step step).1.engine = server.engine := by
  cases h with
  | opens text version => rfl
  | changes version edits disk =>
    cases found : server.document? uri with
    | none => rw [step_unopened found (.changes version edits disk) (by simp)]
    | some document => rw [step_change_open found]
  | validates disk => rfl

/-! ## What validating sends -/

theorem source_open {server : Server} {uri : String} {document : Document}
    (h : server.document? uri = some document) (disk : Lookup) :
    server.source uri disk = .ok ⟨document.text, some document.version⟩ := by
  rw [source, h]

theorem source_unopened {server : Server} {uri : String} (h : server.document? uri = none)
    (disk : Lookup) : server.source uri disk = disk.text.map (⟨·, none⟩) := by
  rw [source, h]
  cases disk.text <;> rfl

theorem sent_publish_ok {server : Server} {source : Source} {findings : List Finding}
    (h : (server.engine.validate server.encoding source.text).result = .ok findings)
    (uri : String) : (server.publish uri source).sent = [.publish uri source.version findings] := by
  simp [publish, h]

theorem sent_publish_error {server : Server} {source : Source} {failure : Failure}
    (h : (server.engine.validate server.encoding source.text).result = .error failure)
    (uri : String) : (server.publish uri source).sent = [] := by
  simp [publish, h]

theorem sent_afterEdit (server : Server) (uri : String) (disk : Lookup) :
    (server.afterEdit uri disk).sent = (server.validate uri disk).sent := by
  rw [afterEdit, validate]
  cases server.source uri disk <;> rfl

/-- What a visit to a document that is open once it is over sends is what publishing it sends. -/
theorem sent_visit {uri : String} {step : Step} (h : step.Visits uri) {server : Server}
    {document : Document} (found : (server.step step).1.document? uri = some document) :
    (server.step step).2.sent =
      ((server.step step).1.publish uri ⟨document.text, some document.version⟩).sent := by
  have opened (disk : Lookup) : ((server.step step).1.validate uri disk).sent =
      ((server.step step).1.publish uri ⟨document.text, some document.version⟩).sent := by
    rw [validate, source_open found]
  rw [← opened .missing]
  cases h with
  | opens text version => exact sent_afterEdit _ uri .missing
  | changes version edits disk =>
    cases before : server.document? uri with
    | none =>
      rw [step_unopened before (.changes version edits disk) (by simp), before] at found
      contradiction
    | some old =>
      rw [opened .missing, ← opened disk, step_change_open before]
      exact sent_afterEdit _ uri disk
  | validates disk =>
    rw [opened .missing, ← opened disk]
    rfl

/-- Validating publishes nothing for another document. -/
theorem publish_validate {server : Server} {uri other : String} {disk : Lookup}
    {version : Option Int} {findings : List Finding}
    (h : .publish other version findings ∈ (server.validate uri disk).sent) : other = uri := by
  unfold validate at h
  split at h
  · simp at h
  · case h_2 source _ =>
    cases result : (server.engine.validate server.encoding source.text).result with
    | ok findings =>
      rw [sent_publish_ok result, List.mem_singleton] at h
      cases h
      rfl
    | error failure =>
      rw [sent_publish_error result] at h
      simp at h

/-- A visit validates the document, or it is a change that is refused. -/
theorem sent_visit_cases {uri : String} {step : Step} (h : step.Visits uri) (server : Server) :
    (server.step step).2.sent = [] ∨
      ∃ disk, (server.step step).2.sent = ((server.step step).1.validate uri disk).sent := by
  cases h with
  | opens text version => exact Or.inr ⟨.missing, sent_afterEdit _ uri .missing⟩
  | changes version edits disk =>
    cases found : server.document? uri with
    | some document =>
      rw [step_change_open found]
      exact Or.inr ⟨disk, sent_afterEdit _ uri disk⟩
    | none =>
      cases edits with
      | nil =>
        rw [step_change_nil found]
        exact Or.inr ⟨disk, sent_afterEdit _ uri disk⟩
      | cons edit edits => simp [Server.step, found]
  | validates disk => exact Or.inr ⟨disk, rfl⟩

/-- A step publishes nothing but for the document that it is about. -/
theorem uri?_of_publish {server : Server} {step : Step} {uri : String} {version : Option Int}
    {findings : List Finding} (h : .publish uri version findings ∈ (server.step step).2.sent) :
    step.uri? = some uri := by
  cases hstep : step.uri? with
  | some other =>
    rcases step.close_or_visits hstep with rfl | visits
    · have same := List.mem_singleton.1 h
      cases same
      rfl
    · rcases sent_visit_cases visits server with silent | ⟨disk, validated⟩
      · simp [silent] at h
      · rw [validated] at h
        rw [publish_validate h]
  | none =>
    cases step with
    | openDocument | changeDocument | closeDocument | validateDocument => cases hstep
    | connect => cases h
    | ready =>
      simp only [Server.step] at h
      split at h <;> simp at h
    | configure => cases h
    | configurationChanged => cases h
    | filesChanged => simp [Server.step, announce] at h
    | foldersChanged => simp [Server.step, announce] at h
    | complete => cases h
    | resolve item =>
      simp only [Server.step, resolveItem] at h
      split at h <;> cases h

/-! ## What the client sees -/

def published? (uri : String) : Message → Option (Option Int × List Finding)
  | .publish other version findings => if other = uri then some (version, findings) else none
  | _ => none

/-- The version and the findings that were published last for a document. -/
def view (uri : String) (messages : List Message) : Option (Option Int × List Finding) :=
  messages.reverse.findSome? (published? uri)

theorem view_append (uri : String) (first second : List Message) :
    view uri (first ++ second) = (view uri second).or (view uri first) := by
  simp [view, List.findSome?_append]

theorem view_publish (uri : String) (version : Option Int) (findings : List Finding) :
    view uri [.publish uri version findings] = some (version, findings) := by
  simp [view, published?]

theorem view_eq_none {uri : String} {messages : List Message}
    (h : ∀ version findings, .publish uri version findings ∉ messages) :
    view uri messages = none := by
  apply List.findSome?_eq_none_iff.2
  intro message hmessage
  cases message with
  | publish other version findings =>
    have differs : other ≠ uri := by
      rintro rfl
      exact h version findings (List.mem_reverse.1 hmessage)
    simp [published?, differs]
  | note text => rfl
  | register methods => rfl

theorem view_step_other {uri : String} {step : Step} (h : step.uri? ≠ some uri)
    (server : Server) : view uri (server.step step).2.sent = none := by
  apply view_eq_none
  intro version findings published
  exact h (uri?_of_publish published)

theorem view_step_quiet {uri : String} {step : Step} (h : ¬step.Touches (nameOf uri))
    (server : Server) : view uri (server.step step).2.sent = none := by
  apply view_step_other
  intro same
  exact h ⟨uri, same, rfl⟩

/-- While no step is about a document, neither the document nor its view changes. -/
theorem get?_after {name : List Char} {steps : List Step} (h : ∀ step ∈ steps, ¬step.Touches name)
    (server : Server) :
    Pairs.get? name (server.after steps).documents = Pairs.get? name server.documents := by
  induction steps generalizing server with
  | nil => rfl
  | cons step steps ih =>
    rw [after_cons, ih fun other hother => h other (by simp [hother])]
    exact get?_step (h step (by simp)) server

theorem view_sent_quiet {uri : String} {steps : List Step}
    (h : ∀ step ∈ steps, ¬step.Touches (nameOf uri)) (server : Server) :
    view uri (server.sent steps) = none := by
  induction steps generalizing server with
  | nil => rfl
  | cons step steps ih =>
    rw [sent_cons, view_append, ih fun other hother => h other (by simp [hother]),
      view_step_quiet (h step (by simp))]
    rfl

/-! ## Documents that are not open -/

theorem Step.Consults.unique {uri : String} {step : Step} {disk other : Lookup}
    (h : step.Consults uri disk) (again : step.Consults uri other) : other = disk := by
  cases h <;> cases again <;> rfl

/-- A step takes what is on the disk for a document that is not open, and the engine finds this in
it. -/
def Finds (server : Server) (uri : String) (step : Step) (findings : List Finding) : Prop :=
  ∃ disk text, step.Consults uri disk ∧ disk.text = .ok text ∧
    (server.engine.validate server.encoding text).result = .ok findings

theorem Finds.unique {server : Server} {uri : String} {step : Step} {first second : List Finding}
    (h : server.Finds uri step first) (again : server.Finds uri step second) : second = first := by
  obtain ⟨disk, text, consults, read, result⟩ := h
  obtain ⟨other, others, consults', read', result'⟩ := again
  rw [consults.unique consults', read, Except.ok.injEq] at read'
  rw [← read', result, Except.ok.injEq] at result'
  exact result'.symm

/-- Messages after which the client sees what a step finds on the disk in the place of a document, or
that leave its view as it is if nothing is found there. -/
def Reveals (server : Server) (uri : String) (step : Step) (sent : List Message) : Prop :=
  (∃ findings, server.Finds uri step findings ∧ view uri sent = some (none, findings)) ∨
  ((∀ findings, ¬server.Finds uri step findings) ∧ view uri sent = none)

/-- Validating a document that is not open shows what is on the disk. -/
theorem reveals_validate {server : Server} {uri : String} (h : server.document? uri = none)
    {disk : Lookup} {step : Step} (consults : step.Consults uri disk) :
    server.Reveals uri step (server.validate uri disk).sent := by
  rw [validate, source_unopened h]
  cases read : disk.text with
  | error fault =>
    refine Or.inr ⟨?_, rfl⟩
    rintro findings ⟨other, text, again, readable, -⟩
    rw [consults.unique again, read] at readable
    contradiction
  | ok text =>
    cases result : (server.engine.validate server.encoding text).result with
    | ok findings =>
      refine Or.inl ⟨findings, ⟨disk, text, consults, read, result⟩, ?_⟩
      change view uri (server.publish uri ⟨text, none⟩).sent = _
      rw [sent_publish_ok result, view_publish]
    | error failure =>
      refine Or.inr ⟨?_, ?_⟩
      · rintro findings ⟨other, others, again, readable, found⟩
        rw [consults.unique again, read, Except.ok.injEq] at readable
        rw [← readable, result] at found
        contradiction
      · change view uri (server.publish uri ⟨text, none⟩).sent = _
        rw [sent_publish_error result]
        rfl

/-- Steps that neither open a document nor close it, and spell its uri in one way. -/
structure Leaves (uri : String) (steps : List Step) : Prop where
  spelled : ∀ step ∈ steps, step.Touches (nameOf uri) → step.uri? = some uri
  unopened : ∀ step ∈ steps, ∀ text version, step ≠ .openDocument uri text version
  unclosed : ∀ step ∈ steps, step ≠ .closeDocument uri

/-- A document that is not open stays so unless it is opened, and a step shows what it finds on the
disk in its place or nothing. -/
theorem Leaves.step {uri : String} {steps : List Step} (leaves : Leaves uri steps) {server : Server}
    (h : server.document? uri = none) {step : Step} (hstep : step ∈ steps) :
    (server.step step).1.document? uri = none ∧
    server.Reveals uri step (server.step step).2.sent := by
  by_cases touches : step.Touches (nameOf uri)
  · have visits : step.Visits uri :=
      (step.close_or_visits (leaves.spelled step hstep touches)).resolve_left
        (leaves.unclosed step hstep)
    refine ⟨by rw [step_unopened h visits (leaves.unopened step hstep), h], ?_⟩
    cases visits with
    | opens text version => exact absurd rfl (leaves.unopened _ hstep text version)
    | changes version edits disk =>
      cases edits with
      | nil =>
        rw [step_change_nil h, sent_afterEdit]
        exact reveals_validate h (.changes version)
      | cons edit edits =>
        refine Or.inr ⟨?_, by simp [Server.step, h, view]⟩
        rintro findings ⟨other, text, consults, -⟩
        cases consults
    | validates disk => exact reveals_validate h .validates
  · refine ⟨(get?_step touches server).trans h, Or.inr ⟨?_, view_step_quiet touches server⟩⟩
    rintro findings ⟨disk, text, consults, -⟩
    cases consults <;> exact touches ⟨uri, rfl, rfl⟩

theorem Leaves.of_subset {uri : String} {steps fewer : List Step} (h : Leaves uri steps)
    (subset : ∀ step ∈ fewer, step ∈ steps) : Leaves uri fewer where
  spelled step hstep := h.spelled step (subset step hstep)
  unopened step hstep := h.unopened step (subset step hstep)
  unclosed step hstep := h.unclosed step (subset step hstep)

/-- No step of a run finds anything on the disk in the place of a document. -/
def FindsNothing (server : Server) (uri : String) (steps : List Step) : Prop :=
  ∀ earlier step later, steps = earlier ++ step :: later →
    ∀ findings, ¬(server.after earlier).Finds uri step findings

/-- Without a file that can be read there is nothing to find. -/
theorem findsNothing_of_unreadable {uri : String} {steps : List Step}
    (h : ∀ step ∈ steps, ∀ disk, step.Consults uri disk → ∀ text, disk.text ≠ .ok text)
    (server : Server) : server.FindsNothing uri steps := by
  rintro earlier step later rfl findings ⟨disk, text, consults, read, -⟩
  exact h step (by simp) disk consults text read

theorem unopened_run {server : Server} {uri : String} (h : server.document? uri = none)
    {steps : List Step} (leaves : Leaves uri steps) :
    (server.after steps).document? uri = none ∧
    (server.FindsNothing uri steps → view uri (server.sent steps) = none) := by
  induction steps generalizing server with
  | nil => exact ⟨h, fun _ => rfl⟩
  | cons step steps ih =>
    obtain ⟨closed, first⟩ := leaves.step h (by simp : step ∈ step :: steps)
    obtain ⟨still, later⟩ := ih closed (leaves.of_subset fun other hother => by simp [hother])
    refine ⟨still, ?_⟩
    intro nothing
    have silent : view uri (server.step step).2.sent = none := by
      rcases first with ⟨findings, found, -⟩ | ⟨-, silent⟩
      · exact absurd found (nothing [] step steps rfl findings)
      · exact silent
    rw [sent_cons, view_append, silent, later]
    · rfl
    · intro earlier other rest same findings
      exact nothing (step :: earlier) other rest (by rw [same]; rfl) findings

/-- What is seen of a document that was closed: nothing, unless a step finds something on the disk in
its place, and then what the last such step finds. -/
theorem view_closed (server : Server) {uri : String} {before later : List Step}
    (leaves : Leaves uri later) :
    let closed := server.after (before ++ [.closeDocument uri])
    let seen := view uri (server.sent (before ++ .closeDocument uri :: later))
    (closed.FindsNothing uri later → seen = some (none, [])) ∧
    (∀ earlier step rest findings, later = earlier ++ step :: rest →
      (closed.after earlier).Finds uri step findings →
      (closed.after (earlier ++ [step])).FindsNothing uri rest →
      seen = some (none, findings)) := by
  intro closed seen
  have absent : closed.document? uri = none := by
    simp only [closed, after_append, after_cons, after_nil]
    exact Pairs.get?_erase_self _ _
  have emptied : view uri (server.sent (before ++ [.closeDocument uri])) = some (none, []) := by
    rw [sent_append, view_append, sent_cons, sent_nil, List.append_nil]
    exact congrArg (Option.or · _) (view_publish uri none [])
  have split : seen = (view uri (closed.sent later)).or (some (none, [])) := by
    have whole : before ++ .closeDocument uri :: later =
        (before ++ [.closeDocument uri]) ++ later := by simp
    simp only [seen]
    rw [whole, sent_append, view_append, emptied]
  constructor
  · intro nothing
    rw [split, (unopened_run absent leaves).2 nothing]
    rfl
  · rintro earlier step rest findings rfl found nothing
    have still := (unopened_run absent (leaves.of_subset fun other hother => by
      simp [hother] : Leaves uri earlier)).1
    obtain ⟨unopened, shown⟩ := leaves.step still (by simp : step ∈ earlier ++ step :: rest)
    have seenHere : view uri ((closed.after earlier).step step).2.sent = some (none, findings) := by
      rcases shown with ⟨others, again, shown⟩ | ⟨none, -⟩
      · rw [shown, found.unique again]
      · exact absurd found (none findings)
    rw [after_append, after_cons, after_nil] at nothing
    -- Behind the last step that finds something nothing more is shown.
    have silent := (unopened_run unopened (leaves.of_subset fun other hother => by
      simp [hother] : Leaves uri rest)).2 nothing
    rw [split, sent_append, view_append, sent_cons, view_append, silent, seenHere]
    rfl

theorem exists_last_touch (name : List Char) (steps : List Step) :
    (∀ step ∈ steps, ¬step.Touches name) ∨
    ∃ before step later, steps = before ++ step :: later ∧ step.Touches name ∧
      ∀ other ∈ later, ¬other.Touches name := by
  induction steps with
  | nil => simp
  | cons step steps ih =>
    rcases ih with untouched | ⟨before, last, later, rfl, touches, untouched⟩
    · by_cases touches : step.Touches name
      · exact Or.inr ⟨[], step, steps, rfl, touches, untouched⟩
      · exact Or.inl (by simpa [touches] using untouched)
    · exact Or.inr ⟨step :: before, last, later, rfl, touches, untouched⟩

theorem kept_after (server : Server) (steps : List Step) :
    (server.after steps).encoding = server.encoding ∧
    (server.after steps).provider = server.provider := by
  induction steps generalizing server with
  | nil => exact ⟨rfl, rfl⟩
  | cons step steps ih =>
    obtain ⟨encoding, provider⟩ := server.kept_step step
    rw [after_cons, (ih _).1, (ih _).2]
    exact ⟨encoding, provider⟩

/-- The view of an open document after the last step that had it validated: the findings of that
validation, or what it was before if that validation failed. -/
theorem view_open {server : Server} {uri : String} {step : Step} (visits : step.Visits uri)
    {before later : List Step} (quiet : ∀ other ∈ later, ¬other.Touches (nameOf uri))
    {document : Document}
    (found : (server.after (before ++ step :: later)).document? uri = some document) :
    (∀ findings,
      ((server.after before).engine.validate server.encoding document.text).result = .ok findings →
      view uri (server.sent (before ++ step :: later)) = some (some document.version, findings)) ∧
    (∀ failure,
      ((server.after before).engine.validate server.encoding document.text).result =
        .error failure →
      view uri (server.sent (before ++ step :: later)) = view uri (server.sent before) ∧
      ((server.after before).step step).2.sent = []) := by
  let visited := ((server.after before).step step).1
  have found : visited.document? uri = some document := by
    rw [after_append, after_cons] at found
    exact (get?_after quiet visited).symm.trans found
  have engine : visited.engine = (server.after before).engine := engine_visit visits _
  have encoding : visited.encoding = server.encoding := by
    rw [(kept_step _ _).1, (kept_after _ _).1]
  have sends : ((server.after before).step step).2.sent =
      (visited.publish uri ⟨document.text, some document.version⟩).sent := sent_visit visits found
  have seen : view uri (server.sent (before ++ step :: later)) =
      (view uri (visited.publish uri ⟨document.text, some document.version⟩).sent).or
        (view uri (server.sent before)) := by
    rw [sent_append, view_append, sent_cons, view_append, view_sent_quiet quiet, sends]
    rfl
  rw [← engine, ← encoding]
  constructor
  · intro findings result
    rw [seen, sent_publish_ok result, view_publish]
    rfl
  · intro failure result
    rw [seen, sends, sent_publish_error result]
    exact ⟨rfl, rfl⟩

/-- An open document was opened at some time, so there is a last step that had it validated, and no
later step is about it. -/
theorem exists_last_visit {server : Server} {name : List Char}
    (absent : Pairs.get? name server.documents = none) {steps : List Step} {document : Document}
    (found : Pairs.get? name (server.after steps).documents = some document) :
    ∃ uri before step later, nameOf uri = name ∧ steps = before ++ step :: later ∧
      step.Visits uri ∧ ∀ other ∈ later, ¬other.Touches name := by
  rcases exists_last_touch name steps with untouched | ⟨before, step, later, rfl, touches, quiet⟩
  · rw [get?_after untouched, absent] at found
    contradiction
  · obtain ⟨uri, hstep, rfl⟩ := touches
    rcases step.close_or_visits hstep with rfl | visits
    · rw [after_append, after_cons, get?_after quiet] at found
      simp [Server.step] at found
    · exact ⟨uri, before, step, later, rfl, rfl, visits, quiet⟩

/-- The uri of each document is written in one way only. -/
def OneSpelling (steps : List Step) : Prop :=
  ∀ first ∈ steps, ∀ second ∈ steps, ∀ uri other,
    first.uri? = some uri → second.uri? = some other → nameOf uri = nameOf other → uri = other

/-- What the client sees is never stale. An open document shows what the engine of its last
validation finds in the text that it has now. A document that was closed shows nothing, unless it is
validated again and something is found in its place on the disk; then it shows that, without a
version. And no step changes what is seen of another document. -/
theorem view_current (engine : Engine) (provider : Completion.Provider) (encoding : Text.Encoding)
    (steps : List Step) (spelling : OneSpelling steps) :
    let server := fresh engine provider encoding
    (∀ name document, Pairs.get? name (server.after steps).documents = some document →
      ∃ uri before step later, nameOf uri = name ∧ steps = before ++ step :: later ∧
        step.Visits uri ∧ (∀ other ∈ later, ¬other.Visits uri) ∧
        (∀ findings,
          ((server.after before).engine.validate encoding document.text).result = .ok findings →
          view uri (server.sent steps) = some (some document.version, findings)) ∧
        (∀ failure,
          ((server.after before).engine.validate encoding document.text).result =
            .error failure →
          view uri (server.sent steps) = view uri (server.sent before) ∧
          ((server.after before).step step).2.sent = [])) ∧
    (∀ uri before later, steps = before ++ .closeDocument uri :: later →
      (∀ step ∈ later, step ≠ .closeDocument uri ∧
        ∀ text version, step ≠ .openDocument uri text version) →
      let closed := server.after (before ++ [.closeDocument uri])
      (closed.FindsNothing uri later → view uri (server.sent steps) = some (none, [])) ∧
      (∀ earlier step rest findings, later = earlier ++ step :: rest →
        (closed.after earlier).Finds uri step findings →
        (closed.after (earlier ++ [step])).FindsNothing uri rest →
        view uri (server.sent steps) = some (none, findings))) ∧
    (∀ before step later, steps = before ++ step :: later →
      ∀ uri, step.uri? ≠ some uri →
        view uri (server.sent (before ++ [step])) = view uri (server.sent before)) := by
  intro server
  refine ⟨?_, ?_, ?_⟩
  · intro name document found
    obtain ⟨uri, before, step, later, rfl, rfl, visits, quiet⟩ := exists_last_visit rfl found
    refine ⟨uri, before, step, later, rfl, rfl, visits, ?_, view_open visits quiet found⟩
    intro other hother again
    exact quiet other hother ⟨uri, again.uri?_eq, rfl⟩
  · rintro uri before later rfl left
    have spelled : ∀ step ∈ later, step.Touches (nameOf uri) → step.uri? = some uri := by
      rintro step hstep ⟨other, hother, same⟩
      rw [hother, spelling step (by simp [hstep]) (.closeDocument uri) (by simp) other uri hother rfl
        same]
    exact view_closed server
      ⟨spelled, fun step hstep => (left step hstep).2, fun step hstep => (left step hstep).1⟩
  · rintro before step later - uri other
    rw [sent_append, view_append, sent_cons, sent_nil, List.append_nil, view_step_other other]
    rfl

/-- One document stays open, one is closed and not on the disk. -/
theorem view_current_two :
    let server := fresh (Engine.builtIn "ex") ⟨Completion.Tables.ofLists [] [], rfl⟩ .utf16
    let steps : List Step :=
      [.openDocument "a" "if(".toList 1, .configure "x", .openDocument "b" "if(".toList 1,
        .closeDocument "b", .changeDocument "b" 2 [] .missing, .validateDocument "b" .directory]
    view "b" (server.sent steps) = some (none, []) ∧
    ∃ uri before, nameOf uri = ['a'] ∧ ∀ findings,
      ((server.after before).engine.validate .utf16 "if(".toList).result = .ok findings →
      view uri (server.sent steps) = some (some 1, findings) := by
  intro server steps
  have a : nameOf "a" = ['a'] := by decide +kernel
  have b : nameOf "b" = ['b'] := by decide +kernel
  have spelling : OneSpelling steps := by
    intro first hfirst second hsecond uri other
    simp only [steps, List.mem_cons, List.not_mem_nil, or_false] at hfirst hsecond
    rcases hfirst with rfl | rfl | rfl | rfl | rfl | rfl <;>
      rcases hsecond with rfl | rfl | rfl | rfl | rfl | rfl <;>
      simp only [Step.uri?, Option.some.injEq, reduceCtorEq, false_implies, implies_true] <;>
      rintro rfl rfl <;> simp [a, b]
  have document : Pairs.get? ['a'] (server.after steps).documents = some ⟨"if(".toList, 1⟩ := by
    simp [server, steps, fresh, Server.step, document?, a, b, Pairs.put, Pairs.get?, Pairs.erase]
  obtain ⟨seen, emptied, -⟩ :=
    view_current (Engine.builtIn "ex") ⟨Completion.Tables.ofLists [] [], rfl⟩ .utf16 steps spelling
  obtain ⟨uri, before, _, _, name, -, -, -, shown, -⟩ := seen ['a'] _ document
  refine ⟨(emptied "b" (steps.take 3) (steps.drop 4) rfl (by simp [steps])).1 ?_,
    uri, before, name, shown⟩
  apply findsNothing_of_unreadable
  intro step hstep disk consults text
  simp only [steps, List.drop_succ_cons, List.drop_zero, List.mem_cons, List.not_mem_nil,
    or_false] at hstep
  rcases hstep with rfl | rfl <;> cases consults <;> simp [Lookup.text]

/-- A document that was closed is validated again while it is on the disk. -/
theorem view_found_on_disk :
    let server := fresh (Engine.builtIn "ex") ⟨Completion.Tables.ofLists [] [], rfl⟩ .utf16
    let steps : List Step :=
      [.openDocument "a" ['a'] 1, .closeDocument "a",
        .validateDocument "a" (.file (Text.Utf8.encode "if(".toList))]
    view "a" (server.sent steps) ≠ some (none, []) ∧
    view "a" (server.sent steps) = some (none,
      [⟨.error, ⟨0, 0⟩, ⟨0, 3⟩, "if( needs a space between 'if' and opening paranthesis.", "ex"⟩]) := by
  decide +kernel

end ScriptAssist.Server
