import Mathlib.Data.List.Forall2
import ScriptAssist.Proofs.Log
import ScriptAssist.Proofs.Server.View

namespace ScriptAssist

namespace Session

/-- The value that counts among the fields of options: the second key is looked at only where the
first one is absent. -/
inductive Counts (fields : List (String × Value)) : Value → Prop where
  | first {value : Value} (found : fields.lookup "logLevel" = some value) : Counts fields value
  | second {value : Value} (absent : fields.lookup "logLevel" = none)
      (found : fields.lookup "log_level" = some value) : Counts fields value

/-- Options that ask for a threshold. -/
inductive Asks : Value → Int → Prop where
  | intro {fields : List (String × Value)} {text : String} {rank : Int}
      (counts : Counts fields (.string text)) (spells : Log.Spells text rank) :
      Asks (.object fields) rank

/-- Options that are there but not valid. -/
inductive Refused : Value → Prop where
  | shape {options : Value} (given : options ≠ .null) (h : ∀ fields, options ≠ .object fields) :
      Refused options
  | level {fields : List (String × Value)} {value : Value} (counts : Counts fields value)
      (given : value ≠ .null) (h : ∀ text, value ≠ .string text) : Refused (.object fields)

end Session

namespace Server

open Session

/-- The line about options that are not valid. -/
def refusal : Log.Line := ⟨.warning, "ignoring invalid initializationOptions"⟩

/-- What happens to the log for the value that counts. -/
def levelEvents : Value → List Log.Event
  | .null => []
  | .string text => ((Log.named? text).map Log.Event.threshold).toList
  | _ => [.line refusal]

theorem applyOptions_counts {fields : List (String × Value)} {value : Value}
    (counts : Counts fields value) : applyOptions (.object fields) = levelEvents value := by
  cases counts with
  | first found => cases value <;> simp [applyOptions, levelName, found, levelEvents] <;> rfl
  | second absent found =>
    cases value <;> simp [applyOptions, levelName, absent, found, levelEvents] <;> rfl

/-- The line about the capabilities of a client. -/
def sessionLine (capabilities : Value) : Log.Line :=
  ⟨.debug, s!"session capabilities: {(ofCapabilities capabilities).describe}"⟩

theorem applyOptions_asks {options : Value} {rank : Int} (h : Asks options rank) :
    applyOptions options = [.threshold rank] := by
  obtain ⟨counts, spells⟩ := h
  rw [applyOptions_counts counts, levelEvents, Log.named?_eq_some_iff.2 spells]
  rfl

theorem applyOptions_refused {options : Value} (h : Refused options) :
    applyOptions options = [.line refusal] := by
  cases h with
  | shape given h =>
    cases options with
    | null => exact absurd rfl given
    | object fields => exact absurd rfl (h fields)
    | _ => rfl
  | @level fields value counts given h =>
    rw [applyOptions_counts counts]
    cases value with
    | null => exact absurd rfl given
    | string text => exact absurd rfl (h text)
    | _ => rfl

theorem applyOptions_otherwise {options : Value} (unasked : ∀ rank, ¬Asks options rank)
    (valid : ¬Refused options) : applyOptions options = [] := by
  cases options with
  | null => rfl
  | object fields =>
    by_cases level : ∃ value, Counts fields value
    · obtain ⟨value, counts⟩ := level
      rw [applyOptions_counts counts]
      cases value with
      | null => rfl
      | string text =>
        have unnamed : Log.named? text = none := by
          rw [Option.eq_none_iff_forall_ne_some]
          intro rank named
          exact unasked rank ⟨counts, Log.named?_eq_some_iff.1 named⟩
        rw [levelEvents, unnamed]
        rfl
      | _ => exact absurd (.level counts (by simp) (by simp)) valid
    · have first : fields.lookup "logLevel" = none := by
        rw [Option.eq_none_iff_forall_ne_some]
        exact fun value found => level ⟨value, .first found⟩
      have second : fields.lookup "log_level" = none := by
        rw [Option.eq_none_iff_forall_ne_some]
        exact fun value found => level ⟨value, .second first found⟩
      simp [applyOptions, levelName, first, second]
  | _ => exact absurd (.shape (by simp) (by simp)) valid

theorem not_refused_of_asks {options : Value} {rank : Int} (h : Asks options rank) :
    ¬Refused options := by
  intro refused
  have same := (applyOptions_asks h).symm.trans (applyOptions_refused refused)
  simp at same

/-- A step that sets the threshold. -/
inductive Step.Sets : Step → Int → Prop where
  | connect (capabilities : Value) {options : Value} {rank : Int} (asks : Asks options rank) :
      Sets (.connect capabilities options) rank

/-- The threshold after some steps: that of the last step that sets it, or the default one. -/
inductive Threshold : List Step → Int → Prop where
  | unset {steps : List Step} (h : ∀ step ∈ steps, ∀ rank, ¬step.Sets rank) :
      Threshold steps Log.defaultThreshold
  | set (before : List Step) {step : Step} {later : List Step} {rank : Int} (sets : step.Sets rank)
      (h : ∀ other ∈ later, ∀ rank, ¬other.Sets rank) : Threshold (before ++ step :: later) rank

/-- Steps that differ at most in the options of a client. -/
inductive Step.EqButOptions : Step → Step → Prop where
  | refl (step : Step) : EqButOptions step step
  | connect (capabilities options others : Value) :
      EqButOptions (.connect capabilities options) (.connect capabilities others)

/-! ## One step -/

theorem threshold_notMem_publish (server : Server) (uri : String) (source : Source) (rank : Int) :
    .threshold rank ∉ (server.publish uri source).events := by
  rw [publish]
  split <;> simp [Log.warning, Log.error, Log.debug]

theorem threshold_notMem_validate (server : Server) (uri : String) (disk : Lookup) (rank : Int) :
    .threshold rank ∉ (server.validate uri disk).events := by
  rw [validate]
  split
  · simp
  · exact threshold_notMem_publish server uri _ rank

theorem events_afterEdit (server : Server) (uri : String) (disk : Lookup) :
    (server.afterEdit uri disk).events = (server.validate uri disk).events := by
  rw [afterEdit, validate]
  split <;> rfl

theorem events_connect (server : Server) (capabilities options : Value) :
    (server.step (.connect capabilities options)).2.events =
      applyOptions options ++ [.line (sessionLine capabilities)] := rfl

theorem threshold_notMem_step (server : Server) {step : Step} (h : ∀ rank, ¬step.Sets rank)
    (rank : Int) : .threshold rank ∉ (server.step step).2.events := by
  cases step with
  | connect capabilities options =>
    have unasked : ∀ rank, ¬Asks options rank := fun rank asks => h rank (.connect _ asks)
    rw [events_connect]
    by_cases refused : Refused options
    · simp [applyOptions_refused refused]
    · simp [applyOptions_otherwise unasked refused]
  | openDocument uri text version =>
    simp only [Server.step, events_afterEdit]
    exact threshold_notMem_validate _ uri .missing rank
  | changeDocument uri version edits disk =>
    simp only [Server.step]
    split
    · simp only [events_afterEdit]
      exact threshold_notMem_validate _ uri disk rank
    · simp
    · simp only [events_afterEdit]
      exact threshold_notMem_validate _ uri disk rank
  | validateDocument uri disk => exact threshold_notMem_validate server uri disk rank
  | resolve item =>
    simp only [Server.step, resolveItem]
    split <;> simp [Log.warning]
  | _ => simp [Server.step, announce, Log.debug, Log.info]

theorem thresholdAfter_sets (server : Server) {step : Step} {rank : Int} (h : step.Sets rank)
    (threshold : Int) : Log.thresholdAfter threshold (server.step step).2.events = rank := by
  cases h with
  | connect capabilities asks =>
    rw [events_connect, applyOptions_asks asks]
    rfl

theorem thresholdAfter_unset (server : Server) {step : Step} (h : ∀ rank, ¬step.Sets rank)
    (threshold : Int) : Log.thresholdAfter threshold (server.step step).2.events = threshold :=
  Log.thresholdAfter_eq_self (threshold_notMem_step server h) threshold

/-- The threshold is set before any line, so all lines of a step are judged by the one after it. -/
theorem kept_step_eq_filter (server : Server) (step : Step) (threshold : Int) :
    let events := (server.step step).2.events
    Log.kept threshold events = (Log.offered events).filter fun line =>
      Log.inForce (Log.thresholdAfter threshold events) ≤ line.level.rank := by
  intro events
  by_cases sets : ∃ rank, step.Sets rank
  · obtain ⟨rank, sets⟩ := sets
    rw [thresholdAfter_sets server sets]
    cases sets with
    | connect capabilities asks =>
      simp only [events, events_connect, applyOptions_asks asks]
      exact Log.kept_eq_filter (by simp) rank
  · have unset : ∀ rank, ¬step.Sets rank := by simpa using sets
    rw [thresholdAfter_unset server unset]
    exact Log.kept_eq_filter (threshold_notMem_step server unset) threshold

theorem offered_refused (server : Server) (capabilities : Value) {options : Value}
    (h : Refused options) :
    Log.offered (server.step (.connect capabilities options)).2.events =
      [refusal, sessionLine capabilities] := by
  rw [events_connect, applyOptions_refused h]
  rfl

theorem offered_valid (server : Server) (capabilities : Value) {options : Value}
    (h : ¬Refused options) :
    Log.offered (server.step (.connect capabilities options)).2.events =
      [sessionLine capabilities] := by
  by_cases asks : ∃ rank, Asks options rank
  · obtain ⟨rank, asks⟩ := asks
    rw [events_connect, applyOptions_asks asks]
    rfl
  · rw [events_connect, applyOptions_otherwise (by simpa using asks) h]
    rfl

/-- What a response shows apart from the line about options. -/
def Response.shown (response : Response) : Result × List Message × List Log.Line :=
  (response.result, response.sent, (Log.offered response.events).filter (· ≠ refusal))

theorem step_eqButOptions (server : Server) {step other : Step} (h : step.EqButOptions other) :
    (server.step other).1 = (server.step step).1 ∧
    (server.step other).2.shown = (server.step step).2.shown := by
  cases h with
  | refl => exact ⟨rfl, rfl⟩
  | connect capabilities options others =>
    have lines (options : Value) :
        (Log.offered (server.step (.connect capabilities options)).2.events).filter (· ≠ refusal) =
          [sessionLine capabilities] := by
      have differs : sessionLine capabilities ≠ refusal := by simp [sessionLine, refusal]
      by_cases refused : Refused options
      · rw [offered_refused server capabilities refused]
        simp [differs]
      · rw [offered_valid server capabilities refused]
        simp [differs]
    refine ⟨rfl, ?_⟩
    rw [Response.shown, Response.shown, lines, lines]
    rfl

/-! ## Runs -/

theorem run_eqButOptions {steps others : List Step}
    (h : List.Forall₂ Step.EqButOptions steps others) (server : Server) :
    (server.run others).map Response.shown = (server.run steps).map Response.shown := by
  induction h generalizing server with
  | nil => rfl
  | cons head tail ih =>
    obtain ⟨same, shown⟩ := step_eqButOptions server head
    rw [run, run, List.map_cons, List.map_cons, same, shown, ih]

theorem run_append (server : Server) (first second : List Step) :
    server.run (first ++ second) = server.run first ++ (server.after first).run second := by
  induction first generalizing server with
  | nil => rfl
  | cons step first ih =>
    rw [List.cons_append, run, run, ih]
    rfl

theorem length_run (server : Server) (steps : List Step) :
    (server.run steps).length = steps.length := by
  induction steps generalizing server with
  | nil => rfl
  | cons step steps ih => simp [run, ih]

/-- The threshold of a log after some responses. -/
def thresholdOf (threshold : Int) (responses : List Response) : Int :=
  Log.thresholdAfter threshold (responses.flatMap Response.events)

theorem logs_append (threshold : Int) (first second : List Response) :
    logs threshold (first ++ second) =
      logs threshold first ++ logs (thresholdOf threshold first) second := by
  induction first generalizing threshold with
  | nil => rfl
  | cons response first ih =>
    rw [List.cons_append, logs, logs, ih, thresholdOf, thresholdOf, List.flatMap_cons,
      Log.thresholdAfter_append]
    rfl

theorem length_logs (threshold : Int) (responses : List Response) :
    (logs threshold responses).length = responses.length := by
  induction responses generalizing threshold with
  | nil => rfl
  | cons response responses ih => simp [logs, ih]

theorem thresholdOf_quiet {steps : List Step} (h : ∀ step ∈ steps, ∀ rank, ¬step.Sets rank)
    (server : Server) (threshold : Int) : thresholdOf threshold (server.run steps) = threshold := by
  induction steps generalizing server with
  | nil => rfl
  | cons step steps ih =>
    have later := ih (fun other member => h other (by simp [member])) (server.step step).1
    rw [thresholdOf, run, List.flatMap_cons, Log.thresholdAfter_append,
      thresholdAfter_unset server (h step (by simp))]
    exact later

theorem thresholdOf_run {steps : List Step} {level : Int} (h : Threshold steps level)
    (server : Server) : thresholdOf Log.defaultThreshold (server.run steps) = level := by
  cases h with
  | unset h => exact thresholdOf_quiet h server _
  | @set before step later _ sets h =>
    rw [run_append, run, thresholdOf, List.flatMap_append, List.flatMap_cons,
      Log.thresholdAfter_append, Log.thresholdAfter_append, thresholdAfter_sets _ sets]
    exact thresholdOf_quiet h _ level

theorem exists_threshold (steps : List Step) : ∃ level, Threshold steps level := by
  induction steps with
  | nil => exact ⟨_, .unset (by simp)⟩
  | cons step steps ih =>
    obtain ⟨level, later⟩ := ih
    cases later with
    | set before sets h => exact ⟨level, .set (step :: before) sets h⟩
    | unset h =>
      by_cases sets : ∃ rank, step.Sets rank
      · obtain ⟨rank, sets⟩ := sets
        exact ⟨rank, .set [] sets h⟩
      · have quiet : ∀ other ∈ step :: steps, ∀ rank, ¬other.Sets rank := by
          simpa using ⟨by simpa using sets, h⟩
        exact ⟨_, .unset quiet⟩

theorem Threshold.concat_unset {steps : List Step} {level : Int} (h : Threshold steps level)
    {step : Step} (unset : ∀ rank, ¬step.Sets rank) : Threshold (steps ++ [step]) level := by
  have longer {steps : List Step} (quiet : ∀ other ∈ steps, ∀ rank, ¬other.Sets rank) :
      ∀ other ∈ steps ++ [step], ∀ rank, ¬other.Sets rank := by
    intro other member
    rcases List.mem_append.1 member with earlier | last
    · exact quiet other earlier
    · rw [List.mem_singleton.1 last]
      exact unset
  cases h with
  | unset quiet => exact .unset (longer quiet)
  | set before sets quiet =>
    rw [List.append_assoc, List.cons_append]
    exact .set before sets (longer quiet)

theorem Threshold.unique (server : Server) {steps : List Step} {level other : Int}
    (h : Threshold steps level) (also : Threshold steps other) : other = level :=
  (thresholdOf_run also server).symm.trans (thresholdOf_run h server)

theorem getElem?_run (server : Server) (before : List Step) (step : Step) (later : List Step) :
    (server.run (before ++ step :: later))[before.length]? =
      some ((server.after before).step step).2 := by
  have place : before.length = (server.run before).length := (length_run server before).symm
  rw [run_append, run, place, List.getElem?_append_right (Nat.le_refl _), Nat.sub_self]
  rfl

theorem getElem?_logs (server : Server) {before : List Step} {step : Step} {level : Int}
    (h : Threshold (before ++ [step]) level) (later : List Step) :
    (logs Log.defaultThreshold (server.run (before ++ step :: later)))[before.length]? =
      some ((Log.offered ((server.after before).step step).2.events).filter fun line =>
        Log.inForce level ≤ line.level.rank) := by
  have place : before.length = (logs Log.defaultThreshold (server.run before)).length := by
    rw [length_logs, length_run]
  have reached := thresholdOf_run h server
  rw [run_append, run, thresholdOf, List.flatMap_append, Log.thresholdAfter_append] at reached
  simp only [run, List.flatMap_cons, List.flatMap_nil, List.append_nil] at reached
  rw [run_append, run, logs_append, logs, place, List.getElem?_append_right (Nat.le_refl _),
    Nat.sub_self, List.getElem?_cons_zero, kept_step_eq_filter]
  simp only [thresholdOf, reached]

/-- Options influence the log and nothing else. Each step keeps those of its lines that reach the
threshold after it, and this threshold is that of the last client that asked for one. -/
theorem logs_of_options (server : Server) (steps : List Step) :
    (∀ others, List.Forall₂ Step.EqButOptions steps others →
      (server.run others).map Response.shown = (server.run steps).map Response.shown) ∧
    ∀ before step later, steps = before ++ step :: later →
      let response := ((server.after before).step step).2
      (server.run steps)[before.length]? = some response ∧
      ∃ level, (∀ other, Threshold (before ++ [step]) other ↔ other = level) ∧
        (logs Log.defaultThreshold (server.run steps))[before.length]? =
          some ((Log.offered response.events).filter fun line =>
            Log.inForce level ≤ line.level.rank) ∧
        ((∀ rank, ¬step.Sets rank) → Threshold before level) ∧
        ∀ capabilities options, step = .connect capabilities options →
          (Refused options → Threshold before level ∧
            Log.offered response.events = [refusal, sessionLine capabilities]) ∧
          (¬Refused options → Log.offered response.events = [sessionLine capabilities]) := by
  refine ⟨fun others alike => run_eqButOptions alike server, ?_⟩
  rintro before step later rfl response
  refine ⟨getElem?_run server before step later, ?_⟩
  obtain ⟨level, reached⟩ := exists_threshold (before ++ [step])
  have same (other : Int) : Threshold (before ++ [step]) other ↔ other = level := by
    constructor
    · exact reached.unique server
    · rintro rfl
      exact reached
  have stays (unset : ∀ rank, ¬step.Sets rank) : Threshold before level := by
    obtain ⟨earlier, held⟩ := exists_threshold before
    rw [← (same earlier).1 (held.concat_unset unset)]
    exact held
  refine ⟨level, same, getElem?_logs server reached later, stays, ?_⟩
  rintro capabilities options rfl
  refine ⟨fun refused => ⟨stays ?_, offered_refused _ capabilities refused⟩,
    fun valid => offered_valid _ capabilities valid⟩
  rintro rank ⟨_, asks⟩
  exact not_refused_of_asks asks refused

theorem logs_of_options_twice :
    let server := fresh (Engine.builtIn "ex") ⟨Completion.Tables.ofLists [] [], rfl⟩ .utf16
    let asking := Value.object [("log_level", .string " debug\n")]
    let invalid := Value.object [("logLevel", .int 40), ("log_level", .string "ERROR")]
    let steps (options others : Value) : List Step :=
      [.connect .null options, .connect .null others, .filesChanged]
    (server.run (steps .null .null)).map Response.shown =
      (server.run (steps asking invalid)).map Response.shown ∧
    (logs Log.defaultThreshold (server.run (steps asking invalid)))[1]? =
      some [refusal, sessionLine .null] ∧
    (logs Log.defaultThreshold (server.run (steps asking invalid)))[2]? =
      some [⟨.info, "We received a file change event"⟩] := by
  intro server asking invalid steps
  have asks : Asks asking 10 := ⟨.second rfl rfl, "DEBUG", by decide, by decide⟩
  have refused : Refused invalid := .level (.first rfl) (by simp) (by simp)
  have unasked (rank : Int) : ¬Step.Sets (.connect .null invalid) rank := by
    rintro ⟨_, asked⟩
    exact not_refused_of_asks asked refused
  obtain ⟨alike, logged⟩ := logs_of_options server (steps asking invalid)
  refine ⟨?_, ?_, ?_⟩
  · apply alike
    exact .cons (.connect _ _ _) (.cons (.connect _ _ _) (.cons (.refl _) .nil))
  · obtain ⟨-, level, same, kept, -, connects⟩ :=
      logged [.connect .null asking] (.connect .null invalid) [.filesChanged] rfl
    have ten : 10 = level := by
      apply (same 10).1
      exact .set [] (.connect .null asks) (by simpa using unasked)
    rw [((connects .null invalid rfl).1 refused).2, ← ten] at kept
    exact kept
  · obtain ⟨-, level, same, kept, -, -⟩ :=
      logged [.connect .null asking, .connect .null invalid] .filesChanged [] rfl
    have ten : 10 = level := by
      apply (same 10).1
      have silent (rank : Int) : ¬Step.Sets .filesChanged rank := nofun
      exact .set [] (.connect .null asks) (by simp [unasked, silent])
    rw [← ten] at kept
    exact kept

end Server

end ScriptAssist
