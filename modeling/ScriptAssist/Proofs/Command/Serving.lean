import ScriptAssist.Command.Run

namespace ScriptAssist.Command

theorem logFault?_cases {world : World} {path : Path} {ending : Ending}
    (h : logFault? world path = some ending) :
    ending = .isDirectory ∨ ending = .notDirectory ∨ ending = .missingFile := by
  rw [logFault?] at h
  split at h
  · cases h
  · cases h
    simp
  · cases h
    simp
  · split at h <;> cases h <;> simp

theorem complain_of_writable {complaint : Complaint} (h : complaint.isWritable)
    (headline : String) :
    complain headline complaint =
      { ending := .exit 2, complaints := headline ++ ": " ++ complaint.spelled ++ "\n" } := by
  rw [complain, Complaint.text, if_pos h]

theorem complain_of_not_writable {complaint : Complaint} (h : ¬complaint.isWritable)
    (headline : String) : complain headline complaint = { ending := .number .tooLarge } := by
  rw [complain, Complaint.text, if_neg h]

theorem refuse_ne_usage (headline : String) (fault : Completion.Tables.Fault) :
    (refuse headline fault).ending ≠ .usage ∧ (refuse headline fault).served = none := by
  cases fault with
  | inconsistent inconsistency =>
    rw [refuse]
    by_cases writable : inconsistency.complaint.isWritable
    · simp [complain_of_writable writable]
    · simp [complain_of_not_writable writable]
  | index fault => simp [refuse]

/-- A server is refused for its arguments exactly if its flags are, and else runs with the settings
that they leave, the log in the place that its path leads to. -/
theorem runServe_settled {world : World} {config : Option Path} {settings : Settings}
    {events : List Log.Event} (h : configure world config = .ok (settings, events))
    (address : Option (String × Int)) (flags : Settings.Flags) :
    ((runServe world address flags config).ending = .usage ↔ settings.withFlags flags = none) ∧
    ∀ served, (runServe world address flags config).served = some served →
      ∃ final, settings.withFlags flags = some final ∧
        served.settings = { final with logFile := final.logFile.map Path.collapse } := by
  unfold runServe
  rw [h]
  cases flagged : settings.withFlags flags with
  | none => simp [flagged]
  | some final =>
    cases logged : (final.logFile.map Path.collapse).bind (logFault? world) with
    | some ending =>
      obtain ⟨path, -, fault⟩ := Option.bind_eq_some_iff.1 logged
      have other : ending ≠ .usage := by
        rcases logFault?_cases fault with rfl | rfl | rfl <;> simp
      simp [flagged, logged, other]
    | none =>
      cases accepted : Completion.Provider.ofTables world.tables with
      | error fault =>
        obtain ⟨other, idle⟩ := refuse_ne_usage "cannot start" fault
        simp [flagged, logged, other, idle]
      | ok provider => simp [flagged, logged]

end ScriptAssist.Command
