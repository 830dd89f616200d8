import ScriptAssist.Proofs.Document
import ScriptAssist.Proofs.Engine.Findings
import ScriptAssist.Proofs.Rule.Shape
import ScriptAssist.Proofs.Server.View

namespace ScriptAssist.Server

theorem document?_open (server : Server) (uri : String) (text : List Char) (version : Int) :
    (server.step (.openDocument uri text version)).1.document? uri = some ⟨text, version⟩ :=
  Pairs.get?_put_self _ _ _

theorem sent_open {server : Server} {text : List Char} {findings : List Finding}
    (h : (server.engine.validate server.encoding text).result = .ok findings) (uri : String)
    (version : Int) :
    (server.step (.openDocument uri text version)).2.sent =
      [.publish uri (some version) findings] := by
  rw [sent_visit (.opens text version) (server.document?_open uri text version)]
  exact sent_publish_ok h uri

theorem document?_change_open (server : Server) (uri : String) (text : List Char)
    (version next : Int) (edit : Edit) (disk : Lookup) :
    ((server.step (.openDocument uri text version)).1.step
        (.changeDocument uri next [edit] disk)).1.document? uri =
      some ⟨edit.apply server.encoding text, next⟩ := by
  rw [step_change_open (server.document?_open uri text version)]
  exact Pairs.get?_put_self _ _ _

/-- A published range that comes back as a change hits the flagged text and nothing else. Opening a
document publishes one finding for each match of the built-in rules, and a change between the two
positions of a finding replaces its match in the text. -/
theorem change_published (server : Server)
    (h : server.engine.rules = PatternRule.builtIn.map PatternRule.toRule) (uri : String)
    (text : List Char) (version : Int) :
    let opened := server.step (.openDocument uri text version)
    ∃ findings, opened.2.sent = [.publish uri (some version) findings] ∧
      List.Forall₂ (fun found finding =>
          server.engine.Shows server.encoding text found.1.message found.2 finding ∧
          ∀ new next disk, (opened.1.step (.changeDocument uri next
              [.part finding.first finding.last new] disk)).1.document? uri =
            some ⟨text.take found.2.first ++ new ++ text.drop found.2.last, next⟩)
        (Engine.matched PatternRule.hits PatternRule.builtIn text) findings := by
  intro opened
  refine ⟨_, sent_open (Engine.result_toRule h server.encoding text) uri version, ?_⟩
  rw [List.forall₂_map_right_iff, List.forall₂_same]
  intro found hfound
  obtain ⟨hrule, hspan, cuts⟩ := Engine.cuts_of_mem_matched hfound
  refine ⟨Engine.shows_findingOf server.engine server.encoding found.1.message cuts, ?_⟩
  intro new next disk
  rw [← found.1.spans_eq_hits] at hspan
  have inside := PatternRule.last_inside_of_mem_builtIn hrule hspan
  have edited := Edit.apply_part server.encoding (Nat.le_of_lt cuts.first_lt)
    cuts.last_le inside new
  rw [document?_change_open, ← edited]
  rfl

theorem change_published_astral :
    let server := fresh (Engine.builtIn "ex") ⟨Completion.Tables.ofLists [] [], rfl⟩ .utf16
    let opened := server.step (.openDocument "u" "a\r\n😀if(b".toList 1)
    ∃ finding, opened.2.sent = [.publish "u" (some 1) [finding]] ∧
      (opened.1.step (.changeDocument "u" 2
          [.part finding.first finding.last "if (".toList] .missing)).1.document? "u" =
        some ⟨"a\r\n😀if (b".toList, 2⟩ := by
  intro server opened
  have matched : Engine.matched PatternRule.hits PatternRule.builtIn "a\r\n😀if(b".toList =
      [(PatternRule.ifParenSpacing, ⟨4, 7, "if(".toList⟩)] := by
    simp only [Engine.matched, ← PatternRule.spans_eq_hits]
    rfl
  obtain ⟨findings, sent, edited⟩ := change_published server rfl "u" "a\r\n😀if(b".toList 1
  rw [matched] at edited
  cases edited with
  | cons shown none =>
    cases none
    exact ⟨_, sent, shown.2 "if (".toList 2 .missing⟩

end ScriptAssist.Server
