import ScriptVet.Proofs.Analyzer.Lint
import ScriptVet.Proofs.Analyzer.Parsing
import ScriptVet.Proofs.Analyzer.Results

/-!
# When analyses are skipped

An analysis that would hand its script to a tool is skipped exactly if there is no tool for the
language, or the tool is not to be had. No answer of a tool makes one skipped. So whether an
analysis is skipped depends on the language of the script and not on its text.
-/

namespace ScriptVet

open AnalysisResult

theorem AnalysisResult.status_ofFindings_ne_skipped (kind : AnalyzerKind)
    (findings : List Finding) (metadata : List (String × Json)) :
    (ofFindings kind findings metadata).status ≠ .skipped := by
  by_cases fatal : findings.any (·.category.isFatal)
  · have status : (ofFindings kind findings metadata).status = .fail := if_pos fatal
    rw [status]
    decide
  · have status : (ofFindings kind findings metadata).status = .pass := if_neg fatal
    rw [status]
    decide

/-- A parser's verdict is never that the check was skipped. -/
theorem ParseCheck.status_verdict_ne_skipped {kind : AnalyzerKind} {scriptPath scriptFile : String}
    {linesBefore : Int} {stdout stderr : String} {code : Int} {r : AnalysisResult}
    (drawn : verdict kind scriptPath scriptFile linesBefore stdout stderr code = .ok r) :
    r.status ≠ .skipped := by
  rw [verdict] at drawn
  split at drawn
  · cases drawn
    exact status_ofFindings_ne_skipped kind [] []
  · obtain ⟨place, -, drawn⟩ := Result.bind_eq_ok.mp drawn
    cases drawn
    exact status_ofFindings_ne_skipped kind _ []

theorem ParseCheck.verdict_error {kind : AnalyzerKind} {scriptPath scriptFile : String}
    {linesBefore : Int} {stdout stderr : String} {code : Int} {fault : Fault}
    (failed : verdict kind scriptPath scriptFile linesBefore stdout stderr code = .error fault) :
    IsNumberFault fault := by
  rw [verdict] at failed
  split at failed
  · cases failed
  · rcases Result.bind_eq_error.mp failed with unplaced | ⟨place, -, ⟨⟩⟩
    exact location_error unplaced

/-- The linter's verdict is never that the check was skipped. -/
theorem Lint.status_verdict_ne_skipped {depth : Nat} {stdout stderr : String} {code : Int}
    {r : AnalysisResult} (drawn : verdict depth stdout stderr code = .ok r) :
    r.status ≠ .skipped := by
  have failed := status_ofFindings_ne_skipped .lint
  rw [verdict] at drawn
  obtain ⟨comments?, -, drawn⟩ := Result.bind_eq_ok.mp drawn
  cases comments? with
  | none =>
      cases drawn
      exact failed _ _
  | some comments =>
      simp only at drawn
      split at drawn
      · cases drawn
        exact failed _ _
      · obtain ⟨findings, -, drawn⟩ := Result.bind_eq_ok.mp drawn
        cases drawn
        exact failed _ _

/-- Whatever a command answers, it does not say that its tool is missing. -/
theorem Work.answer_ne_unavailable (toolbox : Toolbox) (command : Command) (seconds : Option Int)
    (tool reason : String) :
    answer toolbox command seconds ≠ .error (.toolUnavailable tool reason) := by
  intro failed
  rw [answer] at failed
  split at failed
  · cases failed
  · split at failed <;> cases failed
  · split at failed <;> cases failed

/-- Only a missing tool makes an analysis skipped. -/
theorem Analyzer.status_ne_skipped_of_orSkipped {kind : AnalyzerKind}
    {failure : Fault → AnalysisResult} {result : Result AnalysisResult}
    (available : ∀ tool reason, result ≠ .error (.toolUnavailable tool reason))
    (made : ∀ r, result = .ok r → r.status ≠ .skipped)
    (failed : ∀ fault, (failure fault).status ≠ .skipped) {r : AnalysisResult}
    (comes : orSkipped kind (orFailed failure result) = .ok r) : r.status ≠ .skipped := by
  cases result with
  | ok r' =>
      cases comes
      exact made r rfl
  | error fault =>
      cases fault with
      | toolUnavailable tool reason => exact absurd rfl (available tool reason)
      | toolOverran executable seconds =>
          cases comes
          exact failed _
      | _ => cases comes

namespace Session

open Analyzer

section

variable {settings : Settings} {mark : String} {script : Script} {kind : AnalyzerKind}
  {tool : String}

theorem ToolCheck.status_verdict_ne_skipped {output : Work.Output} {r : AnalysisResult}
    (drawn : (ofKind settings mark script kind tool).verdict output = .ok r) :
    r.status ≠ .skipped := by
  cases kind with
  | lint => exact Lint.status_verdict_ne_skipped drawn
  | _ => exact ParseCheck.status_verdict_ne_skipped drawn

theorem ToolCheck.verdict_error {output : Work.Output} {fault : Fault}
    (failed : (ofKind settings mark script kind tool).verdict output = .error fault) :
    ParseCheck.IsNumberFault fault := by
  cases kind with
  | lint => exact Lint.verdict_error failed
  | _ => exact ParseCheck.verdict_error failed

theorem ToolCheck.status_failure_ne_skipped (fault : Fault) :
    ((ofKind settings mark script kind tool).failure fault).status ≠ .skipped := by
  cases kind <;> exact status_ofFindings_ne_skipped _ _ _

/-- A check whose tool there is comes to no result that was skipped. -/
theorem ToolCheck.status_ne_skipped_of_executable
    (hands : handedTo? script.language kind = some tool) {view : View}
    (temporary : view.temporary = .ok ()) {executable : String}
    (there : Work.executableOf settings tool view.toolbox = .ok executable) {r : AnalysisResult}
    (comes : (ofKind settings mark script kind tool).outcome settings view = .ok r) :
    r.status ≠ .skipped := by
  rw [outcome_of_executable _ (tool_ofKind hands settings mark) temporary there] at comes
  rw [kind_ofKind] at comes
  refine status_ne_skipped_of_orSkipped (fun missing reason failed => ?_) (fun r drawn => ?_)
    status_failure_ne_skipped comes
  · rcases Result.bind_eq_error.mp failed with unanswered | ⟨output, -, undrawn⟩
    · exact Work.answer_ne_unavailable _ _ _ missing reason unanswered
    · rcases verdict_error undrawn with ⟨e, same⟩ | ⟨problems, account, same⟩ <;> cases same
  · obtain ⟨output, -, drawn⟩ := Result.bind_eq_ok.mp drawn
    exact status_verdict_ne_skipped drawn

end

/-- The analysis would hand the script to a tool, but there is none. -/
def lacksTool (settings : Settings) (toolbox : Toolbox) (language : Language) :
    AnalyzerKind → Bool
  | .functionDeps | .variableUsage => false
  | tooled => (handedTo? language tooled).all fun tool =>
      !(Work.executableOf settings tool toolbox).isOk

variable {settings : Settings} {script : Script} {kind : AnalyzerKind} {m : Machine}
  {r : AnalysisResult}

theorem lacksTool_of_handedTo? {toolbox : Toolbox} {language : Language} {tool : String}
    (hands : handedTo? language kind = some tool) :
    lacksTool settings toolbox language kind = !(Work.executableOf settings tool toolbox).isOk := by
  cases kind with
  | functionDeps => cases hands
  | variableUsage => cases hands
  | _ => simp only [lacksTool, hands, Option.all_some]

/-- Where no tool is handed the script, only the analyses that look at the text alone are made. -/
theorem skipped_iff_of_not_handed (hands : handedTo? script.language kind = none) {view : View}
    (toolbox : Toolbox) (comes : outcome settings view script kind = .ok r) :
    r.status = .skipped ↔ lacksTool settings toolbox script.language kind := by
  cases kind with
  | parses =>
      simp only [lacksTool, hands]
      change script.language.interpreter? = none at hands
      simp only [outcome, parseCheckOutcome, hands] at comes
      cases comes
      exact iff_of_true rfl rfl
  | lint => cases hands
  | strictMode =>
      simp only [lacksTool, hands]
      change onlyBash "bash" script.language = none at hands
      simp only [outcome, parseCheckOutcome, hands] at comes
      cases comes
      exact iff_of_true rfl rfl
  | functionDeps =>
      cases comes
      rw [(isAdvice_functionDeps _ _).1]
      exact iff_of_false (by decide) Bool.false_ne_true
  | variableUsage =>
      cases comes
      rw [(isAdvice_variableUsage _ _).1]
      exact iff_of_false (by decide) Bool.false_ne_true

/-- An analysis that gives a result was skipped exactly if it lacks its tool. -/
theorem skipped_iff_lacksTool (comes : outcome settings (view settings m) script kind = .ok r) :
    r.status = .skipped ↔ lacksTool settings m.toolbox script.language kind := by
  cases hands : handedTo? script.language kind with
  | none => exact skipped_iff_of_not_handed hands m.toolbox comes
  | some tool =>
      rw [lacksTool_of_handedTo? hands]
      rw [outcome_eq_ofKind hands] at comes
      cases made : m.disk.ensureFolders settings.tempDir with
      | error e =>
          rw [ToolCheck.outcome, copyOutcome, view, made] at comes
          cases comes
      | ok disk =>
          have temporary : (view settings m).temporary = .ok () := by rw [view, made]
          cases found : Work.executableOf settings tool m.toolbox with
          | ok executable =>
              refine iff_of_false ?_ Bool.false_ne_true
              exact ToolCheck.status_ne_skipped_of_executable hands temporary found comes
          | error fault =>
              obtain ⟨reason, rfl⟩ := Work.executableOf_eq_error found
              rw [ToolCheck.outcome, copyOutcome, temporary, ScriptCopy.answer,
                tool_ofKind hands, view, found] at comes
              cases comes
              exact iff_of_true rfl rfl

end Session

end ScriptVet
