import ScriptVet.Proofs.Analyzer.Outcome
import ScriptVet.Proofs.ResultData

/-!
# What every result is like

Whatever the tools answer, the status of a result and its findings fit together: a result that was
skipped has a reason and no findings, one that failed has a fatal finding, and one that passed has
none. The two analyzers that only look at the text give nothing but advice. All results have
metadata that can be kept in a file.
-/

namespace ScriptVet

namespace AnalysisResult

/-- The status is the one that the findings call for. -/
def StatusFits (r : AnalysisResult) : Prop :=
  match r.status with
  | .skipped => (∃ reason, r.skipReason = some reason) ∧ r.findings = []
  | .fail => ∃ f ∈ r.findings, f.category.isFatal
  | .pass => ¬ ∃ f ∈ r.findings, f.category.isFatal

/-- The result passed, and its findings are advice. -/
def IsAdvice (r : AnalysisResult) : Prop :=
  r.status = .pass ∧ ∀ f ∈ r.findings, f.category = .heuristic

/-- Status and findings are as they have to be for the kind of the result. -/
structure IsSound (r : AnalysisResult) : Prop where
  fits : r.StatusFits
  advises : r.kind = .functionDeps ∨ r.kind = .variableUsage → r.IsAdvice

theorem IsAdvice.statusFits {r : AnalysisResult} (h : r.IsAdvice) : r.StatusFits := by
  rw [StatusFits, h.1]
  rintro ⟨f, hf, fatal⟩
  rw [h.2 f hf] at fatal
  cases fatal

/-- A sound result has failed exactly if one of its findings is fatal. -/
theorem StatusFits.failed_iff {r : AnalysisResult} (h : r.StatusFits) :
    r.failed ↔ ∃ f ∈ r.findings, f.category.isFatal := by
  rw [StatusFits] at h
  cases hs : r.status with
  | skipped =>
      rw [hs] at h
      simp [failed, hs, h.2]
  | fail =>
      rw [hs] at h
      simpa [failed, hs] using h
  | pass =>
      rw [hs] at h
      simpa [failed, hs] using h

theorem statusFits_skipped (kind : AnalyzerKind) (reason : String) :
    (skipped kind reason).StatusFits :=
  ⟨⟨reason, rfl⟩, rfl⟩

theorem statusFits_ofFindings (kind : AnalyzerKind) (findings : List Finding)
    (metadata : List (String × Json)) : (ofFindings kind findings metadata).StatusFits := by
  by_cases fatal : findings.any (·.category.isFatal)
  · have status : (ofFindings kind findings metadata).status = .fail := if_pos fatal
    rw [StatusFits, status]
    exact List.any_eq_true.mp fatal
  · have status : (ofFindings kind findings metadata).status = .pass := if_neg fatal
    rw [StatusFits, status]
    intro h
    exact fatal (List.any_eq_true.mpr h)

theorem isPlain_ofStrings (texts : List String) : (Json.ofStrings texts).IsPlain := by
  induction texts with
  | nil => trivial
  | cons text texts ih => exact ⟨trivial, ih⟩

theorem height_ofStrings (texts : List String) : (Json.ofStrings texts).height ≤ 2 := by
  induction texts with
  | nil => decide
  | cons text texts ih =>
      simp only [Json.ofStrings, Json.height, List.map_cons, Json.itemsHeight] at ih ⊢
      omega

/-- Lists of texts under different names can be kept in a file. -/
theorem isPortable_of_lists {r : AnalysisResult} (lists : List (String × List String))
    (metadata : r.metadata = lists.map fun (name, texts) => (name, Json.ofStrings texts))
    (names : (lists.map Prod.fst).Nodup) : r.IsPortable := by
  have keys : r.metadata.map Prod.fst = lists.map Prod.fst := by
    simp [metadata, Function.comp_def]
  refine ⟨?_, keys ▸ names, ?_⟩
  · rw [metadata]
    clear metadata names keys
    induction lists with
    | nil => trivial
    | cons list lists ih => exact ⟨isPlain_ofStrings list.2, ih⟩
  · rw [metadata]
    have low : Json.fieldsHeight
        (lists.map fun (name, texts) => (name, Json.ofStrings texts)) ≤ 2 := by
      clear metadata names keys
      induction lists with
      | nil => decide
      | cons list lists ih => exact Nat.max_le.mpr ⟨height_ofStrings list.2, ih⟩
    omega

theorem isPortable_of_empty {r : AnalysisResult} (h : r.metadata = []) : r.IsPortable :=
  isPortable_of_lists [] h List.nodup_nil

end AnalysisResult

open AnalysisResult

/-- What holds of every result of an analyzer of a kind. -/
structure AnalyzerKind.Gives (kind : AnalyzerKind) (r : AnalysisResult) : Prop where
  kind : r.kind = kind
  sound : r.IsSound
  portable : r.IsPortable

namespace Analyzer

/-- The analyzer of the kind asks a tool. -/
def AsksTool (kind : AnalyzerKind) : Prop :=
  ¬ (kind = .functionDeps ∨ kind = .variableUsage)

theorem gives_skipped {kind : AnalyzerKind} (h : AsksTool kind) (reason : String) :
    kind.Gives (.skipped kind reason) :=
  ⟨rfl, ⟨statusFits_skipped kind reason, fun textual => absurd textual h⟩, isPortable_of_empty rfl⟩

theorem gives_ofFindings {kind : AnalyzerKind} (h : AsksTool kind) (findings : List Finding)
    {metadata : List (String × Json)} (portable : (ofFindings kind findings metadata).IsPortable) :
    kind.Gives (ofFindings kind findings metadata) :=
  ⟨rfl, ⟨statusFits_ofFindings kind findings metadata, fun textual => absurd textual h⟩, portable⟩

theorem gives_orSkipped {kind : AnalyzerKind} (h : AsksTool kind) {result : Result AnalysisResult}
    (gives : ∀ r, result = .ok r → kind.Gives r) {r : AnalysisResult}
    (outcome : orSkipped kind result = .ok r) : kind.Gives r := by
  cases result with
  | ok r' =>
      cases outcome
      exact gives r rfl
  | error fault =>
      cases fault <;> cases outcome
      exact gives_skipped h _

theorem gives_copyOutcome {settings : Settings} {view : View} {kind : AnalyzerKind} {tool : String}
    {arguments : List String} {checker : Option String} {copy : ScriptCopy}
    {failure : Fault → AnalysisResult} {verdict : Work.Output → Result AnalysisResult}
    (failures : ∀ fault, kind.Gives (failure fault))
    (verdicts : ∀ output r, verdict output = .ok r → kind.Gives r) {r : AnalysisResult}
    (outcome : copyOutcome settings view kind tool arguments checker copy failure verdict = .ok r) :
    kind.Gives r := by
  rw [copyOutcome] at outcome
  obtain ⟨_, -, outcome⟩ := Result.bind_eq_ok.mp outcome
  cases said : (copy.answer settings kind tool arguments checker view.toolbox >>= verdict) with
  | ok r' =>
      rw [said] at outcome
      cases outcome
      obtain ⟨output, -, drawn⟩ := Result.bind_eq_ok.mp said
      exact verdicts output r drawn
  | error fault =>
      rw [said] at outcome
      cases fault <;> cases outcome
      exact failures _

theorem gives_parseVerdict {kind : AnalyzerKind} (h : AsksTool kind)
    {scriptPath scriptFile : String} {linesBefore : Int} {stdout stderr : String} {code : Int}
    {r : AnalysisResult}
    (drawn : ParseCheck.verdict kind scriptPath scriptFile linesBefore stdout stderr code = .ok r) :
    kind.Gives r := by
  rw [ParseCheck.verdict] at drawn
  split at drawn
  · cases drawn
    exact gives_ofFindings h [] (isPortable_of_empty rfl)
  · obtain ⟨place, -, drawn⟩ := Result.bind_eq_ok.mp drawn
    cases drawn
    exact gives_ofFindings h _ (isPortable_of_empty rfl)

theorem gives_lintVerdict {depth : Nat} {stdout stderr : String} {code : Int} {r : AnalysisResult}
    (drawn : Lint.verdict depth stdout stderr code = .ok r) : AnalyzerKind.lint.Gives r := by
  have asks : AsksTool .lint := by simp [AsksTool]
  have failed : AnalyzerKind.lint.Gives (Lint.failureOf stderr code) :=
    gives_ofFindings asks _ (isPortable_of_empty rfl)
  rw [Lint.verdict] at drawn
  obtain ⟨comments?, -, drawn⟩ := Result.bind_eq_ok.mp drawn
  cases comments? with
  | none =>
      cases drawn
      exact failed
  | some comments =>
      simp only at drawn
      split at drawn
      · cases drawn
        exact failed
      · obtain ⟨findings, -, drawn⟩ := Result.bind_eq_ok.mp drawn
        cases drawn
        exact gives_ofFindings asks findings
          (isPortable_of_lists [("levels", Lint.levels comments)] rfl (by simp))

theorem gives_parseCheckOutcome {prologue : String} {settings : Settings} {view : View}
    {kind : AnalyzerKind} (h : AsksTool kind) {toolFor : Language → Option String} {script : Script}
    {r : AnalysisResult}
    (outcome : parseCheckOutcome prologue settings view kind toolFor script = .ok r) :
    kind.Gives r := by
  rw [parseCheckOutcome] at outcome
  cases tool : toolFor script.language with
  | none =>
      rw [tool] at outcome
      cases outcome
      exact gives_skipped h _
  | some tool =>
      rw [tool] at outcome
      exact gives_copyOutcome (fun fault => gives_ofFindings h _ (isPortable_of_empty rfl))
        (fun _ _ drawn => gives_parseVerdict h drawn) outcome

theorem isAdvice_functionDeps (allowed : List String) (text : List Char) :
    (FunctionDeps.result allowed text).IsAdvice := by
  refine ⟨rfl, fun f hf => ?_⟩
  simp only [FunctionDeps.result, FunctionDeps.strictnessFindings, FunctionDeps.unsetFindings,
    FunctionDeps.errorFindings, FunctionDeps.pipelineFindings, List.mem_append] at hf
  rcases hf with (hf | hf) | hf
  · split at hf
    · split at hf
      · cases hf
      · rw [List.mem_singleton.mp hf, FunctionDeps.advice]
    · cases hf
  · split at hf
    · cases hf
    · rw [List.mem_singleton.mp hf, FunctionDeps.advice]
  · split at hf
    · split at hf
      · cases hf
      · rw [List.mem_singleton.mp hf, FunctionDeps.advice]
    · cases hf

theorem isAdvice_variableUsage (ignored : List String) (text : List Char) :
    (VariableUsage.result ignored text).IsAdvice := by
  refine ⟨rfl, fun f hf => ?_⟩
  obtain ⟨loose, -, rfl⟩ := List.mem_map.mp hf
  rfl

/-- Every outcome of an analysis is a sound result of the kind. -/
theorem gives_of_outcome {settings : Settings} {view : View} {script : Script}
    {kind : AnalyzerKind} {r : AnalysisResult} (h : outcome settings view script kind = .ok r) :
    kind.Gives r := by
  cases kind with
  | parses =>
      have asks : AsksTool .parses := by simp [AsksTool]
      exact gives_orSkipped asks (fun _ => gives_parseCheckOutcome asks) h
  | lint =>
      have asks : AsksTool .lint := by simp [AsksTool]
      have failures (fault : Fault) : AnalyzerKind.lint.Gives (Lint.failure fault.message) :=
        gives_ofFindings asks _ (isPortable_of_empty rfl)
      exact gives_orSkipped asks
        (fun _ => gives_copyOutcome failures fun _ _ => gives_lintVerdict) h
  | strictMode =>
      have asks : AsksTool .strictMode := by simp [AsksTool]
      exact gives_orSkipped asks (fun _ => gives_parseCheckOutcome asks) h
  | functionDeps =>
      cases h
      have advice := isAdvice_functionDeps settings.commandAllowlist script.sourceText.toList
      refine ⟨rfl, ⟨advice.statusFits, fun _ => advice⟩, ?_⟩
      exact isPortable_of_lists
        [("functions", Shell.functionNames script.sourceText.toList),
          ("commands", Shell.commandsAmong settings.commandAllowlist script.sourceText.toList)]
        rfl (by simp)
  | variableUsage =>
      cases h
      have advice := isAdvice_variableUsage settings.shellVariables script.sourceText.toList
      refine ⟨rfl, ⟨advice.statusFits, fun _ => advice⟩, ?_⟩
      exact isPortable_of_lists
        [("assignments", Shell.assignedNames script.sourceText.toList),
          ("references", (Shell.references script.sourceText.toList).map (·.1)),
          ("unguarded",
            (Shell.unguarded settings.shellVariables script.sourceText.toList).map (·.1))]
        rfl (by simp)

end Analyzer

end ScriptVet
