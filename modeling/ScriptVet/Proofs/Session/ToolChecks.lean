import ScriptVet.Proofs.Session.Analyze

/-!
# Checks that a tool makes

The parse checks and the linter all hand a copy of the script to a tool and make something of what
it answers. They differ in the text that they hand over, in the arguments, and in what they make of
an answer. What they come to is one function of these, of the settings and of what is seen of the
machine.
-/

namespace ScriptVet

/-- Only a tool that is not to be had has no executable. -/
theorem Work.executableOf_eq_error {settings : Settings} {tool : String} {toolbox : Toolbox}
    {fault : Fault} (failed : executableOf settings tool toolbox = .error fault) :
    ∃ reason, fault = .toolUnavailable tool reason := by
  rw [executableOf] at failed
  split at failed
  · exact ⟨_, (Except.error.inj failed).symm⟩
  · split at failed
    · exact ⟨_, (Except.error.inj failed).symm⟩
    · cases failed

namespace Session

open Analyzer

/-- How a copy of a script is handed to a tool, and what is made of the answer. -/
structure ToolCheck where
  kind : AnalyzerKind
  tool : String
  arguments : List String
  checker : Option String
  copy : ScriptCopy
  /-- The result when the tool took too long. -/
  failure : Fault → AnalysisResult
  /-- The result when the tool has ended. -/
  verdict : Work.Output → Result AnalysisResult

namespace ToolCheck

/-- What comes of a check. -/
def outcome (check : ToolCheck) (settings : Settings) (view : View) : Result AnalysisResult :=
  orSkipped check.kind (copyOutcome settings view check.kind check.tool check.arguments
    check.checker check.copy check.failure check.verdict)

/-- Handing a script to the linter, by a copy below a folder. -/
def lint (settings : Settings) (mark : String) (script : Script) : ToolCheck where
  kind := .lint
  tool := "shellcheck"
  arguments := lintArguments
  checker := none
  copy := .of settings mark .lint script.language script.sourceText
  failure fault := Lint.failure fault.message
  verdict output := Lint.verdict JsonDialect.usualDepth output.stdout output.stderr output.code

/-- Handing a script behind a prologue to a parser. -/
def parse (prologue : String) (settings : Settings) (mark : String) (kind : AnalyzerKind)
    (tool : String) (script : Script) : ToolCheck :=
  let copy : ScriptCopy := .of settings mark kind script.language (prologue ++ script.sourceText)
  { kind, tool, copy
    arguments := (parseArguments script.language copy.folder).1
    checker := (parseArguments script.language copy.folder).2
    failure := fun fault => .ofFindings kind [ParseCheck.finding fault.message none] []
    verdict := fun output =>
      ParseCheck.verdict kind copy.path.toString copy.fileName (Text.lineFeeds prologue.toList)
        output.stdout output.stderr output.code }

/-- The command of a check. -/
def command (check : ToolCheck) (settings : Settings) (executable : String) : Command :=
  check.copy.command settings check.kind check.tool check.arguments check.checker executable

/-- How an analyzer of a kind hands a script to its tool. -/
def ofKind (settings : Settings) (mark : String) (script : Script) (kind : AnalyzerKind)
    (tool : String) : ToolCheck :=
  match kind with
  | .lint => lint settings mark script
  | .strictMode => parse strictPrologue settings mark .strictMode tool script
  | kind => parse "" settings mark kind tool script

/-- What a check comes to whose tool there is. -/
theorem outcome_of_executable (check : ToolCheck) {settings : Settings} {tool : String}
    (is : check.tool = tool) {view : View} {executable : String}
    (temporary : view.temporary = .ok ())
    (there : Work.executableOf settings tool view.toolbox = .ok executable) :
    check.outcome settings view = orSkipped check.kind (orFailed check.failure
      (Work.answer view.toolbox (check.command settings executable)
        (settings.tool tool).timeout >>= check.verdict)) := by
  subst is
  rw [outcome, copyOutcome, temporary, Result.ok_bind, ScriptCopy.answer, there, Result.ok_bind]
  rfl

end ToolCheck

/-- The tool that an analyzer of a kind hands scripts in a language to. The linter gets scripts in
any language. -/
def handedTo? (language : Language) : AnalyzerKind → Option String
  | .parses => language.interpreter?
  | .lint => some "shellcheck"
  | .strictMode => onlyBash "bash" language
  | .functionDeps | .variableUsage => none

section

variable {settings : Settings} {script : Script} {kind : AnalyzerKind} {tool : String}

theorem eq_of_onlyBash {name : String} {language : Language}
    (asks : onlyBash name language = some tool) : tool = name := by
  rw [onlyBash] at asks
  split at asks
  · exact (Option.some.inj asks).symm
  · cases asks

/-- Which tool is asked does not depend on the settings. -/
theorem toolOf?_congr (settings settings' : Settings) (script : Script) (kind : AnalyzerKind) :
    toolOf? settings script kind = toolOf? settings' script kind := by
  cases kind <;> rfl

/-- The tools that are asked for have names without colons. -/
theorem colon_notMem_of_toolOf? (asks : toolOf? settings script kind = some tool) :
    ':' ∉ tool.toList := by
  rw [toolOf?] at asks
  cases kind with
  | parses =>
      change script.language.interpreter? = some tool at asks
      cases language : script.language <;> rw [language] at asks <;> cases asks <;> decide
  | lint =>
      rw [eq_of_onlyBash asks]
      decide
  | strictMode =>
      rw [eq_of_onlyBash asks]
      decide
  | functionDeps => cases asks
  | variableUsage => cases asks

/-- A tool that is asked for its version is also handed the script. -/
theorem handedTo?_of_toolOf? (asks : toolOf? settings script kind = some tool) :
    handedTo? script.language kind = some tool := by
  rw [toolOf?] at asks
  cases kind with
  | lint => exact congrArg some (eq_of_onlyBash asks).symm
  | _ => exact asks

/-- An analysis that hands the script to a tool comes to what its check comes to. -/
theorem outcome_eq_ofKind (hands : handedTo? script.language kind = some tool) (view : View) :
    outcome settings view script kind =
      (ToolCheck.ofKind settings view.mark script kind tool).outcome settings view := by
  have parses (prologue : String) (kind : AnalyzerKind) (toolFor : Language → Option String)
      (hands : toolFor script.language = some tool) :
      orSkipped kind (parseCheckOutcome prologue settings view kind toolFor script) =
        (ToolCheck.parse prologue settings view.mark kind tool script).outcome settings view := by
    rw [parseCheckOutcome, hands]
    rfl
  cases kind with
  | parses => exact parses "" .parses Language.interpreter? hands
  | lint => rfl
  | strictMode => exact parses strictPrologue .strictMode (onlyBash "bash") hands
  | functionDeps => cases hands
  | variableUsage => cases hands

/-- An analysis that hands the script to no tool does not look at the machine. -/
theorem outcome_congr_of_handedTo? (hands : handedTo? script.language kind = none)
    (view view' : View) :
    outcome settings view script kind = outcome settings view' script kind := by
  cases kind with
  | parses =>
      change script.language.interpreter? = none at hands
      simp only [outcome, parseCheckOutcome, hands]
  | lint => cases hands
  | strictMode =>
      change onlyBash "bash" script.language = none at hands
      simp only [outcome, parseCheckOutcome, hands]
  | functionDeps => rfl
  | variableUsage => rfl

theorem kind_ofKind (settings : Settings) (mark : String) (script : Script) (kind : AnalyzerKind)
    (tool : String) : (ToolCheck.ofKind settings mark script kind tool).kind = kind := by
  cases kind <;> rfl

theorem tool_ofKind (hands : handedTo? script.language kind = some tool) (settings' : Settings)
    (mark : String) : (ToolCheck.ofKind settings' mark script kind tool).tool = tool := by
  cases kind with
  | lint => exact Option.some.inj hands
  | _ => rfl

/-- Where its tool is missing, the only result of an analysis is that it was skipped. -/
theorem eq_skipped_of_missing (asks : toolOf? settings script kind = some tool) {m : Machine}
    {reason : String}
    (missing : Work.executableOf settings tool m.toolbox = .error (.toolUnavailable tool reason))
    {r : AnalysisResult} (comes : outcome settings (view settings m) script kind = .ok r) :
    r = .skipped kind s!"{reason}: {tool}" := by
  have hands := handedTo?_of_toolOf? asks
  rw [outcome_eq_ofKind hands, ToolCheck.outcome, copyOutcome, ScriptCopy.answer,
    tool_ofKind hands, kind_ofKind, view, missing] at comes
  cases made : m.disk.ensureFolders settings.tempDir with
  | error e =>
      rw [made] at comes
      cases comes
  | ok disk =>
      rw [made] at comes
      exact (Except.ok.inj comes).symm

/-- A result that was not skipped was made with the tool. -/
theorem exists_executable_of_made (asks : toolOf? settings script kind = some tool) {m : Machine}
    {r : AnalysisResult} (comes : outcome settings (view settings m) script kind = .ok r)
    (made : r.status ≠ .skipped) :
    ∃ executable, Work.executableOf settings tool m.toolbox = .ok executable := by
  cases found : Work.executableOf settings tool m.toolbox with
  | ok executable => exact ⟨executable, rfl⟩
  | error fault =>
      obtain ⟨reason, rfl⟩ := Work.executableOf_eq_error found
      rw [eq_skipped_of_missing asks found comes] at made
      exact absurd rfl made

end

end Session

end ScriptVet
