import ScriptVet.Analysis.Lint
import ScriptVet.Analysis.VariableUsage
import ScriptVet.Analyzer.Parse

/-!
# The built-in analyzers

One analyzer of every kind: two parse checks, the linter, and two that only look at the text.
-/

namespace ScriptVet.Analyzer

/-- The linter's arguments. -/
def lintArguments : List String := ["--format=json1", "--shell=bash"]

/-- A linter that took too long has failed; any other fault stays one. -/
def lintFault (fault : Fault) : Work AnalysisResult :=
  match fault with
  | .toolOverran _ _ => pure (Lint.failure fault.message)
  | fault => throw fault

/-- Gives a script to the linter, whose output is read by a reader that goes so deep. -/
def lintCheck (depth : Nat) (settings : Settings) (script : Script) : Work AnalysisResult := do
  let copy ← ScriptCopy.make settings .lint script.language script.sourceText
  let lintCopy : Work AnalysisResult := do
    let output ← copy.check settings .lint "shellcheck" lintArguments none
    Lint.verdict depth output.stdout output.stderr output.code
  tryCatch lintCopy lintFault

/-- Checks a bash script with the linter, whose output is read by a reader that goes so deep. -/
def lintWithin (depth : Nat) (settings : Settings) : Analyzer where
  kind := .lint
  settings := settings
  basis := .tool (onlyBash "shellcheck")
  check := lintCheck depth settings

/-- Checks a bash script with the linter. -/
def lint (settings : Settings) : Analyzer :=
  lintWithin JsonDialect.usualDepth settings

/-- Tells which functions and commands a script uses and how strict it is. -/
def functionDeps (settings : Settings) : Analyzer where
  kind := .functionDeps
  settings := settings
  basis := .vocabulary settings.commandAllowlist
  check script := pure (FunctionDeps.result settings.commandAllowlist script.sourceText.toList)

/-- Tells which variables a script uses. -/
def variableUsage (settings : Settings) : Analyzer where
  kind := .variableUsage
  settings := settings
  basis := .vocabulary settings.shellVariables
  check script := pure (VariableUsage.result settings.shellVariables script.sourceText.toList)

/-- The built-in analyzer of a kind. -/
def builtin (settings : Settings) : AnalyzerKind → Analyzer
  | .parses => parses settings
  | .lint => lint settings
  | .strictMode => strictMode settings
  | .functionDeps => functionDeps settings
  | .variableUsage => variableUsage settings

@[simp] theorem kind_builtin (settings : Settings) (kind : AnalyzerKind) :
    (builtin settings kind).kind = kind := by
  cases kind <;> rfl

end ScriptVet.Analyzer
