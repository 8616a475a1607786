import ScriptVet.AnalysisResult
import ScriptVet.Shell.Functions
import ScriptVet.Shell.Strictness

/-!
# Functions, commands and strictness

What a bash script defines and calls, and advice where it does not ask the shell to be strict. The
analysis always passes.
-/

namespace ScriptVet.FunctionDeps

open Shell

/-- Advice on a line, or on the whole script. -/
def advice (message : String) (line? : Option Nat) : Finding :=
  { category := .heuristic, message,
    location := line?.bind fun line => if h : 0 < line then some { line := ⟨line, h⟩ } else none }

/-- The first line on which a variable is used. -/
def firstReferenceLine? (text : List Char) : Option Nat :=
  ([bracedReference, plainReference].filterMap (firstLine? · text)).min?

/-- Variables are used, but those without a value are no errors. -/
def unsetFindings (text : List Char) : List Finding :=
  match firstReferenceLine? text with
  | some line =>
    if hasOption .nounset text then []
    else [advice "Variables used without 'set -u' protection" line]
  | none => []

/-- Nothing is done about commands that fail. -/
def errorFindings (text : List Char) : List Finding :=
  if hasOption .errexit text || hasErrorTrap text then []
  else [advice "No explicit error handling detected" none]

/-- There are pipelines, but of their commands only the last may not fail. -/
def pipelineFindings (text : List Char) : List Finding :=
  match firstLine? pipe text with
  | some line =>
    if hasOption .pipefail text then [] else [advice "Pipelines used without pipefail" line]
  | none => []

/-- The advice on strictness. -/
def strictnessFindings (text : List Char) : List Finding :=
  unsetFindings text ++ errorFindings text ++ pipelineFindings text

/-- The result for a text; `allowed` are the commands that are reported. -/
def result (allowed : List String) (text : List Char) : AnalysisResult :=
  { kind := .functionDeps, status := .pass, findings := strictnessFindings text,
    metadata := [("functions", Json.ofStrings (functionNames text)),
      ("commands", Json.ofStrings (commandsAmong allowed text))] }

end ScriptVet.FunctionDeps
