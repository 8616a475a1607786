import ScriptVet.Analysis.ParseCheck
import ScriptVet.Analyzer.Basic
import ScriptVet.Analyzer.ScriptCopy

/-!
# Parse checks

Each language has an interpreter that can parse a script without running it. A bash script can also
be parsed in strict mode, behind lines that switch it on.
-/

namespace ScriptVet.Analyzer

/-- The checker that PowerShell runs: it prints one line for every error. -/
def powershellChecker : String :=
  Text.phrase [
    "param([string]$Path)\n",
    "$tokens = $null\n",
    "$errors = $null\n",
    "[System.Management.Automation.Language.Parser]::ParseFile",
    "($Path, [ref]$tokens, [ref]$errors) | Out-Null\n",
    "if ($errors.Count -gt 0) \x7b\n",
    "    foreach ($e in $errors) \x7b\n",
    "        \"line $($e.Extent.StartLineNumber), column $($e.Extent.StartColumnNumber): ",
    "$($e.Message)\"\n",
    "    \x7d\n",
    "    exit 1\n",
    "\x7d\n"]

/-- The lines that switch strict mode on. -/
def strictPrologue : String :=
  "#!/usr/bin/env bash\nset -euo pipefail\n\n"

/-- The arguments that make an interpreter parse only, and the checker that it needs. -/
def parseArguments (language : Language) (folder : Path) : List String × Option String :=
  match language with
  | .python3 => (["-m", "py_compile"], none)
  | .powershell =>
    (["-NoProfile", "-NonInteractive", "-File", (folder.child "parse-check.ps1").toString],
      some powershellChecker)
  | .bash | .other => (["-n"], none)

/-- A parse that took too long has failed; any other fault stays one. -/
def parseFault (kind : AnalyzerKind) (fault : Fault) : Work AnalysisResult :=
  match fault with
  | .toolOverran _ _ => pure (.ofFindings kind [ParseCheck.finding fault.message none] [])
  | fault => throw fault

/-- Parses a script behind a prologue. -/
def parseBehind (prologue : String) (settings : Settings) (kind : AnalyzerKind) (tool : String)
    (script : Script) : Work AnalysisResult := do
  let copy ← ScriptCopy.make settings kind script.language (prologue ++ script.sourceText)
  let (arguments, checker) := parseArguments script.language copy.folder
  let parse : Work AnalysisResult := do
    let output ← copy.check settings kind tool arguments checker
    ParseCheck.verdict kind copy.path.toString copy.fileName (Text.lineFeeds prologue.toList)
      output.stdout output.stderr output.code
  tryCatch parse (parseFault kind)

/-- The check of a script, which is skipped if nothing parses its language. -/
def parseCheck (prologue : String) (settings : Settings) (kind : AnalyzerKind)
    (toolFor : Language → Option String) (script : Script) : Work AnalysisResult :=
  match toolFor script.language with
  | some tool => parseBehind prologue settings kind tool script
  | none => do
    let reason := s!"no syntax checker for language '{script.displayLanguage}'"
    Work.note .warning s!"Skipping syntax analysis of {script.name}: {reason}"
    pure (.skipped kind reason)

/-- Checks that a script parses. -/
def parses (settings : Settings) : Analyzer where
  kind := .parses
  settings := settings
  basis := .tool Language.interpreter?
  check := parseCheck "" settings .parses Language.interpreter?

/-- The tool for bash scripts, and none for others. -/
def onlyBash (tool : String) (language : Language) : Option String :=
  if language = .bash then some tool else none

/-- Checks that a bash script parses in strict mode. -/
def strictMode (settings : Settings) : Analyzer where
  kind := .strictMode
  settings := settings
  basis := .tool (onlyBash "bash")
  check := parseCheck strictPrologue settings .strictMode (onlyBash "bash")

end ScriptVet.Analyzer
