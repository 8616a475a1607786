import ScriptVet.AnalysisResult
import ScriptVet.Shell.Words
import ScriptVet.Tools.Machine

/-!
# Analyzers

An analyzer checks a script. What it needs besides the script decides when it is available and what
belongs to its version, which is part of the key under which its results are kept.
-/

namespace ScriptVet

/-- What the answers of an analyzer depend on, besides the script. -/
inductive Basis where
  | nothing
  /-- A list of words. -/
  | vocabulary (words : List String)
  /-- The tool for the language of the script, if there is one. -/
  | tool (toolFor : Language → Option String)

structure Analyzer where
  kind : AnalyzerKind
  /-- Changes when the analyzer does. -/
  version : String := "1"
  settings : Settings
  basis : Basis
  check : Script → Work AnalysisResult

namespace Analyzer

/-- Everything that the analyzer needs for a language is there. -/
def isAvailable (analyzer : Analyzer) (toolbox : Toolbox) (language : Language) : Bool :=
  match analyzer.basis with
  | .nothing | .vocabulary _ => true
  | .tool toolFor =>
    (toolFor language).any fun tool =>
      (Work.executableOf analyzer.settings tool toolbox).toOption.isSome

/-- The version of the analyzer itself. -/
def ownVersion (analyzer : Analyzer) : String :=
  s!"{analyzer.kind.word}/{analyzer.version}"

/-- The version for a script: with the words that the analyzer looks for, or the version of the
tool that it uses. -/
def fullVersion (analyzer : Analyzer) (script : Script) : Work String :=
  match analyzer.basis with
  | .nothing => pure analyzer.ownVersion
  | .vocabulary words =>
    pure (analyzer.ownVersion ++ "+" ++ ",".intercalate (Shell.sortedSet words))
  | .tool toolFor =>
    match toolFor script.language with
    | none => pure analyzer.ownVersion
    | some tool => do
      let version ← Work.toolVersion analyzer.settings analyzer.kind tool
      pure s!"{analyzer.ownVersion}+{tool}:{version}"

/-- The result in place of one that a fault prevented: a missing tool makes the analysis skipped. -/
def recover (analyzer : Analyzer) (script : Script) (fault : Fault) : Work AnalysisResult :=
  match fault with
  | .toolUnavailable tool reason => do
    let why := s!"{reason}: {tool}"
    Work.note .warning s!"Skipping {analyzer.kind.word} analysis of {script.name}: {why}"
    pure (.skipped analyzer.kind why)
  | fault => throw fault

/-- Analyzes a script. -/
def analyze (analyzer : Analyzer) (script : Script) : Work AnalysisResult := do
  modify fun m => { m with analyses := m.analyses ++ [(analyzer.kind, script)] }
  tryCatch (analyzer.check script) (analyzer.recover script)

end Analyzer

end ScriptVet
