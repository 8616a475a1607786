import ScriptVet.Analyzer.Basic
import ScriptVet.Text.Search

/-!
# Canned analyzers

An analyzer whose answer is fixed beforehand, to be put in the place of another one. It looks at the
script only to see whether the script holds a given part, and it lets the others take a turn before
it answers.
-/

namespace ScriptVet

/-- What a canned analyzer answers. -/
inductive CannedAnswer where
  /-- A tool is missing. -/
  | unavailable (tool reason : String)
  /-- It breaks down. -/
  | broken (message : String)
  /-- Findings for every script that holds a part, and none for others. -/
  | findings (part : String) (fixed : List Finding) (metadata : List (String × Json))
  deriving Repr, BEq

namespace CannedAnswer

/-- The answer for a script. -/
def answerFor (answer : CannedAnswer) (kind : AnalyzerKind) (script : Script) :
    Work AnalysisResult :=
  match answer with
  | .unavailable tool reason => throw (.toolUnavailable tool reason)
  | .broken message => throw (.analyzerBroke message)
  | .findings part fixed metadata =>
    if Text.occursIn part.toList script.sourceText.toList then
      pure (.ofFindings kind fixed metadata)
    else pure (.ofFindings kind [] [])

/-- Answers after a turn of the others. -/
def toWork (answer : CannedAnswer) (kind : AnalyzerKind) (script : Script) :
    Work AnalysisResult := do
  Activity.pause .idle
  answer.answerFor kind script

end CannedAnswer

/-- An analyzer with a fixed answer. -/
def Analyzer.canned (settings : Settings) (kind : AnalyzerKind) (answer : CannedAnswer) :
    Analyzer where
  kind := kind
  settings := settings
  basis := .nothing
  check := answer.toWork kind

end ScriptVet
