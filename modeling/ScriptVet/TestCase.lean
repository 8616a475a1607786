import ScriptVet.Analyzer.Basic
import ScriptVet.Builder
import ScriptVet.Report

/-!
# Tests of artifacts

Beside its report a script gets tests that can be run again on what was built: one for every
analysis in the report, and whatever tests the caller adds. A test reads the built file anew and
asks the analyzer itself, not the cache.
-/

namespace ScriptVet

/-- A test that a caller adds. -/
inductive ExtraTest where
  /-- Its outcome is given by a word. -/
  | answers (word : String)
  /-- It passes if the built file holds a part. -/
  | contains (part : String)
  deriving Repr, DecidableEq

/-- What a test does. -/
inductive TestCheck where
  | analyzes (analyzer : Analyzer)
  | extra (test : ExtraTest)

structure TestCase where
  id : String
  artifact : Artifact
  check : TestCheck

namespace TestCase

/-- The name of a test among the tests of all scripts. -/
def idFor (scriptName testName : String) : String :=
  s!"script-{scriptName}-{testName}"

/-- The kind of analyzer that a test asks. -/
def kind? (test : TestCase) : Option AnalyzerKind :=
  match test.check with
  | .analyzes analyzer => some analyzer.kind
  | .extra _ => none

/-- The built file as a script. -/
def script (test : TestCase) : Work Script := do
  test.artifact.toScript (← get).disk

/-- Writes to the log why a result does not simply pass. -/
def noteResult (test : TestCase) (kind : AnalyzerKind) (r : AnalysisResult) : Work Unit := do
  let name := test.artifact.name
  if r.status = .skipped then
    let reason := r.skipReason.getD "None"
    Work.note .warning s!"{name}: {kind.word} skipped ({reason}), counting as pass"
  if r.failed then
    r.findings.forM fun finding => Work.note .error (name ++ ": " ++ finding.format)

/-- Runs a test that asks an analyzer. A skipped analysis passes. -/
def runAnalyzer (test : TestCase) (analyzer : Analyzer) : Work Verdict := do
  let r ← analyzer.analyze (← test.script)
  test.noteResult analyzer.kind r
  pure (.ofFailed r.failed)

/-- Runs a test of the caller. -/
def runExtra (test : TestCase) (extra : ExtraTest) : Work Verdict := do
  match extra with
  | .answers word =>
    match Verdict.words.lookup word with
    | some verdict => pure verdict
    | none => throw (.unknownWord (Text.quoted word) "TestOutcome")
  | .contains part => do
    let text ← test.artifact.readText (← get).disk
    pure (.ofFailed !(Text.occursIn part.toList text.toList))

/-- Runs a test. -/
def run (test : TestCase) : Work Verdict :=
  match test.check with
  | .analyzes analyzer => test.runAnalyzer analyzer
  | .extra extra => test.runExtra extra

end TestCase

/-- Tests by their names, in the order in which the names first came up. -/
abbrev TestMap := List (String × TestCase)

namespace TestMap

/-- The kinds of analyzers to test: those in the report that are switched on, and always the parse
check. -/
def kinds (report : Report) (selection : Selection) : List AnalyzerKind :=
  let reported := (report.results.map (·.kind)).filter selection.isEnabled
  if reported.contains .parses then reported else .parses :: reported

/-- The analyzer of a kind. -/
def analyzerOf (analyzers : List Analyzer) (kind : AnalyzerKind) : Result Analyzer :=
  match analyzers.find? (·.kind == kind) with
  | some analyzer => .ok analyzer
  | none => .error (.missingAnalyzer kind.word)

/-- Puts a test of an artifact. -/
def put (artifact : Artifact) (name : String) (check : TestCheck) (tests : TestMap) : TestMap :=
  let id := TestCase.idFor artifact.name name
  Keyed.put id ⟨id, artifact, check⟩ tests

/-- The tests of a script. A test of the caller takes the place of one with the same name. -/
def generate (analyzers : List Analyzer) (report : Report) (artifact : Artifact)
    (selection : Selection) (extras : List (String × ExtraTest)) : Result TestMap := do
  let asked ← (kinds report selection).mapM (analyzerOf analyzers)
  let tests := asked.foldl
    (fun tests analyzer => put artifact analyzer.kind.word (.analyzes analyzer) tests) []
  return extras.foldl (fun tests (name, extra) => put artifact name (.extra extra) tests) tests

/-- Runs tests in the order of their names. -/
def run (tests : TestMap) : Work (List (String × Verdict)) :=
  (tests.mergeSort fun a b => a.1 ≤ b.1).mapM fun (id, test) => do
    return (id, ← test.run)

/-- The tests of several scripts as one map. -/
def collect (maps : List TestMap) : TestMap :=
  maps.foldl Keyed.merge []

end TestMap

end ScriptVet
