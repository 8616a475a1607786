import ScriptVet.CommandLine.Command
import ScriptVet.Console.Display
import ScriptVet.Gate
import ScriptVet.Manifest
import ScriptVet.Session.Build

/-!
# Building the scripts of a manifest

The command `build` reports on all scripts of a manifest and writes their files. It may write the
reports to a file as well, and it may run the tests on what was written. All went well if the
reports go through the gate and every test that was run passes.
-/

namespace ScriptVet.CommandLine

/-- An option of the command. -/
inductive BuildOption where
  | outputDir (path : String)
  | report (path : String)
  | runTests (run : Bool)
  | help
  deriving Repr, DecidableEq

namespace BuildOption

def table : OptionTable BuildOption := [
  ("--output-dir", .text outputDir), ("-o", .text outputDir), ("--report", .text report),
  ("--run-tests", .switch (runTests true)), ("--no-run-tests", .switch (runTests false)),
  ("--help", .switch help)]

def outputDir? : BuildOption → Option String
  | outputDir path => some path
  | _ => none

def report? : BuildOption → Option String
  | report path => some path
  | _ => none

def path? : BuildOption → Option String
  | outputDir path | report path => some path
  | _ => none

def runTests? : BuildOption → Option Bool
  | runTests run => some run
  | _ => none

end BuildOption

/-- What the command is to do. -/
structure BuildRequest where
  manifest : Path
  outputDir : Option Path
  reportFile : Option Path
  runTests : Bool
  deriving Repr, DecidableEq

namespace BuildRequest

/-- The folder and the file that options name. The option that is given first is looked at first. -/
def pathsOfOptions (arguments : Arguments BuildOption) : Command (Option Path × Option Path) := do
  let folder := (arguments.last? BuildOption.outputDir?).mapM Command.folderPath
  let file := (arguments.last? BuildOption.report?).mapM Command.filePath
  match arguments.options.find? (·.path?.isSome) with
  | some (.report _) => do
    let file ← file
    return (← folder, file)
  | _ => return (← folder, ← file)

/-- The request that arguments make. Options are looked at before words. -/
def ofArguments (arguments : Arguments BuildOption) : Command BuildRequest := do
  let (outputDir, reportFile) ← pathsOfOptions arguments
  let manifest ← Command.existingFile (← Command.usage (arguments.firstWord "MANIFEST"))
  Command.usage (arguments.atMost 1)
  return {
    manifest
    outputDir
    reportFile
    runTests := (arguments.last? BuildOption.runTests?).getD false }

/-- The settings for the request. -/
def adjust (request : BuildRequest) (settings : Settings) : Settings :=
  { settings with buildDir := request.outputDir.getD settings.buildDir }

/-- Builds the scripts of the manifest. -/
def outputs (request : BuildRequest) (settings : Settings) : Work (List BuildOutput) := do
  let descriptors ← Manifest.load (← get).disk request.manifest
  Session.within (request.adjust settings)
    (Session.buildAll descriptors (some request.manifest.parent))

end BuildRequest

/-- A report and where the script was built. -/
def showOutput (output : BuildOutput) : Result String := do
  let report ← Console.showReport output.report
  let path := styled "cyan" output.artifact.path.toString
  let artifact ← Console.Markup.print ("  artifact: " ++ path)
  return report ++ artifact

/-- The reports on all scripts as JSON. -/
def reportsText (outputs : List BuildOutput) : String :=
  Json.render .indentedAscii (.arr (outputs.map (·.report.toJson)))

/-- Writes the reports to a file and says so. -/
def saveReports (outputs : List BuildOutput) (file : Path) : Work String := do
  Work.onDisk (·.write file (Text.Utf8.encodeString (reportsText outputs)))
  Console.Markup.print ("\n" ++ styled "green" "✓" ++ s!" Report saved to: {file}")

/-- The tests of all scripts. -/
def testsOf (outputs : List BuildOutput) : TestMap :=
  TestMap.collect (outputs.map (·.tests))

/-- Builds the scripts of a manifest. -/
def build (request : BuildRequest) (settings : Settings) : Command Outcome := do
  let outputs ← Command.refusing (request.outputs settings)
  Command.breaking do
    let gate : Gate := ⟨outputs.map (·.report)⟩
    let shown ← outputs.mapM fun output => (showOutput output : Work String)
    let saved ← request.reportFile.mapM (saveReports outputs)
    let verdicts ← if request.runTests then some <$> (testsOf outputs).run else pure none
    let tested ← verdicts.mapM fun verdicts => (Console.showVerdicts verdicts : Work String)
    let summary ← Console.Markup.print gate.summary
    let stdout := String.join shown ++ saved.getD "" ++ tested.getD "" ++ "\n" ++ summary
    return .finished stdout (gate.passed && (verdicts.getD []).all (·.2 == .pass))

end ScriptVet.CommandLine
