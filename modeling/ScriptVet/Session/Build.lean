import ScriptVet.Session.Basic
import ScriptVet.TestCase

/-!
# Building scripts in a session

To build a described script is to report on it, to write its files and to make its tests. The files
are written even if the report fails, so that what failed can be tried again on them. Scripts that
are built together must have different names. They are built side by side and come to the same as in
order, as long as different scripts have different keys, and the cache, the build folder and the one
for temporary folders do not get in each other's way. Where two scripts share a key, one may be
given the result of the other, and with several workers it depends on the turns which one: such
scripts are described as with one worker.
-/

namespace ScriptVet

/-- What the build of one script gives. -/
structure BuildOutput where
  artifact : Artifact
  report : Report
  tests : TestMap

namespace BuildOutput

def passed (output : BuildOutput) : Bool :=
  output.report.passed

end BuildOutput

namespace Session

/-- Writes the files of a script. -/
def writeArtifact (script : Script) : SessionWork Artifact := do
  let s ← get
  let (written, disk) := Builder.build s.settings s.machine.toolbox script s.machine.disk
  modify fun s => { s with machine := { s.machine with disk } }
  match written with
  | .ok artifact => pure artifact
  | .error fault => throw fault

/-- Writes the files of a script and makes its tests. -/
def finish (script : Script) (selection : Selection) (extras : List (String × ExtraTest))
    (report : Report) : SessionWork BuildOutput := do
  let artifact ← writeArtifact script
  let tests ← TestMap.generate (← get).analyzers report artifact selection extras
  pure ⟨artifact, report, tests⟩

/-- Builds a script that has been loaded, its analyses one after another. -/
def buildInOrder (script : Script) (selection : Selection) (extras : List (String × ExtraTest)) :
    SessionWork BuildOutput := do
  let report ← runInOrder script selection true
  finish script selection extras report

/-- The job of building a script. -/
def buildJob (loaded : Result Script) (selection : Selection) (extras : List (String × ExtraTest)) :
    Job Session AnalysisResult where
  split _ := loaded.map fun script => analyses script selection true
  finish results := do
    let script ← loaded
    let _ ← finish script selection extras (← report script results)

/-- Loads the script that a descriptor describes. -/
def load (descriptor : Descriptor) (base? : Option Path) : SessionWork Script := do
  descriptor.toScript (← get).machine.disk base?

/-- Builds the described script. -/
def build (descriptor : Descriptor) (extras : List (String × ExtraTest)) (base? : Option Path) :
    SessionWork BuildOutput := do
  let script ← load descriptor base?
  settle (buildInOrder script descriptor.selection extras)
    (buildJob (.ok script) descriptor.selection extras)

/-- The first name that occurs again. -/
def repeatedName? : List String → List String → Option String
  | _, [] => none
  | seen, name :: rest =>
    if seen.contains name then some name else repeatedName? (name :: seen) rest

/-- Builds scripts of several one after another. -/
def buildAllInOrder (loaded : List (Descriptor × Result Script)) :
    SessionWork (List BuildOutput) :=
  loaded.mapM fun (descriptor, script) => do
    buildInOrder (← script) descriptor.selection []

/-- The jobs of building scripts. -/
def buildJobs (loaded : List (Descriptor × Result Script)) :
    List (Job Session AnalysisResult) :=
  loaded.map fun (descriptor, script) => buildJob script descriptor.selection []

/-- The analyses begun by the time that the scripts are built side by side. Scripts with the same
content may all be analyzed then, where in order only the first one is. -/
def analysesBegun (loaded : List (Descriptor × Result Script)) (s : Session) :
    List (AnalyzerKind × Script) :=
  (Turns.outcome (buildJobs loaded) false s.settings.maxWorkers.val s).2.machine.analyses

/-- Builds all described scripts. They are all loaded before anything is written. If no fault comes
up in order, what the builds give and leave behind is what they do in order, apart from the analyses
that are begun. -/
def buildAll (descriptors : List Descriptor) (base? : Option Path) :
    SessionWork (List BuildOutput) := do
  if let some name := repeatedName? [] (descriptors.map (·.name)) then throw (.duplicateName name)
  let before ← get
  let loaded := descriptors.map fun d => (d, d.toScript before.machine.disk base?)
  match (buildAllInOrder loaded).run before with
  | (.ok outputs, s) => do
    set { s with machine := { s.machine with analyses := analysesBegun loaded before } }
    pure outputs
  | (.error fault, _) => failing (buildJobs loaded) false fault

/-- Runs a test. -/
def runTest (test : TestCase) : SessionWork Verdict :=
  onMachine test.run

/-- Runs tests in the order of their names. -/
def runTests (tests : TestMap) : SessionWork (List (String × Verdict)) :=
  onMachine tests.run

end Session

end ScriptVet
