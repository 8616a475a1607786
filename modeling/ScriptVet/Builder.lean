import ScriptVet.Descriptor
import ScriptVet.Settings
import ScriptVet.Tools.Toolbox

/-!
# Building artifacts

A script is built into a file of its own: `<name>/bin/<name>` in the build folder if it is a
program, and `<name>/lib/<name>` if it is a library. A program gets a first line that names its
interpreter, unless it has one. What the script depends on is written beside it.
-/

namespace ScriptVet

/-- A script that has been built. -/
structure Artifact where
  name : String
  path : Path
  language : Language
  languageName : Option String
  dependencies : List String
  executable : Bool
  deriving Repr, DecidableEq

namespace Artifact

/-- The text of the built file. -/
def readText (artifact : Artifact) (disk : Disk) : Result String :=
  Descriptor.readTextFile disk artifact.path

/-- The built file as a script again. -/
def toScript (artifact : Artifact) (disk : Disk) : Result Script := do
  let text ← artifact.readText disk
  Checked.toResult "Script" (.obj [("source_text", .str text)]) <|
    (Checked.inside (.key "source_text") (Checked.someText (.str text))).map fun text =>
      Script.mk artifact.name artifact.language artifact.languageName text artifact.dependencies
        artifact.executable

end Artifact

namespace Builder

/-- The line that names the interpreter of a language, if there is one. -/
def interpreterLine (settings : Settings) (toolbox : Toolbox) (language : Language) : String :=
  match language.interpreter? with
  | none => ""
  | some tool =>
    let executable := (settings.tool tool).executable
    let found := (toolbox.which executable).filter (· != "")
    let command := found.getD ("/usr/bin/env " ++ executable)
    "#!" ++ command ++ "\n"

/-- The text of the built file. -/
def builtText (settings : Settings) (toolbox : Toolbox) (script : Script) : String :=
  if !script.executable || "#!".toList.isPrefixOf script.sourceText.toList then script.sourceText
  else interpreterLine settings toolbox script.language ++ script.sourceText

/-- The folder that a script is built in. -/
def folderFor (settings : Settings) (script : Script) : Path :=
  (settings.buildDir.child script.name).child (if script.executable then "bin" else "lib")

/-- The file beside the built one that lists what the script depends on. -/
def dependencyText (script : Script) : String :=
  Json.render .indentedAscii (Json.ofStrings script.dependencies)

/-- Where a script is built. -/
def artifactFor (settings : Settings) (script : Script) : Artifact :=
  ⟨script.name, (folderFor settings script).child script.name, script.language,
    script.languageName, script.dependencies, script.executable⟩

/-- A step that changes files. -/
abbrev FileStep := Disk → Result Disk

/-- An operation on files as a step. -/
def fileStep (operation : Disk → Except DiskError Disk) : FileStep := fun disk =>
  (operation disk).mapError .disk

/-- Writes a text to a file, which is emptied first. -/
def writingSteps (file : Path) (text : String) : List FileStep := [
  fileStep (·.write file []),
  fun disk => do
    (Json.checkText (.str text)).mapError .unwritable
    fileStep (·.write file (Text.Utf8.encodeString text)) disk]

/-- The steps in which the files of a script are written. -/
def steps (settings : Settings) (toolbox : Toolbox) (script : Script) : List FileStep :=
  let folder := folderFor settings script
  let file := (artifactFor settings script).path
  let allow (disk : Disk) : Except DiskError Disk :=
    if script.executable then disk.makeExecutable file else .ok disk
  fileStep (·.ensureFolders folder) :: writingSteps file (builtText settings toolbox script) ++
    fileStep allow ::
      writingSteps (folder.child (script.name ++ ".deps.json")) (dependencyText script)

/-- Takes steps until one fails; what was written before stays. -/
def takeSteps : List FileStep → Disk → Result Unit × Disk
  | [], disk => (.ok (), disk)
  | step :: steps, disk =>
    match step disk with
    | .ok disk => takeSteps steps disk
    | .error fault => (.error fault, disk)

/-- Writes the files of a script. -/
def build (settings : Settings) (toolbox : Toolbox) (script : Script) (disk : Disk) :
    Result Artifact × Disk :=
  let (result, disk) := takeSteps (steps settings toolbox script) disk
  (result.map fun _ => artifactFor settings script, disk)

end Builder

end ScriptVet
