import ScriptVet.Tools.Machine

/-!
# Copies of scripts

A tool gets a copy of the script, in a temporary folder of its own that is gone after the run. The
name of the folder tells the kind of analyzer and ends in a mark that is different each time.
-/

namespace ScriptVet

/-- A copy of a script in a temporary folder. -/
structure ScriptCopy where
  folder : Path
  fileName : String
  text : String
  deriving Repr, DecidableEq

namespace ScriptCopy

def path (copy : ScriptCopy) : Path :=
  copy.folder.child copy.fileName

/-- The name of the temporary folder for a kind. -/
def folderName (kind : AnalyzerKind) (mark : String) : String :=
  s!"scriptgate_{kind.word}_{mark}"

/-- A copy for an analyzer of a kind. The folder above the temporary ones is made if it is
missing. -/
def make (settings : Settings) (kind : AnalyzerKind) (language : Language) (text : String) :
    Work ScriptCopy := do
  Work.onDisk (·.ensureFolders settings.tempDir)
  let folder := settings.tempDir.child (folderName kind (← get).temporaryMark)
  pure ⟨folder, "script" ++ language.extension, text⟩

/-- Hands the copy to a tool, after other arguments. -/
def check (copy : ScriptCopy) (settings : Settings) (kind : AnalyzerKind) (tool : String)
    (arguments : List String) (checker : Option String) : Work Work.Output := do
  let executable ← Work.executableOf settings tool (← get).toolbox
  let config := settings.tool tool
  Work.runCommand
    ⟨executable, arguments ++ config.extraArgs ++ [copy.path.toString],
      .check kind copy.text checker⟩ config.timeout

end ScriptCopy

end ScriptVet
