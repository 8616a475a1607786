import ScriptVet.AnalyzerKind
import ScriptVet.Files.Disk

/-!
# External tools

The programs outside: which executables there are, and what a command answers. Both are functions,
so the same command always has the same answer. A tool is asked for its version, or it is handed a
copy of a script to check.
-/

namespace ScriptVet

/-- What a tool is asked. -/
inductive Purpose where
  | version
  /-- To check the script that the last argument names and that has the given text; beside it there
  may be a checker that the tool runs. -/
  | check (kind : AnalyzerKind) (scriptText : String) (checker : Option String)
  deriving Repr, DecidableEq

structure Command where
  executable : String
  arguments : List String
  purpose : Purpose
  deriving Repr, DecidableEq

/-- How a command ends. A negative code is the signal that ended it. -/
inductive Response where
  | finished (stdout stderr : List UInt8) (code : Int)
  /-- It takes longer than it may. -/
  | overran
  /-- It cannot be started. -/
  | notStarted (cause : DiskCause)
  deriving Repr, DecidableEq

structure Toolbox where
  /-- The path of an executable, if it is installed. -/
  which : String → Option String
  respond : Command → Response

/-- Nothing is installed. -/
def Toolbox.empty : Toolbox :=
  ⟨fun _ => none, fun _ => .finished [] [] 0⟩

end ScriptVet
