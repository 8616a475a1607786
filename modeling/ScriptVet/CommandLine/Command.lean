import ScriptVet.CommandLine.Arguments
import ScriptVet.Console.Markup
import ScriptVet.Tools.Machine

/-!
# Commands

A command prints a text and says whether all went well. It is refused if its arguments or the files
that they name are not as they should be; a fault that nobody could have expected breaks it off.
The three endings have exit codes of their own, but a broken command is not told from a failed one.
-/

namespace ScriptVet.CommandLine

/-- How a command ends. -/
inductive Outcome where
  | finished (stdout : String) (success : Bool)
  | refused (notice : String)
  | broken (fault : Fault)
  deriving Repr, DecidableEq

/-- The code that the program exits with. -/
def Outcome.exitCode : Outcome → Nat
  | .finished _ success => if success then 0 else 1
  | .refused _ => 2
  | .broken _ => 1

/-- The code two is for refused commands alone. -/
theorem Outcome.exitCode_eq_two_iff {outcome : Outcome} :
    outcome.exitCode = 2 ↔ ∃ notice, outcome = .refused notice := by
  cases outcome with
  | finished stdout success => cases success <;> simp [exitCode]
  | refused notice => simp [exitCode]
  | broken fault => simp [exitCode]

/-- The code zero is for commands that have ended well. -/
theorem Outcome.exitCode_eq_zero_iff {outcome : Outcome} :
    outcome.exitCode = 0 ↔ ∃ stdout, outcome = .finished stdout true := by
  cases outcome with
  | finished stdout success => cases success <;> simp [exitCode]
  | refused notice => simp [exitCode]
  | broken fault => simp [exitCode]

/-- Work of a command, which an outcome may end early. -/
abbrev Command (α : Type) := ExceptT Outcome (StateM Machine) α

/-- The faults that the user is told about: something given to the program, or a tool, is not as it
should be. -/
def isToldToUser : Fault → Bool
  | .invalid _ _ | .unreadableScript _ _ _ | .duplicateName _ | .json .malformed |
    .toolUnavailable _ _ | .toolOverran _ _ => true
  | .disk e => e.cause.isFromSystem
  | _ => false

/-- A fault refuses the command if the user is told about it. -/
def Outcome.ofFault (fault : Fault) : Outcome :=
  if isToldToUser fault then
    match Console.Markup.line (s!"[red]Error:[/red] {fault.message}") with
    | .ok notice => .refused notice
    | .error fault => .broken fault
  else .broken fault

/-- The text that is given, or the usual one if it is empty or missing. -/
def textOr (given : Option String) (usual : String) : String :=
  (given.filter (· != "")).getD usual

namespace Command

variable {α : Type}

/-- Wrong arguments refuse the command. -/
def usage (x : Except UsageFault α) : Command α := fun machine =>
  (x.mapError fun fault => .refused ("Error: " ++ fault.message ++ "\n"), machine)

/-- Work that the user is told about if it ends in a fault. -/
def refusing (work : Work α) : Command α := fun machine =>
  let (result, machine) := Activity.run work machine
  (result.mapError Outcome.ofFault, machine)

/-- Work that breaks the command off if it ends in a fault. -/
def breaking (work : Work α) : Command α := fun machine =>
  let (result, machine) := Activity.run work machine
  (result.mapError .broken, machine)

/-- What a path in the arguments leads to. -/
def target (path : String) : Command (Option Entry) := do
  if Disk.holdsHalf path then throw (.broken (.disk ⟨.noOctets, path⟩))
  if path.toList.contains '\x00' then throw (.broken (.disk ⟨.embeddedNul, path⟩))
  return (← get).disk.lookRaw path

/-- A path in the arguments that has to lead to a file. -/
def existingFile (path : String) : Command Path := do
  match ← target path with
  | none => usage (.error (.noFile path))
  | some .folder => usage (.error (.isFolder path))
  | some (.file _ _) => pure (Path.ofString path)

/-- A path in the arguments where a file may be, but no folder. -/
def filePath (path : String) : Command Path := do
  match ← target path with
  | some .folder => usage (.error (.isFolder path))
  | _ => pure (Path.ofString path)

/-- A path in the arguments where a folder may be, but no file. -/
def folderPath (path : String) : Command Path := do
  match ← target path with
  | some (.file _ _) => usage (.error (.isFile path))
  | _ => pure (Path.ofString path)

/-- A word in the arguments that stands for one of several values. -/
def choice (option : String) (choices : List (String × α)) (word : String) : Command α :=
  match choices.lookup word with
  | some value => pure value
  | none => usage (.error (.notAChoice option word (choices.map Prod.fst)))

end Command

end ScriptVet.CommandLine
