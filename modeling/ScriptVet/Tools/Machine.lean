import ScriptVet.Activity
import ScriptVet.Decimal.Double
import ScriptVet.Script
import ScriptVet.Settings
import ScriptVet.Text.Lines
import ScriptVet.Tools.Toolbox

/-!
# Working with tools

The state that analyzers work on: the tools, the files, and a record of what was done. Work may end
in a fault; what was done before the fault stays done. Work that waits for a command with a time
limit pauses.
-/

namespace ScriptVet

/-- A command that was started, and whether it had to be stopped. -/
structure Call where
  command : Command
  stopped : Bool := false
  deriving Repr, DecidableEq

inductive NoteLevel where
  | warning
  | error
  deriving Repr, DecidableEq

/-- A line of the log. -/
structure Note where
  level : NoteLevel
  text : String
  deriving Repr, DecidableEq

structure Machine where
  toolbox : Toolbox
  disk : Disk
  /-- What makes the names of temporary folders differ. -/
  temporaryMark : String
  /-- The commands started so far. -/
  calls : List Call := []
  notes : List Note := []
  /-- The versions that tools have told to the analyzers of a kind. -/
  versions : List ((AnalyzerKind × String) × String) := []
  /-- The analyses begun so far. -/
  analyses : List (AnalyzerKind × Script) := []

/-- Work on a machine that gives a value or ends in a fault. -/
abbrev Work (α : Type) := Activity Machine α

namespace Work

/-- Writes a line to the log. -/
def note (level : NoteLevel) (text : String) : Work Unit :=
  modify fun m => { m with notes := m.notes ++ [⟨level, text⟩] }

/-- An operation on the files that gives the files it leaves. -/
def onDisk (operation : Disk → Except DiskError Disk) : Work Unit := do
  match operation (← get).disk with
  | .ok disk => modify fun m => { m with disk }
  | .error e => throw (.disk e)

/-- A time limit that is too long to be kept: it is beyond the greatest floating-point number. -/
def isEndless (seconds : Int) : Bool :=
  0 < seconds && (Decimal.Double.ofQuotient false seconds.toNat 1).isInfinite

/-- Waits for a command: without a time limit it is not left alone. Otherwise it takes three turns:
the command answers in the first, unless it is stopped at once because it has less than no time. -/
def wait (seconds : Option Int) : Work Unit :=
  match seconds.filter (· != 0) with
  | none => pure ()
  | some n => do
    if isEndless n then throw .endlessTimeout
    let after : Pause := if n < 0 then .idle else .answered
    Activity.pause .idle
    Activity.pause after
    Activity.pause after

/-- What a command wrote, and its exit code. -/
structure Output where
  stdout : String
  stderr : String
  code : Int
  deriving Repr, DecidableEq

/-- How a command ends that may take a number of seconds: with less than none it overruns whatever
it does. -/
def limited (seconds : Option Int) (response : Response) : Response :=
  match response with
  | .notStarted cause => .notStarted cause
  | response => if seconds.any (· < 0) then .overran else response

/-- Runs a command, which may take a number of seconds; zero sets no limit. -/
def runCommand (command : Command) (seconds : Option Int) : Work Output := do
  let response := limited seconds ((← get).toolbox.respond command)
  let stopped := response == .overran && !seconds.any isEndless
  modify fun m => { m with calls := m.calls ++ [⟨command, stopped⟩] }
  if let .notStarted cause := response then throw (.disk ⟨cause, command.executable⟩)
  wait seconds
  match response with
  | .finished stdout stderr code =>
    pure ⟨Text.Utf8.decodeLossy stdout, Text.Utf8.decodeLossy stderr, code⟩
  | .overran => throw (.toolOverran command.executable seconds)
  | .notStarted cause => throw (.disk ⟨cause, command.executable⟩)

/-- The executable of a tool, if the tool is enabled and installed. -/
def executableOf (settings : Settings) (tool : String) (toolbox : Toolbox) : Result String :=
  let config := settings.tool tool
  if !config.enabled then .error (.toolUnavailable tool "tool disabled")
  else
    match toolbox.which config.executable with
    | none => .error (.toolUnavailable tool "tool not found")
    | some executable => .ok executable

/-- The seconds that a tool has to tell its version. -/
def versionSeconds : Int := 30

/-- The version in what a tool wrote: its first line. -/
def versionIn (output : Output) : String :=
  match Text.firstLine? (Text.strip output.stdout) with
  | some line => if output.code = 0 then line else "unknown"
  | none => "unknown"

/-- Asks a tool for its version. -/
def askVersion (settings : Settings) (tool : String) : Work String := do
  let executable ← executableOf settings tool (← get).toolbox
  versionIn <$> runCommand ⟨executable, ["--version"], .version⟩ (some versionSeconds)

/-- The faults of a tool that leave its version open. -/
def leavesVersionOpen : Fault → Bool
  | .toolUnavailable _ _ | .toolOverran _ _ => true
  | .disk e => e.cause.isFromSystem
  | _ => false

/-- The version of a tool; the analyzers of a kind ask for it once. -/
def toolVersion (settings : Settings) (kind : AnalyzerKind) (tool : String) : Work String := do
  match (← get).versions.lookup (kind, tool) with
  | some version => pure version
  | none => do
    let version ← tryCatch (askVersion settings tool) fun e =>
      if leavesVersionOpen e then pure "unavailable" else throw e
    modify fun m => { m with versions := ((kind, tool), version) :: m.versions }
    pure version

end Work

end ScriptVet
