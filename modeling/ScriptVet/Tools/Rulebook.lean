import ScriptVet.Text.Search
import ScriptVet.Text.Utf8
import ScriptVet.Tools.Toolbox

/-!
# Tools by rules

A rulebook stands in for real tools: it lists the executables, and the first rule that fits a
command says how the command ends. A command that no rule fits succeeds without output.
-/

namespace ScriptVet

/-- What a rule lets a tool write. In a text that answers a check, `{path}` stands for the path of
the script. -/
inductive ScriptedOutput where
  | text (s : String)
  | octets (bytes : List UInt8)
  deriving Repr, DecidableEq

/-- How a rule lets a command end. -/
inductive ScriptedEnd where
  | exit (stdout stderr : ScriptedOutput) (code : Int)
  | overrun
  | noStart (cause : DiskCause)
  deriving Repr, DecidableEq

/-- A rule: which commands it fits, and how it lets them end. -/
structure ToolRule where
  forVersion : Bool := false
  executable : Option String := none
  kind : Option AnalyzerKind := none
  /-- Part of the text of the script. -/
  scriptHas : Option String := none
  ending : ScriptedEnd
  deriving Repr, DecidableEq

namespace ToolRule

/-- The rule fits a command. -/
def fits (rule : ToolRule) (command : Command) : Bool :=
  rule.executable.all (· == command.executable) &&
    match command.purpose with
    | .version => rule.forVersion && rule.kind.isNone
    | .check kind scriptText _ =>
      !rule.forVersion && rule.kind.all (· == kind) &&
        rule.scriptHas.all fun part => Text.occursIn part.toList scriptText.toList

end ToolRule

/-- The octets that a command writes. -/
def ScriptedOutput.octetsFor (command : Command) : ScriptedOutput → List UInt8
  | .octets bytes => bytes
  | .text s =>
    match command.purpose with
    | .version => Text.Utf8.encodeString s
    | .check _ _ _ =>
      let scriptPath := command.arguments.getLast?.getD ""
      Text.Utf8.encodeString (Text.replaceAll "\x7bpath\x7d" scriptPath s)

/-- How a command ends by a rule. -/
def ScriptedEnd.response (command : Command) : ScriptedEnd → Response
  | .exit stdout stderr code =>
    .finished (stdout.octetsFor command) (stderr.octetsFor command) code
  | .overrun => .overran
  | .noStart cause => .notStarted cause

/-- Executables with their paths, and rules. -/
structure Rulebook where
  executables : List (String × String) := []
  rules : List ToolRule := []
  deriving Repr, DecidableEq

/-- The tools that a rulebook describes. -/
def Rulebook.toolbox (book : Rulebook) : Toolbox where
  which executable := book.executables.lookup executable
  respond command :=
    match book.rules.find? (·.fits command) with
    | none => .finished [] [] 0
    | some rule => rule.ending.response command

end ScriptVet
