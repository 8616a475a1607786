import ScriptVet.CommandLine.Build
import ScriptVet.CommandLine.Check
import ScriptVet.Settings.Environment

/-!
# The program

The program is called with options of its own, a command, and the arguments of the command. Settings
are read before the arguments of the command are, so what is wrong with them comes up first.
-/

namespace ScriptVet.CommandLine

/-- An option in front of the command. -/
inductive ProgramOption where
  | version
  | help
  | logLevel (level : String)
  deriving Repr, DecidableEq

namespace ProgramOption

def table : OptionTable ProgramOption := [
  ("--version", .switch version), ("--help", .switch help), ("--log-level", .text logLevel)]

def logLevel? : ProgramOption → Option String
  | logLevel level => some level
  | _ => none

end ProgramOption

/-- What the program prints about its version. -/
def versionText : String := "cli, version 0.1.0\n"

/-- What the program prints about its use. -/
def helpText : String :=
  Text.phrase [
    "Usage: cli [OPTIONS] COMMAND [ARGS]...\n\n",
    "Commands:\n",
    "  build  Validate and build every script listed in MANIFEST.\n",
    "  check  Validate a single script file.\n",
    "  tools  List external tools and whether they are installed.\n"]

/-- The answer that the first option asks for that is answered at once. -/
def ProgramOption.answer? : ProgramOption → Option String
  | .version => some versionText
  | .help => some helpText
  | .logLevel _ => none

/-- The names of the levels of the log. -/
def logLevels : List String := [
  "CRITICAL", "FATAL", "ERROR", "WARN", "WARNING", "INFO", "DEBUG", "NOTSET"]

/-- The capital of a letter. Names of levels have ASCII capitals only, and these are the capitals of
the small ASCII letters, of the dotless i and of the long s. -/
def capital (c : Char) : Char :=
  if c = 'ı' then 'I' else if c = 'ſ' then 'S' else c.toUpper

/-- A level has to be one that the log knows, in any case. -/
def checkLogLevel (level : String) : Result Unit :=
  let name := String.ofList (level.toList.map capital)
  if logLevels.contains name then .ok () else .error (.unknownLogLevel name)

/-- Lists the configured tools. -/
def tools (settings : Settings) : Command Outcome := do
  let stdout ← Command.breaking do (Console.showTools (← get).toolbox settings : Result String)
  return .finished stdout true

/-- The commands. -/
inductive CommandName where
  | check
  | build
  | tools
  deriving Repr, DecidableEq

/-- The commands by their words. -/
def CommandName.words : List (String × CommandName) := [
  ("check", .check), ("build", .build), ("tools", .tools)]

/-- The command that the words after the options name, and its arguments. -/
def CommandName.ofWords : List String → Except UsageFault (CommandName × List String)
  | [] => .error .missingCommand
  | word :: rest =>
    match CommandName.words.lookup word with
    | some command => .ok (command, rest)
    | none => .error (.unknownCommand word)

/-- The answer that options ask for, if they ask for one. -/
def answer? (arguments : Arguments ProgramOption) : Option String :=
  arguments.options.findSome? ProgramOption.answer?

/-- The answer that arguments ask for, if they ask for one. If the words begin with an option, as
they may behind a double dash, they name no command and are read as options after all. -/
def firstAnswer? (arguments : Arguments ProgramOption) : Except UsageFault (Option String) :=
  match answer? arguments with
  | some text => .ok (some text)
  | none =>
    if (arguments.words.head?).any Arguments.isOption then
      (Arguments.read ProgramOption.table false arguments.words).map answer?
    else .ok none

/-- Answers a question for help, or else goes on with the arguments. -/
def unlessHelp {α : Type} [DecidableEq α] (help : α) (arguments : Arguments α)
    (run : Arguments α → Command Outcome) : Command Outcome :=
  if arguments.options.contains help then pure (.finished helpText true) else run arguments

/-- Runs a command with its arguments. -/
def CommandName.run (settings : Settings) (arguments : List String) :
    CommandName → Command Outcome
  | .check => do
    let arguments ← Command.usage (Arguments.read CheckOption.table true arguments)
    unlessHelp CheckOption.help arguments fun arguments => do
      CommandLine.check (← CheckRequest.ofArguments arguments) settings
  | .build => do
    let arguments ← Command.usage (Arguments.read BuildOption.table true arguments)
    unlessHelp BuildOption.help arguments fun arguments => do
      CommandLine.build (← BuildRequest.ofArguments arguments) settings
  | .tools => do
    let arguments ← Command.usage (Arguments.read [("--help", .switch ())] true arguments)
    unlessHelp () arguments fun arguments => do
      Command.usage (arguments.atMost 0)
      CommandLine.tools settings

/-- Reads the settings and runs the command that arguments ask for. -/
def dispatch (working : Path) (environment : List (String × String)) (arguments : List String) :
    Command Outcome := do
  let arguments ← Command.usage (Arguments.read ProgramOption.table false arguments)
  match ← Command.usage (firstAnswer? arguments) with
  | some text => pure (.finished text true)
  | none => do
    let (command, rest) ← Command.usage (CommandName.ofWords arguments.words)
    let settings ← Command.breaking do
      let settings ← Settings.load working (← get).disk environment []
      let level := textOr (arguments.last? ProgramOption.logLevel?) settings.logLevel
      checkLogLevel level
      pure settings
    command.run settings rest

/-- Runs the program with arguments in a working folder. -/
def run (working : Path) (environment : List (String × String)) (arguments : List String) :
    StateM Machine Outcome := do
  match ← (dispatch working environment arguments).run with
  | .ok outcome => pure outcome
  | .error outcome => pure outcome

end ScriptVet.CommandLine
