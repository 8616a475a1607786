import ScriptVet.CommandLine.Command
import ScriptVet.Console.Display
import ScriptVet.Descriptor
import ScriptVet.LanguageGuess
import ScriptVet.Session.Basic

/-!
# Checking one file

The command `check` reports on the script in a file, for a reader or as JSON. The report decides
whether all went well.
-/

namespace ScriptVet.CommandLine

/-- How a report is printed. -/
inductive Format where
  | summary
  | json
  deriving Repr, DecidableEq

/-- The formats by their words. -/
def Format.words : List (String × Format) := [("summary", .summary), ("json", .json)]

/-- A report in a format. -/
def Format.show : Format → Report → Result String
  | .summary, report => Console.showReport report
  | .json, report => return (← report.indentedJson) ++ "\n"

/-- An option of the command. -/
inductive CheckOption where
  | name (s : String)
  | language (s : String)
  | enable (word : String)
  | disable (word : String)
  | format (word : String)
  | noCache
  | help
  deriving Repr, DecidableEq

namespace CheckOption

def table : OptionTable CheckOption := [
  ("--name", .text name), ("-n", .text name), ("--language", .text language),
  ("-l", .text language), ("--enable", .text enable), ("-e", .text enable),
  ("--disable", .text disable), ("-d", .text disable), ("--format", .text format),
  ("-f", .text format), ("--no-cache", .switch noCache), ("--help", .switch help)]

def name? : CheckOption → Option String
  | name s => some s
  | _ => none

def language? : CheckOption → Option String
  | language s => some s
  | _ => none

def enable? : CheckOption → Option String
  | enable word => some word
  | _ => none

def disable? : CheckOption → Option String
  | disable word => some word
  | _ => none

def format? : CheckOption → Option String
  | format word => some word
  | _ => none

end CheckOption

/-- What the command is to do. -/
structure CheckRequest where
  file : Path
  name : Option String
  language : Option String
  enabled : List AnalyzerKind
  disabled : List AnalyzerKind
  format : Format
  useCache : Bool
  deriving Repr, DecidableEq

namespace CheckRequest

/-- The request that arguments make. Options are looked at before words. -/
def ofArguments (arguments : Arguments CheckOption) : Command CheckRequest := do
  let kinds (option : String) (words : List String) : Command (List AnalyzerKind) :=
    words.mapM (Command.choice option AnalyzerKind.words)
  let enabled ← kinds "--enable" (arguments.every CheckOption.enable?)
  let disabled ← kinds "--disable" (arguments.every CheckOption.disable?)
  let format ← Command.choice "--format" Format.words
    ((arguments.last? CheckOption.format?).getD "summary")
  let file ← Command.existingFile (← Command.usage (arguments.firstWord "SCRIPT_FILE"))
  Command.usage (arguments.atMost 1)
  return {
    file
    name := arguments.last? CheckOption.name?
    language := arguments.last? CheckOption.language?
    enabled
    disabled
    format
    useCache := !arguments.options.contains .noCache }

/-- The descriptor of the script in the file. Its name is the name of the file, and its language is
guessed, unless the request gives them. -/
def descriptor (request : CheckRequest) (text : String) : Result Descriptor := do
  let given := Json.str (textOr request.name request.file.stem)
  let name ← (Checked.inside (.key "name") (Checked.name given)).toResult "ScriptDescriptor"
    (.obj [("name", given)])
  return {
      name
      language := textOr request.language (Language.guess request.file text).word
      source := .text text
      enabledAnalyzers := if request.enabled.isEmpty then none else some request.enabled
      disabledAnalyzers := request.disabled }

/-- The script in the file and what is selected for it. -/
def load (request : CheckRequest) (disk : Disk) : Result (Script × Selection) := do
  let text ← Descriptor.readTextFile disk request.file
  let descriptor ← request.descriptor text
  return (← descriptor.toScript disk none, descriptor.selection)

/-- The settings for the request. -/
def adjust (request : CheckRequest) (settings : Settings) : Settings :=
  if request.useCache then settings else { settings with cacheResults := false }

end CheckRequest

/-- Reports on the script in a file. -/
def check (request : CheckRequest) (settings : Settings) : Command Outcome := do
  let (script, selection) ← Command.refusing do request.load (← get).disk
  let report ← Command.breaking <|
    Session.within (request.adjust settings) (Session.run script selection true)
  let stdout ← Command.breaking (request.format.show report)
  return .finished stdout report.passed

end ScriptVet.CommandLine
