import ScriptVet.Checked.Account
import ScriptVet.Files.Disk
import ScriptVet.Json.Reader
import ScriptVet.Json.Writable

/-!
# Faults

Everything that can keep the program from an answer, by its cause. A problem that a check finds in a
script is no fault: it is a finding, and findings are answers.
-/

namespace ScriptVet

inductive Fault where
  /-- Data does not have the form it should have; the account tells a reader about it. -/
  | invalid (problems : List Problem) (account : String)
  | disk (e : DiskError)
  /-- The file that a script is to be taken from cannot be read. -/
  | unreadableScript (script path : String) (e : DiskError)
  | duplicateName (script : String)
  /-- A word that stands for no value of the named type; it is given as it is shown. -/
  | unknownWord (shownWord typeName : String)
  /-- The octets of a file are no text. -/
  | notText
  | json (e : JsonFault)
  /-- A composite setting in the environment is no JSON. -/
  | unreadableSetting (field : String)
  /-- A setting that should be a path is neither text nor a path. -/
  | settingNotPath (field : String)
  | missingAnalyzer (kind : String)
  | missingTest (id : String)
  | toolUnavailable (tool reason : String)
  /-- A command did not end in the seconds it was given. -/
  | toolOverran (executable : String) (seconds : Option Int)
  /-- A command was given more seconds than can be counted. -/
  | endlessTimeout
  /-- An analyzer broke down with a message. -/
  | analyzerBroke (message : String)
  /-- A style is ended in a message that never began. -/
  | strayClosingTag (tag : String)
  /-- What an action in a message is handed is no literal value. -/
  | badParameters (parameters : String)
  /-- A part of a color in a message is no number. -/
  | notANumber (shownPart : String)
  | unknownLogLevel (level : String)
  /-- A value or a text cannot be given out. -/
  | unwritable (e : WriteFault)
  /-- A value cannot be written as JSON. -/
  | unwritableJson (e : WriteFault)
  deriving Repr, DecidableEq

namespace Fault

/-- A number of seconds, if there is any. -/
def seconds (n : Option Int) : String :=
  n.elim "None" fun n => String.ofList (Json.intText n)

/-- The text of a fault. -/
def message : Fault → String
  | .invalid _ account => account
  | .disk e => e.message
  | .unreadableScript script path e =>
    Text.phrase ["Cannot read script '", script, "' from ", path, ": ", e.message]
  | .duplicateName script => Text.phrase ["Duplicate script name: ", script]
  | .unknownWord shownWord typeName => Text.phrase [shownWord, " is not a valid ", typeName]
  | .notText => "the file is not text"
  | .json (.numeralTooLong digits) => numeralTooLongMessage digits
  | .json .malformed => "the text is not JSON"
  | .json (.tooDeep true) =>
    "maximum recursion depth exceeded while decoding a JSON object from a unicode string"
  | .json (.tooDeep false) =>
    "maximum recursion depth exceeded while decoding a JSON array from a unicode string"
  | .unreadableSetting field => Text.phrase ["the setting ", field, " is not JSON"]
  | .settingNotPath field => Text.phrase ["the setting ", field, " is not a path"]
  | .missingAnalyzer kind => Text.phrase ["there is no ", kind, " analyzer"]
  | .missingTest id => Text.phrase ["there is no test ", id]
  | .toolUnavailable tool reason => Text.phrase [reason, ": ", tool]
  | .toolOverran executable n => Text.phrase [executable, " timed out after ", seconds n, "s"]
  | .endlessTimeout => "int too large to convert to float"
  | .analyzerBroke message => message
  | .strayClosingTag tag => Text.phrase ["nothing to close for ", tag]
  | .badParameters parameters => Text.phrase ["error parsing ", Text.quoted parameters]
  | .notANumber shownPart =>
    if shownPart.isEmpty then "invalid literal for int() with base 10: ''"
    else numeralTooLongMessage shownPart.length
  | .unknownLogLevel level => Text.phrase ["Unknown level: ", Text.quoted level]
  | .unwritable e => e.message
  | .unwritableJson e =>
    Text.phrase ["Error serializing to JSON: ", e.kindName, ": ", e.message]
where
  numeralTooLongMessage (digits : Nat) : String :=
    Text.phrase
      ["Exceeds the limit (4300 digits) for integer string conversion: value has ",
        Nat.repr digits, " digits; use sys.set_int_max_str_digits() to increase the limit"]

end Fault

/-- A value or the fault that prevented it. -/
abbrev Result (α : Type) := Except Fault α

/-- Checked data, as a result. A title says what the data should be. -/
def Checked.toResult {α : Type} (title : String) (data : Json) (x : Checked α) : Result α :=
  x.mapError fun problems => .invalid problems (Account.text title data problems)

end ScriptVet
