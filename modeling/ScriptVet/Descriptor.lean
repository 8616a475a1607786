import ScriptVet.Fault
import ScriptVet.Script
import ScriptVet.Selection
import ScriptVet.Text.Lines

/-!
# Script descriptors

A descriptor says which script is to be checked and how: the text itself or the file that holds it,
the declared language, and which analyzers are asked for.
-/

namespace ScriptVet

/-- Where the text of a script comes from. -/
inductive Source where
  | text (s : String)
  | file (p : Path)
  deriving Repr, DecidableEq

structure Descriptor where
  name : String
  language : String := "bash"
  source : Source
  dependencies : List String := []
  executable : Bool := true
  /-- The analyzers asked for; none stands for those that apply to the language. -/
  enabledAnalyzers : Option (List AnalyzerKind) := none
  disabledAnalyzers : List AnalyzerKind := []
  deriving Repr, DecidableEq

namespace Descriptor

/-- The one source that is given. -/
def oneSource (text? : Option String) (file? : Option Path) : Checked Source :=
  match text?, file? with
  | some s, none => .ok (.text s)
  | none, some p => .ok (.file p)
  | _, _ => Checked.reject (.brokenRule "exactly one of 'text' or 'path' must be given")

open Checked in
/-- A descriptor from its fields. That there is exactly one source is asked only when all fields are
right by themselves. -/
def ofJson (v : Json) : Checked Descriptor := do
  let fields ← recordFields "ScriptDescriptor" v
  let kinds := list (oneOf AnalyzerKind.words)
  let build ←
    Except.ok (fun name language text? file? dependencies executable enabled disabled =>
        (oneSource text? file?).map fun source =>
          Descriptor.mk name language source dependencies executable enabled disabled)
      |> take (required fields "name" Checked.name)
      |> take (withDefault fields "language" "bash" text)
      |> take (withDefault fields "text" none (optional text))
      |> take (withDefault fields "path" none (optional path))
      |> take (withDefault fields "dependencies" [] (list text))
      |> take (withDefault fields "executable" true bool)
      |> take (withDefault fields "enabled_analyzers" none (optional kinds))
      |> take (withDefault fields "disabled_analyzers" [] kinds)
  build

/-- The language that the declared name stands for. -/
def resolvedLanguage (d : Descriptor) : Language :=
  Language.named d.language

/-- A file as text: every line ending is read as a line feed. What is said about the text is meant
for files that spell no character that stands for half of a surrogate pair. -/
def readTextFile (disk : Disk) (p : Path) : Result String :=
  match disk.read p with
  | .error e => .error (.disk e)
  | .ok content =>
    match Text.Utf8.decode? content with
    | none => .error .notText
    | some cs => .ok (String.ofList (Text.readNewlines cs))

/-- The text of the script. A relative path begins in the given folder, if there is one. -/
def readText (d : Descriptor) (disk : Disk) (base? : Option Path) : Result String :=
  match d.source with
  | .text s => .ok s
  | .file p =>
    let p := base?.elim p (·.join p)
    match readTextFile disk p with
    | .error (.disk e) =>
      if e.cause.isFromSystem then .error (.unreadableScript d.name p.toString e)
      else .error (.disk e)
    | read => read

/-- The script with a text, which must not be empty. -/
def withText (d : Descriptor) (text : String) : Checked Script :=
  let language := d.resolvedLanguage
  let languageName := if language = .other then some d.language else none
  (Checked.inside (.key "source_text") (Checked.someText (.str text))).map fun text =>
    ⟨d.name, language, languageName, text, d.dependencies, d.executable⟩

/-- The script that the descriptor describes. -/
def toScript (d : Descriptor) (disk : Disk) (base? : Option Path) : Result Script := do
  let text ← d.readText disk base?
  (d.withText text).toResult "Script" (.obj [("source_text", .str text)])

/-- Which analyzers are selected for the script. -/
def selection (d : Descriptor) : Selection :=
  Selection.forLanguage d.resolvedLanguage d.enabledAnalyzers d.disabledAnalyzers

end Descriptor

end ScriptVet
