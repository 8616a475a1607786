import ScriptVet.Checked.Decode
import ScriptVet.Json.Writable
import ScriptVet.Language
import ScriptVet.Sha256
import ScriptVet.Text.Utf8

/-!
# Scripts

A script to be checked: its text, the language it is in and what it depends on. The *fingerprint*
identifies its content: language, text and dependencies. Neither the name of a script nor whether it
is a program or a library belongs to its content.
-/

namespace ScriptVet

structure Script where
  name : String
  language : Language := .bash
  /-- The declared name of a language other than the known ones. -/
  languageName : Option String := none
  sourceText : String
  dependencies : List String := []
  executable : Bool := true
  deriving Repr, DecidableEq

namespace Script

open Checked in
/-- A script from its fields. -/
def ofJson (v : Json) : Checked Script := do
  let fields ← recordFields "Script" v
  Except.ok Script.mk
    |> take (required fields "name" Checked.name)
    |> take (withDefault fields "language" .bash (oneOf Language.words))
    |> take (withDefault fields "language_name" none (optional text))
    |> take (required fields "source_text" someText)
    |> take (withDefault fields "dependencies" [] (list text))
    |> take (withDefault fields "executable" true bool)

/-- The name of the language for a reader. -/
def displayLanguage (script : Script) : String :=
  (script.languageName.filter (· != "")).getD script.language.word

/-- The name that tells languages other than the known ones apart. -/
def distinguishingName (script : Script) : String :=
  if script.language = .other then script.languageName.getD "" else ""

/-- What the fingerprint is taken of: the parts of the content, separated by zero octets. -/
def content (script : Script) : List UInt8 :=
  Text.Utf8.encodeString script.language.word ++
    Text.Utf8.encodeString script.distinguishingName ++
    0 :: Text.Utf8.encodeString script.sourceText ++
    script.dependencies.flatMap fun d => 0 :: Text.Utf8.encodeString d

/-- The content has to be whole text: half of a surrogate pair has no octets. -/
def checkContent (script : Script) : Except WriteFault Unit :=
  Json.checkText <|
    Json.ofStrings (script.distinguishingName :: script.sourceText :: script.dependencies)

/-- A text that identifies the content of the script. -/
def fingerprint (script : Script) : String :=
  Sha256.hexDigest script.content

/-- Only content decides the fingerprint. -/
theorem fingerprint_rename (script : Script) (newName : String) (program : Bool) :
    { script with name := newName, executable := program }.fingerprint = script.fingerprint :=
  rfl

end Script

end ScriptVet
