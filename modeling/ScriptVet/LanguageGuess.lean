import ScriptVet.Files.Path
import ScriptVet.Language
import ScriptVet.Text.Lines
import ScriptVet.Text.Search

/-!
# Guessing the language of a script

Where no language is declared, the extension of the file decides, or else the interpreter that the
first line names. A script that says nothing is taken for bash.
-/

namespace ScriptVet.Language

/-- The languages of the known extensions. -/
def extensions : List (String × Language) := [
  (".sh", .bash), (".bash", .bash), (".py", .python3), (".ps1", .powershell)]

/-- The language that an interpreter line names. -/
def ofFirstLine (line : List Char) : Language :=
  let names (part : String) : Bool := Text.occursIn part.toList line
  if !"#!".toList.isPrefixOf line then .bash
  else if names "python" then .python3
  else if names "pwsh" || names "powershell" then .powershell
  else .bash

/-- The language of a file with a text. -/
def guess (file : Path) (text : String) : Language :=
  (extensions.lookup (Text.lower file.extension)).getD
    (ofFirstLine ((Text.firstLine? text).getD "").toList)

end ScriptVet.Language
