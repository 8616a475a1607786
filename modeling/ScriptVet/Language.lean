import ScriptVet.Text.Blank
import ScriptVet.Text.Case

/-!
# Script languages

A script is in one of three languages that can be checked, or in another one. The language is
declared by a name; several names stand for the same language, and a name that is not known stands
for "other".
-/

namespace ScriptVet

inductive Language where
  | bash
  | python3
  | powershell
  | other
  deriving Repr, DecidableEq

namespace Language

def all : List Language := [.bash, .python3, .powershell, .other]

/-- The word for a language in data and messages. -/
def word : Language → String
  | .bash => "bash"
  | .python3 => "python3"
  | .powershell => "powershell"
  | .other => "other"

/-- The languages by their words. -/
def words : List (String × Language) := all.map fun l => (l.word, l)

/-- The names by which a script may declare its language. -/
def names : List (String × Language) := [
  ("bash", .bash), ("sh", .bash), ("shell", .bash),
  ("python3", .python3), ("python", .python3), ("py", .python3),
  ("powershell", .powershell), ("pwsh", .powershell), ("ps1", .powershell)]

/-- The language that a name declares, whatever its case and the blanks around it. -/
def named (name : String) : Language :=
  (names.lookup (Text.lower (Text.strip name))).getD .other

/-- The extension that scripts of the language have. -/
def extension : Language → String
  | .bash => ".sh"
  | .python3 => ".py"
  | .powershell => ".ps1"
  | .other => ""

/-- The tool that runs scripts of the language and can parse them. -/
def interpreter? : Language → Option String
  | .bash => some "bash"
  | .python3 => some "python3"
  | .powershell => some "pwsh"
  | .other => none

theorem mem_all (l : Language) : l ∈ all := by cases l <;> decide

theorem word_injective {a b : Language} (h : a.word = b.word) : a = b := by
  revert h
  cases a <;> cases b <;> decide

end Language

end ScriptVet
