import ScriptVet.Checked.Decode
import ScriptVet.Json.Writer

/-!
# Findings

What an analyzer has to say about a script: a message of some category, perhaps with a place in the
script and the code of the rule that it breaks. Errors are fatal: the analysis that reports one has
failed. Everything else is advice.
-/

namespace ScriptVet

inductive Category where
  | syntaxError
  | lintError
  | lintWarning
  | lintStyle
  | heuristic
  deriving Repr, DecidableEq

namespace Category

def all : List Category := [.syntaxError, .lintError, .lintWarning, .lintStyle, .heuristic]

/-- The word for a category in data and messages. -/
def word : Category → String
  | .syntaxError => "syntax-error"
  | .lintError => "lint-error"
  | .lintWarning => "lint-warning"
  | .lintStyle => "lint-style"
  | .heuristic => "heuristic"

/-- The categories by their words. -/
def words : List (String × Category) := all.map fun c => (c.word, c)

/-- A finding of the category makes the analysis fail. -/
def isFatal : Category → Bool
  | .syntaxError | .lintError => true
  | .lintWarning | .lintStyle | .heuristic => false

theorem mem_all (c : Category) : c ∈ all := by cases c <;> decide

end Category

/-- A place in a script; lines and columns count from one. -/
structure Location where
  line : Positive
  column : Option Positive := none
  deriving Repr, DecidableEq

namespace Location

open Checked in
/-- A place from its fields. -/
def ofJson (v : Json) : Checked Location := do
  let fields ← recordFields "Location" v
  Except.ok Location.mk
    |> take (required fields "line" positive)
    |> take (withDefault fields "column" none (optional positive))

def toJson (place : Location) : Json :=
  .obj [("line", .int place.line.val),
    ("column", place.column.elim .null fun c => .int c.val)]

/-- The line, and after a colon the column if it is known. -/
def text (place : Location) : String :=
  match place.column with
  | none => Nat.repr place.line.val
  | some column => Nat.repr place.line.val ++ ":" ++ Nat.repr column.val

end Location

structure Finding where
  category : Category
  message : String
  location : Option Location := none
  /-- The rule that is broken, as the tool names it. -/
  code : Option String := none
  deriving Repr, DecidableEq

namespace Finding

open Checked in
/-- A finding from its fields. -/
def ofJson (v : Json) : Checked Finding := do
  let fields ← recordFields "Finding" v
  Except.ok Finding.mk
    |> take (required fields "category" (oneOf Category.words))
    |> take (required fields "message" text)
    |> take (withDefault fields "location" none (optional Location.ofJson))
    |> take (withDefault fields "code" none (optional text))

def toJson (finding : Finding) : Json :=
  .obj [("category", .str finding.category.word), ("message", .str finding.message),
    ("location", finding.location.elim .null Location.toJson),
    ("code", Json.ofOption finding.code)]

/-- The finding on one line, unless the message itself has several. -/
def format (finding : Finding) : String :=
  let place := finding.location.elim "" fun place => s!"line {place.text}: "
  let code := (finding.code.filter (· != "")).elim "" fun code => s!"[{code}] "
  s!"{finding.category.word}: {place}{code}" ++ finding.message

end Finding

end ScriptVet
