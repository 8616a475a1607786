import ScriptVet.AnalysisResult
import ScriptVet.Fault
import ScriptVet.Text.Digit
import ScriptVet.Text.Search
import ScriptVet.Text.Word

/-!
# What a parser says

A parser that is given a script succeeds or writes a message. The place of the error is taken from
the message: the first line number in it, with the column that may follow. Where lines were put
before the script, the number counts from behind them.
-/

namespace ScriptVet.ParseCheck

/-- The digits of a line number and perhaps of a column, as they stand in a message. -/
abbrev Numerals := List Char × Option (List Char)

/-- A numeral after a text that it must follow. -/
def numeralAfter? (start : String) (cs : List Char) : Option (List Char × List Char) := do
  let rest ← Text.dropStart? start.toList cs
  let (digits, after) := rest.span Text.isDecimalDigit
  if digits.isEmpty then none else some (digits, after)

/-- The first place named in a message, as in `line 3` or `line 3, column 7`. -/
def findNumerals : Option Char → List Char → Option Numerals
  | _, [] => none
  | before, c :: rest =>
    let here := if Text.isWord? before then none else numeralAfter? "line " (c :: rest)
    match here with
    | some (line, after) => some (line, (numeralAfter? ", column " after).map (·.1))
    | none => findNumerals (some c) rest

/-- The number that digits write; too many of them are not converted. -/
def number (digits : List Char) : Result Nat :=
  if numeralLimit < digits.length then .error (.json (.numeralTooLong digits.length))
  else .ok (Text.numeral digits)

/-- A column has to count from one. -/
def column (digits : List Char) : Result Positive := do
  let n ← number digits
  let column := Json.int n
  ((Checked.inside (.key "column")) (Checked.positive column)).toResult "Location"
    (.obj [("column", column)])

/-- The place in the script that a message names, where `linesBefore` lines stood before the
script. A place before the script is none. -/
def location (message : List Char) (linesBefore : Int) : Result (Option Location) := do
  match findNumerals none message with
  | none => .ok none
  | some (lineDigits, columnDigits?) =>
    let line := (((← number lineDigits) : Int) - linesBefore).toNat
    if h : 0 < line then
      let column? ← columnDigits?.mapM column
      .ok (some ⟨⟨line, h⟩, column?⟩)
    else .ok none

/-- The message of a parser that failed. -/
def failureMessage (stdout stderr : String) (code : Int) : String :=
  let err := Text.strip stderr
  let out := Text.strip stdout
  if err != "" then err
  else if out != "" then out
  else "parser exited with status " ++ String.ofList (Json.intText code)

/-- A finding about a script that does not parse. -/
def finding (message : String) (place : Option Location) : Finding :=
  { category := .syntaxError, message, location := place }

/-- The result when a parser has ended. In its message the script goes by the name of its file and
not by the whole path. -/
def verdict (kind : AnalyzerKind) (scriptPath scriptFile : String) (linesBefore : Int)
    (stdout stderr : String) (code : Int) : Result AnalysisResult :=
  if code = 0 then .ok (.ofFindings kind [] [])
  else do
    let message := Text.replaceAll scriptPath scriptFile (failureMessage stdout stderr code)
    let place ← location message.toList linesBefore
    .ok (.ofFindings kind [finding message place] [])

end ScriptVet.ParseCheck
