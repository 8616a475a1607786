import ScriptVet.AnalysisResult
import ScriptVet.Fault
import ScriptVet.Shell.Words

/-!
# What the linter says

The linter writes its comments as JSON: an object with the comments under `comments`, or just the
array of comments. Each comment becomes one finding, whatever types its fields have; only a code
that is neither text nor a number is refused. The linter exits with one when it has comments, and
with more when it has failed.
-/

namespace ScriptVet.Lint

/-- The fields of a comment. -/
abbrev Comment := List (String × Json)

/-- The comments that an output lists for a reader that goes so deep; nothing if the output is no
list of comments. -/
def comments? (depth : Nat) (output : String) : Result (Option (List Comment)) :=
  if Text.isBlankText output then .ok (some [])
  else
    match Json.parseWithin depth output with
    | .error .malformed => .ok none
    | .error e => .error (.json e)
    | .ok (.obj fields) => .ok (objects? ((Json.getField? "comments" fields).getD (.arr [])))
    | .ok value => .ok (objects? value)
where
  objects? (value : Json) : Option (List Comment) :=
    value.items?.map (·.filterMap Json.fields?)

/-- The level of a comment, which may go by another name. -/
def level? (comment : Comment) : Option Json :=
  (Json.getField? "level" comment).or (Json.getField? "severity" comment)

/-- The levels and what they mean. -/
def categories : List (String × Category) := [
  ("error", .lintError), ("warning", .lintWarning), ("info", .lintStyle), ("style", .lintStyle)]

/-- What a level means, whatever its case; levels that are not known are warnings. -/
def categoryOf (level : String) : Category :=
  (categories.lookup (Text.lower level)).getD .lintWarning

/-- A number that counts from one, if a field has one. -/
def positive? (value? : Option Json) : Option Positive :=
  (value?.bind Json.toInt?).bind fun n => if h : 0 < n.toNat then some ⟨n.toNat, h⟩ else none

/-- The place of a comment. -/
def location? (comment : Comment) : Option Location :=
  (positive? (Json.getField? "line" comment)).map fun line =>
    ⟨line, positive? (Json.getField? "column" comment)⟩

/-- The code of a comment: a number is put after the letters `SC`. -/
def code (comment : Comment) : Checked (Option String) :=
  match (Json.getField? "code" comment).getD .null with
  | .null => .ok none
  | .str s => .ok (some s)
  | value =>
    if value.toInt?.isSome then .ok (some ("SC" ++ value.shown))
    else Checked.inside (.key "code") (Checked.reject .notText)

/-- The finding that a comment becomes. -/
def finding (comment : Comment) : Checked Finding :=
  (code comment).map fun code =>
    { category := categoryOf ((level? comment).getD (.str "warning")).shown,
      message := ((Json.getField? "message" comment).getD (.str "")).shown,
      location := location? comment, code }

/-- The levels that occur, in ascending order. -/
def levels (comments : List Comment) : List String :=
  Shell.sortedSet (comments.map fun comment => ((level? comment).getD .null).shown)

/-- How much of what a failing linter writes is kept. -/
def detailLimit : Nat := 500

/-- The result when the linter itself fails. -/
def failure (message : String) : AnalysisResult :=
  .ofFindings .lint [{ category := .lintError, message }] []

/-- The result when the linter has failed with an error output and an exit code. -/
def failureOf (stderr : String) (code : Int) : AnalysisResult :=
  let detail := String.ofList ((Text.stripWhere Text.isBlank stderr.toList).take detailLimit)
  let shown := if detail = "" then "exit status " ++ String.ofList (Json.intText code) else detail
  failure ("ShellCheck did not produce a report: " ++ shown)

/-- The result when the linter has ended. -/
def verdict (depth : Nat) (stdout stderr : String) (code : Int) : Result AnalysisResult := do
  match ← comments? depth stdout with
  | none => .ok (failureOf stderr code)
  | some comments =>
    if 1 < code then .ok (failureOf stderr code)
    else
      let findings ← comments.mapM fun comment =>
        (finding comment).toResult "Finding" (.obj comment)
      return .ofFindings .lint findings [("levels", Json.ofStrings (levels comments))]

end ScriptVet.Lint
