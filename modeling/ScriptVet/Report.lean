import ScriptVet.AnalysisResult
import ScriptVet.Script

/-!
# Reports

The report on a script lists the results of its analyses in the order of their kinds. It fails
exactly if one of them failed; an analysis that was skipped never makes it fail.
-/

namespace ScriptVet

/-- The decision on a report or a build, and the outcome of a test. -/
inductive Verdict where
  | pass
  | fail
  deriving Repr, DecidableEq

namespace Verdict

/-- The word for a verdict in data and messages. -/
def word : Verdict → String
  | .pass => "pass"
  | .fail => "fail"

/-- The word in capitals. -/
def heading : Verdict → String
  | .pass => "PASS"
  | .fail => "FAIL"

def ofFailed (failed : Bool) : Verdict :=
  if failed then .fail else .pass

/-- The verdicts by their words. -/
def words : List (String × Verdict) := [("pass", .pass), ("fail", .fail)]

end Verdict

/-- Fails if any of the results does. -/
def overallVerdict (results : List AnalysisResult) : Verdict :=
  .ofFailed (results.any (·.failed))

structure Report where
  scriptName : String
  fingerprint : String
  language : String
  results : List AnalysisResult := []
  deriving Repr, BEq

namespace Report

def verdict (report : Report) : Verdict :=
  overallVerdict report.results

def passed (report : Report) : Bool :=
  report.verdict == .pass

def failedResults (report : Report) : List AnalysisResult :=
  report.results.filter (·.failed)

/-- All findings, in the order of the results. -/
def findings (report : Report) : List Finding :=
  report.results.flatMap (·.findings)

/-- The first result of a kind. -/
def resultFor (report : Report) (kind : AnalyzerKind) : Option AnalysisResult :=
  report.results.find? (·.kind == kind)

/-- How many findings of a category there are. -/
def count (report : Report) (category : Category) : Nat :=
  report.findings.countP (·.category == category)

/-- The categories that occur, in the order in which they first do, and how often. -/
def countByCategory (report : Report) : List (Category × Nat) :=
  (report.findings.map (·.category)).eraseDups.map fun c => (c, report.count c)

/-- The results in the order of their kinds; results of one kind keep their order. -/
def inOrder (results : List AnalysisResult) : List AnalysisResult :=
  results.mergeSort fun a b => a.kind.rank ≤ b.kind.rank

/-- The report on a script from the results of its analyses, in whatever order they come. -/
def aggregate (script : Script) (results : List AnalysisResult) : Report :=
  ⟨script.name, script.fingerprint, script.displayLanguage, inOrder results⟩

/-- The lines about one result. -/
def resultLines (r : AnalysisResult) : List String :=
  s!"[{r.statusLabel}] {r.kind.word}" :: r.findings.map fun f => "  - " ++ f.format

/-- The lines that count the findings, if there are any. -/
def countLines (report : Report) : List String :=
  if report.findings.isEmpty then []
  else
    "" :: "Findings Summary:" ::
      (Category.all.filter fun c => report.count c != 0).map fun c =>
        s!"  - {c.word}: " ++ Nat.repr (report.count c)

/-- The report for a reader. -/
def summary (report : Report) : String :=
  "\n".intercalate <|
    [s!"Validation Report for {report.scriptName} ({report.language})",
      "Status: " ++ report.verdict.heading, ""] ++
    report.results.flatMap resultLines ++ report.countLines

open Checked in
/-- A report from its fields. -/
def ofJson (v : Json) : Checked Report := do
  let fields ← recordFields "ValidationReport" v
  Except.ok Report.mk
    |> take (required fields "script_id" text)
    |> take (required fields "fingerprint" text)
    |> take (required fields "language" text)
    |> take (withDefault fields "results" [] (list AnalysisResult.ofJson))

def toJson (report : Report) : Json :=
  .obj [("script_id", .str report.scriptName), ("fingerprint", .str report.fingerprint),
    ("language", .str report.language),
    ("results", .arr (report.results.map AnalysisResult.toJson)),
    ("overall_status", .str report.verdict.word)]

/-- The fields of a report, unless the metadata of a result is nested too deep to be given out. -/
def dump (report : Report) : Result Json := do
  report.results.forM fun r => (Json.checkHeights r.metadata).mapError .unwritable
  return report.toJson

/-- A report as JSON with a line for every field. -/
def indentedJson (report : Report) : Result String := do
  report.results.forM fun r => (Json.checkHeights r.metadata).mapError .unwritableJson
  (Json.checkText report.toJson).mapError .unwritableJson
  return Json.render .indented report.toJson

/-- A report fails exactly if one of its results did. -/
theorem verdict_eq_fail_iff {report : Report} :
    report.verdict = .fail ↔ ∃ r ∈ report.results, r.failed := by
  simp only [verdict, overallVerdict, Verdict.ofFailed]
  split <;> simp_all

end Report

end ScriptVet
