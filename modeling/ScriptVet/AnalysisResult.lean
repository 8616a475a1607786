import ScriptVet.Fault
import ScriptVet.Finding
import ScriptVet.Selection

/-!
# Results of analyses

One analyzer on one script passes, fails or is skipped. An analysis fails exactly if one of its
findings is fatal; it is skipped if it could not be made.
-/

namespace ScriptVet

inductive Status where
  | pass
  | fail
  | skipped
  deriving Repr, DecidableEq

namespace Status

def all : List Status := [.pass, .fail, .skipped]

/-- The word for a status in data and messages. -/
def word : Status → String
  | .pass => "pass"
  | .fail => "fail"
  | .skipped => "skipped"

/-- The statuses by their words. -/
def words : List (String × Status) := all.map fun s => (s.word, s)

end Status

structure AnalysisResult where
  kind : AnalyzerKind
  status : Status
  skipReason : Option String := none
  findings : List Finding := []
  /-- What else the analyzer tells, under names of its own. -/
  metadata : List (String × Json) := []
  deriving Repr, BEq

namespace AnalysisResult

/-- The result of an analysis that was made. -/
def ofFindings (kind : AnalyzerKind) (findings : List Finding)
    (metadata : List (String × Json)) : AnalysisResult :=
  { kind, findings, metadata,
    status := if findings.any (·.category.isFatal) then .fail else .pass }

/-- The result of an analysis that could not be made. -/
def skipped (kind : AnalyzerKind) (reason : String) : AnalysisResult :=
  { kind, status := .skipped, skipReason := some reason }

def failed (r : AnalysisResult) : Bool :=
  r.status == .fail

/-- The status for a reader, with the reason if the analysis was skipped for one. -/
def statusLabel (r : AnalysisResult) : String :=
  match r.status, r.skipReason.filter (· != "") with
  | .skipped, some reason => s!"skipped ({reason})"
  | status, _ => status.word

open Checked in
/-- A result from its fields. -/
def ofJson (v : Json) : Checked AnalysisResult := do
  let fields ← recordFields "AnalysisResult" v
  Except.ok AnalysisResult.mk
    |> take (required fields "analyzer_kind" (oneOf AnalyzerKind.words))
    |> take (required fields "status" (oneOf Status.words))
    |> take (withDefault fields "skip_reason" none (optional text))
    |> take (withDefault fields "findings" [] (list Finding.ofJson))
    |> take (withDefault fields "metadata" [] object)

def toJson (r : AnalysisResult) : Json :=
  .obj [("analyzer_kind", .str r.kind.word), ("status", .str r.status.word),
    ("skip_reason", Json.ofOption r.skipReason),
    ("findings", .arr (r.findings.map Finding.toJson)),
    ("metadata", .obj (Json.finiteFields r.metadata))]

/-- The fields of a result, unless its metadata is nested too deep to be given out. -/
def dump (r : AnalysisResult) : Result Json := do
  (Json.checkHeights r.metadata).mapError .unwritable
  return r.toJson

/-- A result as compact JSON. -/
def compactJson (r : AnalysisResult) : Result String := do
  (Json.checkHeights r.metadata).mapError .unwritableJson
  (Json.checkText r.toJson).mapError .unwritableJson
  return Json.render .compact r.toJson

theorem failed_ofFindings_iff {kind : AnalyzerKind} {findings : List Finding}
    {metadata : List (String × Json)} :
    (ofFindings kind findings metadata).failed ↔ ∃ f ∈ findings, f.category.isFatal := by
  simp [ofFindings, failed]

@[simp] theorem failed_skipped (kind : AnalyzerKind) (reason : String) :
    (skipped kind reason).failed = false := rfl

end AnalysisResult

end ScriptVet
