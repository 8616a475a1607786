import ScriptVet.Report

/-!
# The gate

A build goes through the gate if none of the reports on its scripts failed.
-/

namespace ScriptVet

/-- The reports of a build so far. -/
structure Gate where
  reports : List Report := []
  deriving Repr, BEq

namespace Gate

def add (gate : Gate) (report : Report) : Gate :=
  ⟨gate.reports ++ [report]⟩

def verdict (gate : Gate) : Verdict :=
  overallVerdict (gate.reports.flatMap (·.results))

def passed (gate : Gate) : Bool :=
  gate.verdict == .pass

/-- The exit code of a build step. -/
def exitCode (gate : Gate) : Nat :=
  if gate.passed then 0 else 1

/-- The reports that failed. -/
def failures (gate : Gate) : List Report :=
  gate.reports.filter fun report => !report.passed

/-- How many scripts there were, the decision, and the scripts that failed. -/
def summary (gate : Gate) : String :=
  let failed := gate.failures.map (·.scriptName)
  "\n".intercalate <|
    ["Scripts validated: " ++ Nat.repr gate.reports.length, "Gate: " ++ gate.verdict.heading] ++
    if failed.isEmpty then [] else ["Failing scripts: " ++ ", ".intercalate failed]

@[simp] theorem reports_add (gate : Gate) (report : Report) :
    (gate.add report).reports = gate.reports ++ [report] := rfl

end Gate

end ScriptVet
