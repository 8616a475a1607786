import ScriptVet.Analysis.FunctionDeps

/-!
# Variables that may have no value

Which variables a bash script assigns and uses, and advice on every variable that it uses without
having assigned or guarded it anywhere. The analysis always passes.
-/

namespace ScriptVet.VariableUsage

open Shell

/-- The advice on one variable. -/
def finding (name : String) (line : Nat) : Finding :=
  FunctionDeps.advice
    ("Variable '" ++ name ++ "' used without default value or error handling") (some line)

/-- The result for a text; `ignored` are the variables that the shell keeps itself. -/
def result (ignored : List String) (text : List Char) : AnalysisResult :=
  let loose := unguarded ignored text
  { kind := .variableUsage, status := .pass,
    findings := loose.map fun (name, line) => finding name line,
    metadata := [("assignments", Json.ofStrings (assignedNames text)),
      ("references", Json.ofStrings ((references text).map (·.1))),
      ("unguarded", Json.ofStrings (loose.map (·.1)))] }

end ScriptVet.VariableUsage
