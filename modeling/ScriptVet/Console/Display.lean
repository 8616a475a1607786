import ScriptVet.Console.Table
import ScriptVet.Report
import ScriptVet.Settings
import ScriptVet.Tools.Toolbox

/-!
# What the console shows

Reports, outcomes of tests and the configured tools, as they are printed for a reader. The texts are
marked up in colors: what passes is green, what fails red and what was skipped yellow.
-/

namespace ScriptVet

/-- A text in a style. -/
def styled (style text : String) : String :=
  s!"[{style}]{text}[/{style}]"

def Verdict.color : Verdict → String
  | .pass => "green"
  | .fail => "red"

def Status.color : Status → String
  | .pass => "green"
  | .fail => "red"
  | .skipped => "yellow"

namespace Console

/-- The line above a report. -/
def reportHeading (report : Report) : String :=
  "\n" ++ styled "bold" report.scriptName ++ s!" ({report.language}): " ++
    styled report.verdict.color report.verdict.heading

/-- A row for each result. -/
def resultTable (results : List AnalysisResult) : Table where
  columns := [⟨"Analyzer", .left⟩, ⟨"Status", .center⟩, ⟨"Findings", .right⟩]
  rows := results.map fun r =>
    [r.kind.word, styled r.status.color r.statusLabel, Nat.repr r.findings.length]

/-- A line for each finding of a result. -/
def findingLines (r : AnalysisResult) : List String :=
  r.findings.map fun finding => "  " ++ styled "dim" r.kind.word ++ " " ++ finding.format

/-- A report: its heading, a table of the results, and the findings. -/
def showReport (report : Report) : Result String := do
  let heading ← Markup.print (reportHeading report)
  let table ← (resultTable report.results).render
  let findings ← (report.results.flatMap findingLines).mapM Markup.print
  return heading ++ table ++ String.join findings

/-- The outcomes of tests, in a table. -/
def showVerdicts (verdicts : List (String × Verdict)) : Result String :=
  Table.render {
    columns := [⟨"Test", .left⟩, ⟨"Outcome", .center⟩]
    rows := verdicts.map fun (id, verdict) => [id, styled verdict.color verdict.word] }

/-- A tool is there, or why it is not. -/
def toolStatus (config : ToolConfig) (found : Option String) : String :=
  if !config.enabled then styled "red" "Disabled"
  else if found.isSome then styled "green" "Available"
  else styled "yellow" "Not found"

/-- The row of a tool. -/
def toolRow (toolbox : Toolbox) (name : String) (config : ToolConfig) : List String :=
  let found := (toolbox.which config.executable).filter (· != "")
  [name, toolStatus config found, found.getD config.executable,
    config.bound?.elim "-" fun n => String.ofList (Json.intText n) ++ "s"]

/-- The configured tools, in a table below a heading. -/
def showTools (toolbox : Toolbox) (settings : Settings) : Result String := do
  let heading ← Markup.print ("\n" ++ styled "bold" "External Tools:" ++ "\n")
  let table ← Table.render {
    columns := [⟨"Tool", .left⟩, ⟨"Status", .center⟩, ⟨"Executable", .left⟩, ⟨"Timeout", .right⟩]
    rows := settings.tools.map fun (name, config) => toolRow toolbox name config }
  return heading ++ table

end Console

end ScriptVet
