import ScriptVet.Analyzer.Canned
import ScriptVet.Main
import ScriptVet.Tools.Rulebook
import ScriptVet.Proofs.Script.Content
import ScriptVet.Proofs.Tools.Answer
import ScriptVet.Proofs.Analyzer.Lint
import ScriptVet.Proofs.Json.Scalars
import ScriptVet.Proofs.Json.ReadBack
import ScriptVet.Proofs.ResultData
import ScriptVet.Proofs.Files.Walk
import ScriptVet.Proofs.Files.Folders
import ScriptVet.Proofs.CacheFiles
import ScriptVet.Proofs.Ensures
import ScriptVet.Proofs.Analyzer.Results
import ScriptVet.Proofs.Session.Turns
import ScriptVet.Proofs.Tools.Version
import ScriptVet.Proofs.Session.Analyze
import ScriptVet.Proofs.Session.Run
import ScriptVet.Proofs.Session.Soundness
import ScriptVet.Proofs.Session.Keys
import ScriptVet.Proofs.Session.Requests
import ScriptVet.Proofs.Session.Transparency
import ScriptVet.Proofs.Files.Entries
import ScriptVet.Proofs.CacheHistory
import ScriptVet.Proofs.Builder
import ScriptVet.Proofs.Session.Entries
import ScriptVet.Proofs.Session.Kinds
import ScriptVet.Proofs.Session.BuildAll
import ScriptVet.Proofs.Session.Missing
import ScriptVet.Proofs.Session.Configuration
import ScriptVet.Proofs.Session.Temporary
import ScriptVet.Proofs.TestMaps
import ScriptVet.Proofs.Session.FirstRun
import ScriptVet.Proofs.Session.Rerun
import ScriptVet.Proofs.Names
import ScriptVet.Proofs.Session.LoadFaults
import ScriptVet.Proofs.Console.Markup
import ScriptVet.Proofs.Console.Table
import ScriptVet.Proofs.Console.Display
import ScriptVet.Proofs.TestRuns
import ScriptVet.Proofs.CommandLine.Commands
import ScriptVet.Proofs.CommandLine.ExitCodes
import ScriptVet.Proofs.CommandLine.TestedBuilds
import ScriptVet.Proofs.SavedResults
import ScriptVet.Proofs.ReportData
import ScriptVet.Proofs.CommandLine.SameScript
import ScriptVet.Proofs.Analyzer.Parsing
import ScriptVet.Proofs.Shell.Found
import ScriptVet.Proofs.Analyzer.Vocabulary
import ScriptVet.Proofs.Json.Steps
import ScriptVet.Proofs.Json.Limits
import ScriptVet.Proofs.Json.Inside
import ScriptVet.Proofs.Analyzer.Comments
import ScriptVet.Proofs.Analyzer.ReportForms
import ScriptVet.Proofs.Analyzer.Places
import ScriptVet.Proofs.Shell.References
import ScriptVet.Proofs.Shell.Guards
import ScriptVet.Proofs.Shell.LineWise
import ScriptVet.Proofs.Shell.StrictLines
import ScriptVet.Proofs.Shell.Commands
import ScriptVet.Proofs.Shell.Functions
import ScriptVet.Proofs.Shell.UnsetVariables
import ScriptVet.Proofs.Session.Reports
import ScriptVet.Proofs.Session.TimesAnalyzed
import ScriptVet.Proofs.Session.SideBuilds
