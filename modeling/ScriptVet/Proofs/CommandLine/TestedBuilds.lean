import ScriptVet.Proofs.CommandLine.Commands
import ScriptVet.Proofs.Console.Display
import ScriptVet.Proofs.TestRuns

/-!
# Builds whose tests are run

A build that runs its tests first prints the reports. If that goes well then each test is run once,
in the order of their ids, and the exit code tells whether all reports and all tests pass. But a
report holds texts that are printed as if they were marked up. Where such a text ends a style that
has not begun the build is broken off, so that no test is run and the exit code is that of a failure
even if there is none.
-/

namespace ScriptVet

open Activity

/-- The report can be shown as it is, and so can the place of the built file. -/
structure BuildOutput.IsPlain (output : BuildOutput) : Prop where
  report : output.report.IsPlain
  path : Console.IsPlain output.artifact.path.toString.toList

instance (output : BuildOutput) : Decidable output.IsPlain :=
  decidable_of_iff (output.report.IsPlain ∧ Console.IsPlain output.artifact.path.toString.toList)
    ⟨fun ⟨report, path⟩ => ⟨report, path⟩, fun h => ⟨h.report, h.path⟩⟩

namespace CommandLine

variable {request : BuildRequest} {settings : Settings} {outputs : List BuildOutput}
  {m built printed : Machine}

/-! ## Printing -/

theorem exists_showOutput {output : BuildOutput} (named : Checked.isName output.report.scriptName)
    (plain : output.IsPlain) : ∃ shown, showOutput output = .ok shown := by
  obtain ⟨report, reports⟩ := Console.exists_showReport named plain.report
  have parts : ("  artifact: " ++ styled "cyan" output.artifact.path.toString).toList =
      "  artifact: ".toList ++ (styled "cyan" output.artifact.path.toString).toList ++ [] := by
    simp
  have empty : Console.IsPlain [] := by decide
  have settles : Console.Markup.Settles Console.IsWhole
      ("  artifact: " ++ styled "cyan" output.artifact.path.toString).toList {} := by
    rw [parts]
    exact Console.Markup.settles_between Console.Markup.State.isSettled_empty (by decide)
      (by decide) plain.path fun next settled => Console.Markup.settles_plain settled empty.shows
  obtain ⟨artifact, places⟩ := Console.Markup.exists_print_of_settles settles
  simp only [showOutput, reports, places, Result.ok_bind]
  exact ⟨_, rfl⟩

theorem run_mapM_liftM {α β : Type} (show? : α → Result β) (as : List α) (m : Machine) :
    (as.mapM fun a => (show? a : Work β)).run m = (as.mapM show?, m) := by
  induction as with
  | nil => rfl
  | cons a as ih =>
      rw [List.mapM_cons, List.mapM_cons, run_bind, run_liftM]
      cases show? a with
      | error fault => rfl
      | ok b =>
          simp only [run_bind, ih, Result.ok_bind]
          cases as.mapM show? <;> rfl

theorem exists_showOutputs (named : ∀ output ∈ outputs, Checked.isName output.report.scriptName)
    (plain : ∀ output ∈ outputs, output.IsPlain) :
    ∃ shown, outputs.mapM showOutput = .ok shown := by
  have each : ∀ output ∈ outputs, ∃ shown, showOutput output = .ok shown ∧ True := by
    intro output houtput
    obtain ⟨shown, shows⟩ := exists_showOutput (named output houtput) (plain output houtput)
    exact ⟨shown, shows, trivial⟩
  obtain ⟨shown, shows, -⟩ := Result.exists_mapM_eq_ok each
  exact ⟨shown, shows⟩

/-- What is printed about a file that reports were written to. -/
def savedLine (file : Path) : String :=
  "\n" ++ styled "green" "✓" ++ s!" Report saved to: {file}"

/-- Reports are written to their file before anything is said about it. -/
theorem run_saveReports (outputs : List BuildOutput) (file : Path) (m : Machine) :
    (saveReports outputs file).run m =
      match m.disk.write file (Text.Utf8.encodeString (reportsText outputs)) with
      | .error e => (.error (.disk e), m)
      | .ok disk => (Console.Markup.print (savedLine file), { m with disk }) := by
  rw [saveReports, run_bind, Activity.run, Work.onDisk_apply]
  cases m.disk.write file (Text.Utf8.encodeString (reportsText outputs)) with
  | error e => rfl
  | ok disk => exact run_liftM _ _

theorem toList_savedLine (file : Path) : (savedLine file).toList =
    "\n".toList ++ (styled "green" "✓").toList ++
      (" Report saved to: ".toList ++ file.toString.toList) := by
  simp [savedLine, toString]

/-- A plain path is printed after reports were written to its file. -/
theorem exists_print_savedLine {file : Path} (plain : Console.IsPlain file.toString.toList) :
    ∃ shown, Console.Markup.print (savedLine file) = .ok shown := by
  apply Console.Markup.exists_print_of_settles
  rw [toList_savedLine]
  apply Console.Markup.settles_between Console.Markup.State.isSettled_empty (by decide) (by decide)
    (by decide)
  intro next settled
  exact Console.Markup.settles_plain settled (Console.IsPlain.append (by decide) plain).shows

/-- A path with a tag that ends a style is not. -/
theorem exists_print_savedLine_error {file : Path} {front body after : List Char}
    (tagged : file.toString.toList = front ++ '[' :: '/' :: (body ++ ']' :: after))
    (plain : '[' ∉ front ∧ '\\' ∉ front) (inner : ∀ d ∈ body, Console.Piece.isTagInner d) :
    ∃ fault, Console.Markup.print (savedLine file) = .error fault := by
  have words : '[' ∉ " Report saved to: ".toList ∧ '\\' ∉ " Report saved to: ".toList := by decide
  apply Console.Markup.exists_print_error_of_breaks
  rw [toList_savedLine, tagged, ← List.append_assoc " Report saved to: ".toList]
  apply Console.Markup.breaks_styled (P := fun _ => True) Console.Markup.State.isSettled_empty
    (Console.Style.isName_of_mem (by decide)) ⟨.any (by decide), by decide⟩
    ⟨.any (by decide), by decide⟩
  intro next settled
  refine Console.Markup.breaks_stray settled.closed ⟨?_, ?_⟩ inner after
  · exact List.mem_append.not.mpr (not_or.mpr ⟨words.1, plain.1⟩)
  · exact List.mem_append.not.mpr (not_or.mpr ⟨words.2, plain.2⟩)

/-- Reports are printed before they are saved, and saved only if that is asked for. -/
theorem run_printReports (request : BuildRequest) (outputs : List BuildOutput) (m : Machine) :
    (request.printReports outputs).run m =
      match outputs.mapM showOutput with
      | .error fault => (.error fault, m)
      | .ok shown =>
        match request.reportFile with
        | none => (.ok (shown, none), m)
        | some file =>
          (((saveReports outputs file).run m).1.map fun saved => (shown, some saved),
            ((saveReports outputs file).run m).2) := by
  rw [BuildRequest.printReports, run_bind, run_mapM_liftM]
  cases outputs.mapM showOutput with
  | error fault => rfl
  | ok shown =>
      cases request.reportFile with
      | none => rfl
      | some file =>
          simp only [Option.mapM_some, map_eq_pure_bind, run_bind]
          rcases (saveReports outputs file).run m with ⟨_ | saved, m'⟩ <;> rfl

/-- Plain reports are printed, and that changes nothing on the machine. -/
theorem exists_printReports (unsaved : request.reportFile = none)
    (named : ∀ output ∈ outputs, Checked.isName output.report.scriptName)
    (plain : ∀ output ∈ outputs, output.IsPlain) :
    ∃ shown, (request.printReports outputs).run m = (.ok (shown, none), m) := by
  obtain ⟨shown, shows⟩ := exists_showOutputs named plain
  refine ⟨shown, ?_⟩
  rw [run_printReports, shows, unsaved]

/-- No reports are printed if the line above one of them cannot be. -/
theorem exists_printReports_error {output : BuildOutput} (h : output ∈ outputs)
    (fails : (Console.Markup.print (Console.reportHeading output.report)).isOk = false) :
    ∃ fault, (request.printReports outputs).run m = (.error fault, m) := by
  obtain ⟨fault, unread⟩ : ∃ fault, showOutput output = .error fault := by
    rw [showOutput, Console.showReport]
    cases heading : Console.Markup.print (Console.reportHeading output.report) with
    | error fault => exact ⟨fault, rfl⟩
    | ok shown =>
        rw [heading] at fails
        cases fails
  obtain ⟨fault', none⟩ := Result.exists_mapM_eq_error h unread
  exact ⟨fault', by rw [run_printReports, none]⟩

/-- Printing reports begins no analysis. -/
theorem analyses_printReports (request : BuildRequest) (outputs : List BuildOutput) (m : Machine) :
    ((request.printReports outputs).run m).2.analyses = m.analyses := by
  rw [run_printReports]
  cases outputs.mapM showOutput with
  | error fault => rfl
  | ok shown =>
      cases request.reportFile with
      | none => rfl
      | some file =>
          simp only [run_saveReports]
          cases m.disk.write file (Text.Utf8.encodeString (reportsText outputs)) <;> rfl

/-- The summary of a build is always printed. -/
theorem exists_summary (named : ∀ output ∈ outputs, Checked.isName output.report.scriptName) :
    ∃ shown, Console.Markup.print (Gate.summary ⟨outputs.map (·.report)⟩) = .ok shown := by
  have summary : Console.IsPlain (Gate.summary ⟨outputs.map (·.report)⟩).toList := by
    refine Gate.isPlain_summary fun report hreport => ?_
    obtain ⟨output, houtput, rfl⟩ := List.mem_map.mp hreport
    exact named output houtput
  exact Console.Markup.exists_print_of_settles (Console.Markup.settles_of_isPlain summary)

theorem exists_printVerdicts {verdicts : List (String × Verdict)}
    (named : ∀ output ∈ outputs, Checked.isName output.report.scriptName)
    (plain : ∀ pair ∈ verdicts, Console.IsPlain pair.1.toList) :
    ∃ shown, printVerdicts outputs (some verdicts) = .ok shown := by
  obtain ⟨tested, tests⟩ := Console.exists_showVerdicts plain
  obtain ⟨shown, sums⟩ := exists_summary named
  refine ⟨(some tested, shown), ?_⟩
  rw [printVerdicts, Option.mapM_some, tests, Result.map_ok, Result.ok_bind, sums]
  rfl

/-! ## What is built -/

/-- The session in which scripts are built, and the descriptors of these scripts. -/
theorem exists_of_run_outputs (builds : (request.outputs settings).run m = (.ok outputs, built)) :
    ∃ descriptors s s', Manifest.load m.disk request.manifest = .ok descriptors ∧
      Session.start (request.adjust settings)
        (Session.builtinAnalyzers (request.adjust settings)) m = .ok s ∧
      (Session.buildAll descriptors (some request.manifest.parent)).run s = (.ok outputs, s') := by
  obtain ⟨_, _, got, loads⟩ := run_bind_eq_ok.mp builds
  cases got
  obtain ⟨descriptors, _, loaded, builds⟩ := run_bind_eq_ok.mp loads
  rw [run_liftM] at loaded
  obtain ⟨listed, rfl⟩ := Prod.mk.inj loaded
  obtain ⟨s, s', started, ran⟩ := Session.exists_of_run_within builds
  exact ⟨descriptors, s, s', listed, started, ran⟩

/-- The scripts of the manifest have different names, and what is built of each of them is its
own. -/
theorem isOf_of_run_outputs (builds : (request.outputs settings).run m = (.ok outputs, built)) :
    ∃ descriptors, Manifest.load m.disk request.manifest = .ok descriptors ∧
      (descriptors.map (·.name)).Nodup ∧
      List.Forall₂ (BuildOutput.IsOf (request.adjust settings)) descriptors outputs := by
  obtain ⟨descriptors, s, s', listed, started, ran⟩ := exists_of_run_outputs builds
  have holds : s.Holds (request.adjust settings) (fun _ => True) fun _ => True :=
    Session.holds_of_start started trivial trivial
  exact ⟨descriptors, listed, Session.isOf_of_buildAll holds
    (fun d hd => Manifest.isName_of_load listed hd) ran⟩

/-! ## The stages of a build -/

section

variable (builds : (request.outputs settings).run m = (.ok outputs, built))

include builds

/-- A build whose reports cannot be printed ends as a failed one does, and runs no test. -/
theorem run_build_of_unprinted {fault : Fault}
    (prints : (request.printReports outputs).run built = (.error fault, printed)) :
    (build request settings).run m = (.error (.broken fault), printed) := by
  rw [build_eq, Command.run_bind, Command.run_refusing, builds]
  simp only [Except.mapError, Command.run_breaking, run_bind, prints]

/-- A build whose reports are printed runs its tests and then prints the verdicts. -/
theorem run_build_of_printed {shown : List String × Option String} {ended : Machine}
    {verdicts : List (String × Verdict)} {last : Option String × String}
    (asked : request.runTests)
    (prints : (request.printReports outputs).run built = (.ok shown, printed))
    (tests : (testsOf outputs).run.run printed = (.ok verdicts, ended))
    (closes : printVerdicts outputs (some verdicts) = .ok last) :
    ∃ stdout, (build request settings).run m =
      (.ok (.finished stdout (allWell outputs verdicts)), ended) := by
  have all : (request.testAll outputs).run printed = (.ok (some verdicts), ended) := by
    rw [BuildRequest.testAll, if_pos asked, map_eq_pure_bind, run_bind, tests]
    rfl
  rw [build_eq, Command.run_bind, Command.run_refusing, builds]
  simp only [Except.mapError, Command.run_breaking, run_bind, prints, all, run_liftM, closes]
  exact ⟨_, rfl⟩

end

theorem allWell_eq_true_iff {verdicts : List (String × Verdict)} :
    allWell outputs verdicts = true ↔
      (∀ output ∈ outputs, output.passed) ∧ ∀ pair ∈ verdicts, pair.2 = .pass := by
  have either (verdict : Verdict) : ¬ verdict = .fail ↔ verdict = .pass := by
    cases verdict <;> decide
  have passes (output : BuildOutput) : output.passed ↔ output.report.verdict = .pass := by
    simp [BuildOutput.passed, Report.passed]
  rw [← Bool.not_eq_false, allWell_eq_false_iff]
  simp only [not_or, not_exists, not_and, either, passes]

theorem isName_of_isOf {descriptors : List Descriptor}
    (isOf : List.Forall₂ (BuildOutput.IsOf settings) descriptors outputs)
    (named : ∀ d ∈ descriptors, Checked.isName d.name) :
    ∀ output ∈ outputs, Checked.isName output.report.scriptName := by
  induction isOf with
  | nil => simp
  | cons is _ ih =>
      rw [List.forall_mem_cons] at named ⊢
      refine ⟨?_, ih named.2⟩
      rw [is.report]
      exact named.1

/-- What a build does with the tests of its scripts, once all of them are built. The scripts are
those of the manifest. If the reports are printed, as they always are if they are plain and not to
be written to a file, and no test ends in a fault, then the tests that are run are one for each
script and each kind to be tested, in the order of their ids, nothing comes after them, and the exit
code is zero exactly if all reports and all of these tests pass. If the reports cannot be printed
then the exit code is one and nothing is analyzed any more. The kinds to be tested are those in the
report exactly if the parse check is one of these and all of them are switched on. -/
theorem exitCode_of_tests (asked : request.runTests)
    (builds : (request.outputs settings).run m = (.ok outputs, built)) :
    ∃ descriptors, Manifest.load m.disk request.manifest = .ok descriptors ∧
      (descriptors.map (·.name)).Nodup ∧
      List.Forall₂ (fun d output => output.artifact.name = d.name ∧
        output.report.scriptName = d.name) descriptors outputs ∧
      (∀ shown printed verdicts ended,
        (request.printReports outputs).run built = (.ok shown, printed) →
        (testsOf outputs).run.run printed = (.ok verdicts, ended) →
        ∃ executed, TestsRun executed printed ended ∧
          (executed.map Prod.fst).Perm
            (testsByKind (request.adjust settings) descriptors outputs) ∧
          (executed.map fun pair => pair.1.id).Pairwise (· < ·) ∧
          verdicts = executed.map (fun pair => (pair.1.id, pair.2)) ∧
          ((build request settings).run m).2 = ended ∧
          (build request settings).exitCode m =
            if (∀ output ∈ outputs, output.passed) ∧ ∀ pair ∈ executed, pair.2 = .pass
            then 0 else 1) ∧
      (∀ fault printed, (request.printReports outputs).run built = (.error fault, printed) →
        (build request settings).exitCode m = 1 ∧
          ((build request settings).run m).2.analyses = built.analyses) ∧
      (request.reportFile = none → (∀ output ∈ outputs, output.IsPlain) →
        ∃ shown, (request.printReports outputs).run built = (.ok shown, built)) ∧
      ∀ pair ∈ descriptors.zip outputs,
        (∀ kind, kind ∈ TestMap.kinds pair.2.report pair.1.selection ↔
            ∃ r ∈ pair.2.report.results, r.kind = kind) ↔
          (∃ r ∈ pair.2.report.results, r.kind = .parses) ∧
            ∀ r ∈ pair.2.report.results, pair.1.selection.isEnabled r.kind := by
  obtain ⟨descriptors, listed, distinct, isOf⟩ := isOf_of_run_outputs builds
  have isName : ∀ d ∈ descriptors, Checked.isName d.name :=
    fun d hd => Manifest.isName_of_load listed hd
  have named := isName_of_isOf isOf isName
  refine ⟨descriptors, listed, distinct, isOf.imp fun d output is => ⟨is.artifact, is.report⟩,
    fun shown printed verdicts ended prints tests => ?_, fun fault printed prints => ?_,
    fun unsaved plain => ?_, fun pair _ => TestMap.mem_kinds_iff_reported rfl⟩
  · obtain ⟨executed, runs, perm, ascending, rfl⟩ := testsRun_of_run isOf distinct tests
    have plain : ∀ pair ∈ executed.map fun pair => (pair.1.id, pair.2),
        Console.IsPlain pair.1.toList := by
      intro pair hpair
      obtain ⟨ran, hran, rfl⟩ := List.mem_map.mp hpair
      obtain ⟨d, hd, kind, id⟩ :=
        exists_of_mem_testsByKind isOf (perm.mem_iff.mp (List.mem_map_of_mem hran))
      rw [id]
      exact TestCase.isPlain_idFor (isName d hd) kind
    obtain ⟨last, closes⟩ := exists_printVerdicts named plain
    obtain ⟨stdout, ran⟩ := run_build_of_printed builds asked prints tests closes
    refine ⟨executed, runs, perm, ascending, rfl, by rw [ran], ?_⟩
    rw [Command.exitCode, ran]
    simp only [Outcome.exitCode, allWell_eq_true_iff, List.forall_mem_map]
  · have ran := run_build_of_unprinted builds prints
    have same := analyses_printReports request outputs built
    rw [prints] at same
    rw [Command.exitCode, ran]
    exact ⟨rfl, same⟩
  · obtain ⟨shown, prints⟩ := exists_printReports unsaved named plain
    exact ⟨_, prints⟩

/-- A machine with the manifest `m.json`, on which every command ends well. -/
def machineWith (manifest : String) : Machine :=
  { Machine.answering (.finished [] [] 0) with
    disk := ⟨[], [(["m.json"], .file (Text.Utf8.encodeString manifest) false)]⟩ }

/-- The request to build the scripts of the manifest `m.json` and to run their tests. -/
def BuildRequest.tested : BuildRequest :=
  ⟨.ofString "m.json", none, none, true⟩

/-- What is built of the scripts of the manifest passes a check. -/
def builtPasses (manifest : String) (check : List BuildOutput → Machine → Bool) : Bool :=
  match (BuildRequest.tested.outputs .atRoot).run (machineWith manifest) with
  | (.ok outputs, built) => check outputs built
  | (.error _, _) => false

theorem exists_outputs_of_builtPasses {manifest : String}
    {check : List BuildOutput → Machine → Bool} (h : builtPasses manifest check) :
    ∃ outputs built, (BuildRequest.tested.outputs .atRoot).run (machineWith manifest) =
      (.ok outputs, built) ∧ check outputs built := by
  rw [builtPasses] at h
  split at h
  · next outputs built ran => exact ⟨outputs, built, ran, h⟩
  · cases h

/-- A manifest with two scripts, of which the name of the first goes on after a hyphen. -/
def hyphenated : String :=
  "[\x7b\"name\": \"a-b\", \"language\": \"text\", \"text\": \"x\"\x7d, " ++
    "\x7b\"name\": \"a\", \"language\": \"python\", \"text\": \"x\"\x7d]"

theorem exitCode_of_two_scripts :
    ∃ outputs built, (BuildRequest.tested.outputs .atRoot).run (machineWith hyphenated) =
        (.ok outputs, built) ∧
      (∃ executed ended, TestsRun executed built ended ∧
        executed.map (fun pair => (pair.1.id, pair.2)) =
          [("script-a-b-syntax", .pass), ("script-a-syntax", .pass)]) ∧
      (build .tested .atRoot).exitCode (machineWith hyphenated) = 0 := by
  let verdicts : List (String × Verdict) :=
    [("script-a-b-syntax", .pass), ("script-a-syntax", .pass)]
  have evaluated : builtPasses hyphenated fun outputs built =>
      (∀ output ∈ outputs, output.IsPlain ∧ output.passed) ∧
        (testsOf outputs).Pairwise (fun a b => a.1 ≤ b.1) ∧
        (((testsOf outputs).mapM fun test => do
          return (test.1, ← test.2.run) : Work (List (String × Verdict))).run built).1.toOption =
            some verdicts := by
    decide +kernel
  obtain ⟨outputs, built, ran, passes⟩ := exists_outputs_of_builtPasses evaluated
  obtain ⟨good, sorted, given⟩ := of_decide_eq_true passes
  obtain ⟨descriptors, -, -, -, tests, -, prints, -⟩ := exitCode_of_tests rfl ran
  obtain ⟨shown, printed⟩ := prints rfl fun output houtput => (good output houtput).1
  rw [← TestMap.run_of_sorted sorted] at given
  rcases run : (testsOf outputs).run.run built with ⟨_ | given', ended⟩
  · rw [run] at given
    cases given
  · rw [run] at given
    obtain rfl := Option.some.inj given
    obtain ⟨executed, runs, -, -, same, -, code⟩ := tests _ _ _ _ printed run
    refine ⟨outputs, built, ran, ⟨executed, ended, runs, same.symm⟩, ?_⟩
    have pass : ∀ pair ∈ executed, pair.2 = .pass := by
      have all : ∀ verdict ∈ verdicts, verdict.2 = .pass := by decide
      rw [same, List.forall_mem_map] at all
      exact all
    rw [code, if_pos ⟨fun output houtput => (good output houtput).2, pass⟩]

/-- A manifest with a script in a language whose name ends a style. -/
def strayTag : String :=
  "[\x7b\"name\": \"a\", \"language\": \"[/b]\", \"text\": \"x\"\x7d]"

/-- Every report and every test passes, but the build is broken off before any test is run. -/
theorem exitCode_of_stray_tag :
    ∃ outputs built, (BuildRequest.tested.outputs .atRoot).run (machineWith strayTag) =
        (.ok outputs, built) ∧
      (∀ output ∈ outputs, output.passed) ∧
      ((testsOf outputs).run.run built).1.toOption = some [("script-a-syntax", .pass)] ∧
      (build .tested .atRoot).exitCode (machineWith strayTag) = 1 ∧
      ((build .tested .atRoot).run (machineWith strayTag)).2.analyses = built.analyses := by
  have evaluated : builtPasses strayTag fun outputs built =>
      (∀ output ∈ outputs, output.passed) ∧
        ((testsOf outputs).run.run built).1.toOption = some [("script-a-syntax", .pass)] ∧
        ∃ output ∈ outputs,
          (Console.Markup.print (Console.reportHeading output.report)).isOk = false := by
    decide +kernel
  obtain ⟨outputs, built, ran, passes⟩ := exists_outputs_of_builtPasses evaluated
  obtain ⟨passed, tests, output, member, fails⟩ := of_decide_eq_true passes
  obtain ⟨fault, prints⟩ := exists_printReports_error member fails
  have ends := run_build_of_unprinted ran prints
  refine ⟨outputs, built, ran, passed, tests, ?_, ?_⟩
  · rw [Command.exitCode, ends]
    rfl
  · rw [ends]

end CommandLine

end ScriptVet
