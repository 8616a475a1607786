import ScriptVet.CommandLine.Program
import ScriptVet.Proofs.Ensures
import ScriptVet.Proofs.Session.Soundness

/-!
# The stages of a command

The commands `check` and `build` first do the work in which a fault of the input comes up, and then
what only breaks them off. Here they are taken apart into these stages, and their exit code is read
off the stage in which they end.
-/

namespace ScriptVet

namespace Session

open Activity

/-- Work in a new session: what comes of it, and the machine that the session leaves. -/
theorem run_within {α : Type} (settings : Settings) (work : SessionWork α) (m : Machine) :
    (within settings work).run m =
      match start settings (builtinAnalyzers settings) m with
      | .error fault => (.error fault, m)
      | .ok s => ((work.run s).1, (work.run s).2.machine) := by
  rw [within, run_bind, run_get]
  simp only
  cases start settings (builtinAnalyzers settings) m with
  | error fault => rfl
  | ok s => simp only [run_bind, run_set, run_liftM]

/-- Work that gives a value has been done in a new session. -/
theorem exists_of_run_within {α : Type} {settings : Settings} {work : SessionWork α}
    {m m' : Machine} {a : α} (ran : (within settings work).run m = (.ok a, m')) :
    ∃ s s', start settings (builtinAnalyzers settings) m = .ok s ∧ work.run s = (.ok a, s') := by
  rw [run_within] at ran
  cases started : start settings (builtinAnalyzers settings) m with
  | error fault =>
      rw [started] at ran
      cases ran
  | ok s =>
      rw [started] at ran
      exact ⟨s, _, rfl, Prod.ext (Prod.mk.inj ran).1 rfl⟩

end Session

namespace CommandLine

open Activity

/-- The fault refuses a command: the user is told about it, and the notice can be printed. -/
def IsRefusal (fault : Fault) : Prop :=
  (Outcome.ofFault fault).exitCode = 2

instance (fault : Fault) : Decidable (IsRefusal fault) :=
  inferInstanceAs (Decidable (_ = _))

theorem isRefusal_iff {fault : Fault} :
    IsRefusal fault ↔ isToldToUser fault ∧
      ∃ notice, Console.Markup.line ("[red]Error:[/red] " ++ fault.message) = .ok notice := by
  have text : s!"[red]Error:[/red] {fault.message}" = "[red]Error:[/red] " ++ fault.message := rfl
  rw [IsRefusal, Outcome.exitCode_eq_two_iff, Outcome.ofFault, text]
  split
  · next told => cases Console.Markup.line ("[red]Error:[/red] " ++ fault.message) <;> simp [told]
  · next told => simp [told]

/-- A fault of the input is told from a failed check only if it refuses the command. -/
theorem exitCode_ofFault (fault : Fault) :
    (Outcome.ofFault fault).exitCode = if IsRefusal fault then 2 else 1 := by
  have either : (Outcome.ofFault fault).exitCode = 2 ∨ (Outcome.ofFault fault).exitCode = 1 := by
    rw [Outcome.ofFault]
    split
    · split
      · exact .inl rfl
      · exact .inr rfl
    · exact .inr rfl
  rcases either with refuses | breaks
  · rw [refuses]
    exact (if_pos refuses).symm
  · have other : ¬ IsRefusal fault := by
      rw [IsRefusal, breaks]
      decide
    rw [if_neg other, breaks]

namespace Command

/-- The code that the program exits with after a command. -/
def exitCode (command : Command Outcome) (m : Machine) : Nat :=
  match (command.run m).1 with
  | .ok outcome => outcome.exitCode
  | .error outcome => outcome.exitCode

variable {α β : Type}

/-- A command goes on after the value of the one before. -/
theorem run_bind (x : Command α) (next : α → Command β) (m : Machine) :
    (x >>= next).run m =
      match x.run m with
      | (.ok a, m) => (next a).run m
      | (.error outcome, m) => (.error outcome, m) := by
  have goesOn : (x >>= next).run m = (x.run m >>= fun pair : Except Outcome α × Machine =>
      ExceptT.bindCont next pair.1 pair.2 : Id _) := rfl
  rw [goesOn]
  rcases x.run m with ⟨result, m'⟩
  cases result <;> rfl

theorem run_refusing (work : Work α) (m : Machine) :
    (refusing work).run m = ((work.run m).1.mapError Outcome.ofFault, (work.run m).2) := rfl

theorem run_breaking (work : Work α) (m : Machine) :
    (breaking work).run m = ((work.run m).1.mapError .broken, (work.run m).2) := rfl

theorem exitCode_refusing_bind (work : Work α) (next : α → Command Outcome) (m : Machine) :
    (refusing work >>= next).exitCode m =
      match work.run m with
      | (.ok a, m) => (next a).exitCode m
      | (.error fault, _) => if IsRefusal fault then 2 else 1 := by
  rw [exitCode, run_bind, run_refusing]
  rcases work.run m with ⟨result, m'⟩
  cases result with
  | ok a => rfl
  | error fault => exact exitCode_ofFault fault

theorem exitCode_breaking_bind (work : Work α) (next : α → Command Outcome) (m : Machine) :
    (breaking work >>= next).exitCode m =
      match work.run m with
      | (.ok a, m) => (next a).exitCode m
      | (.error _, _) => 1 := by
  rw [exitCode, run_bind, run_breaking]
  rcases work.run m with ⟨result, m'⟩
  cases result <;> rfl

theorem exitCode_breaking (work : Work Outcome) (m : Machine) :
    (breaking work).exitCode m =
      match work.run m with
      | (.ok outcome, _) => outcome.exitCode
      | (.error _, _) => 1 := by
  rw [exitCode, run_breaking]
  rcases work.run m with ⟨result, m'⟩
  cases result <;> rfl

end Command

/-! ## Checking one file -/

/-- Reports on a script that has been loaded, and makes the text that is printed. -/
def CheckRequest.report (request : CheckRequest) (settings : Settings)
    (loaded : Script × Selection) : Work (Report × String) := do
  let report ← Session.within (request.adjust settings) (Session.run loaded.1 loaded.2 true)
  let stdout ← request.format.show report
  return (report, stdout)

theorem exitCode_check (request : CheckRequest) (settings : Settings) (m : Machine) :
    (check request settings).exitCode m =
      match request.load m.disk with
      | .error fault => if IsRefusal fault then 2 else 1
      | .ok loaded =>
        match ((request.report settings loaded).run m).1 with
        | .error _ => 1
        | .ok (report, _) => if report.passed then 0 else 1 := by
  rw [check, Command.exitCode_refusing_bind]
  simp only [Activity.run_bind, run_get, run_liftM]
  cases request.load m.disk with
  | error fault => rfl
  | ok loaded =>
      obtain ⟨script, selection⟩ := loaded
      simp only [Command.exitCode_breaking_bind, CheckRequest.report, Activity.run_bind]
      rcases (Session.within (request.adjust settings)
        (Session.run script selection true)).run m with ⟨result, m'⟩
      cases result with
      | error fault => rfl
      | ok report =>
          simp only [run_liftM]
          cases request.format.show report <;> rfl

/-! ## Building the scripts of a manifest -/

/-- Prints the reports on what was built, and writes them to a file if that is asked for. -/
def BuildRequest.printReports (request : BuildRequest) (outputs : List BuildOutput) :
    Work (List String × Option String) := do
  let shown ← outputs.mapM fun output => (showOutput output : Work String)
  let saved ← request.reportFile.mapM (saveReports outputs)
  return (shown, saved)

/-- Runs the tests of what was built if that is asked for. -/
def BuildRequest.testAll (request : BuildRequest) (outputs : List BuildOutput) :
    Work (Option (List (String × Verdict))) :=
  if request.runTests then some <$> (testsOf outputs).run else pure none

/-- Prints the verdicts of the tests, if they were run, and the summary. -/
def printVerdicts (outputs : List BuildOutput) (verdicts : Option (List (String × Verdict))) :
    Result (Option String × String) := do
  let tested ← verdicts.mapM Console.showVerdicts
  let summary ← Console.Markup.print (Gate.summary ⟨outputs.map (·.report)⟩)
  return (tested, summary)

/-- The verdicts of the tests that are run on what was built, all being printed. -/
def BuildRequest.verdicts (request : BuildRequest) (outputs : List BuildOutput) :
    Work (List (String × Verdict)) := do
  let _ ← request.printReports outputs
  let verdicts ← request.testAll outputs
  let _ ← printVerdicts outputs verdicts
  return verdicts.getD []

/-- All reports go through the gate, and all tests that were run pass. -/
def allWell (outputs : List BuildOutput) (verdicts : List (String × Verdict)) : Bool :=
  (Gate.mk (outputs.map (·.report))).passed && verdicts.all (·.2 == .pass)

/-- Not all went well exactly if a report or a test failed. -/
theorem allWell_eq_false_iff {outputs : List BuildOutput} {verdicts : List (String × Verdict)} :
    allWell outputs verdicts = false ↔
      (∃ output ∈ outputs, output.report.verdict = .fail) ∨
        ∃ verdict ∈ verdicts, verdict.2 = .fail := by
  let gate : Gate := ⟨outputs.map (·.report)⟩
  have reports : gate.passed = false ↔ ∃ output ∈ outputs, output.report.verdict = .fail := by
    have code : gate.passed = false ↔ gate.exitCode = 1 := by
      rw [Gate.exitCode]
      cases gate.passed <;> decide
    rw [code, Gate.exitCode_eq_one_iff, Gate.failures_ne_nil_iff]
    simp [gate]
  have tests : verdicts.all (·.2 == .pass) = false ↔
      ∃ verdict ∈ verdicts, verdict.2 = .fail := by
    have either (verdict : Verdict) : (verdict == .pass) = false ↔ verdict = .fail := by
      cases verdict <;> decide
    simp only [List.all_eq_false, Bool.not_eq_true, either]
  rw [allWell, Bool.and_eq_false_iff]
  exact or_congr reports tests

/-- The command in its stages. -/
theorem build_eq (request : BuildRequest) (settings : Settings) :
    build request settings = (do
      let outputs ← Command.refusing (request.outputs settings)
      Command.breaking do
        let (shown, saved) ← request.printReports outputs
        let verdicts ← request.testAll outputs
        let (tested, summary) ← printVerdicts outputs verdicts
        let stdout := String.join shown ++ saved.getD "" ++ tested.getD "" ++ "\n" ++ summary
        return .finished stdout (allWell outputs (verdicts.getD []))) := by
  rw [build]
  congr 1
  funext outputs
  congr 1
  simp only [BuildRequest.printReports, BuildRequest.testAll, printVerdicts, bind_assoc, pure_bind]
  have given {α : Type} (a : α) : (liftM (Except.ok a : Result α) : Work α) = pure a := rfl
  cases request.runTests with
  | false => simp [liftM_bind, given, allWell]
  | true => simp [liftM_bind, given, allWell]

theorem exitCode_build (request : BuildRequest) (settings : Settings) (m : Machine) :
    (build request settings).exitCode m =
      match (request.outputs settings).run m with
      | (.error fault, _) => if IsRefusal fault then 2 else 1
      | (.ok outputs, m) =>
        match ((request.verdicts outputs).run m).1 with
        | .error _ => 1
        | .ok verdicts => if allWell outputs verdicts then 0 else 1 := by
  rw [build_eq, Command.exitCode_refusing_bind]
  rcases (request.outputs settings).run m with ⟨result, m1⟩
  cases result with
  | error fault => rfl
  | ok outputs =>
      simp only [Command.exitCode_breaking, BuildRequest.verdicts, Activity.run_bind]
      rcases (request.printReports outputs).run m1 with ⟨_ | ⟨shown, saved⟩, m2⟩
      · rfl
      simp only
      rcases (request.testAll outputs).run m2 with ⟨_ | verdicts, m3⟩
      · rfl
      simp only [run_liftM]
      cases printVerdicts outputs verdicts <;> rfl

/-- The program exits with the code of the command that its arguments ask for. -/
theorem exitCode_run (working : Path) (environment : List (String × String))
    (arguments : List String) (m : Machine) :
    ((run working environment arguments).run m).1.exitCode =
      (dispatch working environment arguments).exitCode m := by
  rw [Command.exitCode]
  change (match ((dispatch working environment arguments).run m).1 with
    | .ok outcome => pure outcome
    | .error outcome => pure outcome : StateM Machine Outcome)
      ((dispatch working environment arguments).run m).2 |>.1.exitCode = _
  rcases (dispatch working environment arguments).run m with ⟨result, m'⟩
  cases result <;> rfl

end CommandLine

end ScriptVet
