import ScriptVet.Analyzer.Builtin
import ScriptVet.Proofs.Tools.Answer

/-!
# What the analyses come to

The result of an analysis by a built-in analyzer is a function of the settings, the script and a
small view of the machine: the tools, the mark in the names of temporary folders, and whether the
folder for them can be made. What else happened on the machine before does not matter, nor does what
happens on it while a tool is waited for.
-/

namespace ScriptVet.Analyzer

open Activity

/-- What analyses see of a machine. -/
structure View where
  toolbox : Toolbox
  mark : String
  /-- The folder for temporary ones can be made, or why it cannot. -/
  temporary : Result Unit

/-- What analyses with some settings see of a machine. -/
def view (settings : Settings) (m : Machine) : View where
  toolbox := m.toolbox
  mark := m.temporaryMark
  temporary :=
    match m.disk.ensureFolders settings.tempDir with
    | .ok _ => .ok ()
    | .error e => .error (.disk e)

theorem temporary_view_eq_ok_iff {settings : Settings} {m : Machine} :
    (view settings m).temporary = .ok () ↔ (m.disk.ensureFolders settings.tempDir).isOk := by
  rw [view]
  cases m.disk.ensureFolders settings.tempDir with
  | ok disk => exact iff_of_true rfl rfl
  | error e => exact iff_of_false nofun nofun

/-- A tool that took too long has failed. -/
def orFailed (failure : Fault → AnalysisResult) :
    Result AnalysisResult → Result AnalysisResult
  | .error (.toolOverran executable seconds) => .ok (failure (.toolOverran executable seconds))
  | result => result

/-- Without its tool an analysis is skipped. -/
def orSkipped (kind : AnalyzerKind) : Result AnalysisResult → Result AnalysisResult
  | .error (.toolUnavailable tool reason) => .ok (.skipped kind s!"{reason}: {tool}")
  | result => result

/-- What comes of handing a copy of a text to a tool. -/
def copyOutcome (settings : Settings) (view : View) (kind : AnalyzerKind) (tool : String)
    (arguments : List String) (checker : Option String) (copy : ScriptCopy)
    (failure : Fault → AnalysisResult) (verdict : Work.Output → Result AnalysisResult) :
    Result AnalysisResult := do
  view.temporary
  orFailed failure do
    verdict (← copy.answer settings kind tool arguments checker view.toolbox)

/-- What comes of linting a script when the output is read by a reader that goes so deep. -/
def lintOutcome (depth : Nat) (settings : Settings) (view : View) (script : Script) :
    Result AnalysisResult :=
  copyOutcome settings view .lint "shellcheck" lintArguments none
    (.of settings view.mark .lint script.language script.sourceText)
    (fun fault => Lint.failure fault.message)
    fun output => Lint.verdict depth output.stdout output.stderr output.code

/-- What comes of parsing a script behind a prologue. -/
def parseOutcome (prologue : String) (settings : Settings) (view : View) (kind : AnalyzerKind)
    (tool : String) (script : Script) : Result AnalysisResult :=
  let copy : ScriptCopy :=
    .of settings view.mark kind script.language (prologue ++ script.sourceText)
  let handed := parseArguments script.language copy.folder
  copyOutcome settings view kind tool handed.1 handed.2 copy
    (fun fault => .ofFindings kind [ParseCheck.finding fault.message none] [])
    fun output =>
      ParseCheck.verdict kind copy.path.toString copy.fileName (Text.lineFeeds prologue.toList)
        output.stdout output.stderr output.code

/-- What comes of a parse check; there is nothing to do where nothing parses the language. -/
def parseCheckOutcome (prologue : String) (settings : Settings) (view : View)
    (kind : AnalyzerKind) (toolFor : Language → Option String) (script : Script) :
    Result AnalysisResult :=
  match toolFor script.language with
  | some tool => parseOutcome prologue settings view kind tool script
  | none => .ok (.skipped kind s!"no syntax checker for language '{script.displayLanguage}'")

/-- What comes of an analysis. -/
def outcome (settings : Settings) (view : View) (script : Script) :
    AnalyzerKind → Result AnalysisResult
  | .parses =>
    orSkipped .parses (parseCheckOutcome "" settings view .parses Language.interpreter? script)
  | .lint => orSkipped .lint (lintOutcome JsonDialect.usualDepth settings view script)
  | .strictMode =>
    orSkipped .strictMode
      (parseCheckOutcome strictPrologue settings view .strictMode (onlyBash "bash") script)
  | .functionDeps => .ok (FunctionDeps.result settings.commandAllowlist script.sourceText.toList)
  | .variableUsage => .ok (VariableUsage.result settings.shellVariables script.sourceText.toList)

/-- The work after a fault turns an overrun into a failure and passes any other fault on. -/
def Handles (onFault : Fault → Work AnalysisResult) (failure : Fault → AnalysisResult) : Prop :=
  ∀ fault m, onFault fault m = .ended (orFailed failure (.error fault)) m

theorem handles_parseFault (kind : AnalyzerKind) :
    Handles (parseFault kind)
      fun fault => .ofFindings kind [ParseCheck.finding fault.message none] [] := by
  intro fault m
  cases fault <;> rfl

theorem handles_lintFault : Handles lintFault fun fault => Lint.failure fault.message := by
  intro fault m
  cases fault <;> rfl

section

variable {settings : Settings} {inv : Machine → Prop}

theorem ensures_tryCatch_of_handles {onFault : Fault → Work AnalysisResult}
    {failure : Fault → AnalysisResult} (handles : Handles onFault failure)
    {work : Work AnalysisResult} {m : Machine} {result : Result AnalysisResult}
    (ends : (work m).Ensures inv fun r m' => inv m' ∧ r = result) :
    ((tryCatch work onFault : Work AnalysisResult) m).Ensures inv fun r m' =>
      inv m' ∧ r = orFailed failure result := by
  refine ensures_tryCatch ends (fun r m' ⟨h, ended⟩ => ⟨h, ?_⟩) fun fault m' ⟨h, ended⟩ => ?_
  · rw [← ended]
    rfl
  · rw [handles, ← ended]
    exact ⟨h, rfl⟩

/-- What follows on what a tool says about a copy does not look at the machine any more. -/
theorem ensures_check_bind (lasting : Machine.Lasting settings inv) {m : Machine} (h : inv m)
    (copy : ScriptCopy) (kind : AnalyzerKind) (tool : String) (arguments : List String)
    (checker : Option String) (verdict : Work.Output → Result AnalysisResult) :
    ((do
        let output ← copy.check settings kind tool arguments checker
        verdict output : Work AnalysisResult) m).Ensures inv fun r m' =>
      inv m' ∧ r = (copy.answer settings kind tool arguments checker m.toolbox >>= verdict) := by
  have said := ScriptCopy.ensures_check lasting h copy kind tool arguments checker
  refine ensures_bind said (fun output m' ⟨h', ended⟩ => ?_) fun fault m' ⟨h', ended⟩ => ?_
  · rw [← ended]
    exact ⟨h', rfl⟩
  · rw [← ended]
    exact ⟨h', rfl⟩

/-- Handing a copy to a tool comes to its outcome. -/
theorem ensures_copy (lasting : Machine.Lasting settings inv) {m : Machine} (h : inv m)
    {onFault : Fault → Work AnalysisResult} {failure : Fault → AnalysisResult}
    (handles : Handles onFault failure) (kind : AnalyzerKind) (language : Language)
    (text tool : String) (arguments : ScriptCopy → List String × Option String)
    (verdict : ScriptCopy → Work.Output → Result AnalysisResult) :
    ((do
        let copy ← ScriptCopy.make settings kind language text
        let work : Work AnalysisResult := do
          let output ← copy.check settings kind tool (arguments copy).1 (arguments copy).2
          verdict copy output
        tryCatch work onFault : Work AnalysisResult) m).Ensures inv fun r m' =>
      inv m' ∧ r =
        let copy : ScriptCopy := .of settings m.temporaryMark kind language text
        copyOutcome settings (view settings m) kind tool (arguments copy).1 (arguments copy).2 copy
          failure (verdict copy) := by
  have first := ScriptCopy.make_apply settings kind language text m
  change Course.Ensures inv _ ((ScriptCopy.make settings kind language text m).andThen _)
  rw [first, copyOutcome, view]
  cases made : m.disk.ensureFolders settings.tempDir with
  | error e => exact ⟨h, rfl⟩
  | ok disk =>
      exact ensures_tryCatch_of_handles handles
        (ensures_check_bind lasting (lasting.made h made) _ _ _ _ _ _)

theorem ensures_lintCheck (lasting : Machine.Lasting settings inv) {m : Machine} (h : inv m)
    (depth : Nat) (script : Script) :
    (lintCheck depth settings script m).Ensures inv fun r m' =>
      inv m' ∧ r = lintOutcome depth settings (view settings m) script :=
  ensures_copy lasting h handles_lintFault .lint script.language script.sourceText "shellcheck"
    (fun _ => (lintArguments, none))
    fun _ output => Lint.verdict depth output.stdout output.stderr output.code

theorem ensures_parseCheck (lasting : Machine.Lasting settings inv) {m : Machine} (h : inv m)
    (prologue : String) (kind : AnalyzerKind) (toolFor : Language → Option String)
    (script : Script) :
    (parseCheck prologue settings kind toolFor script m).Ensures inv fun r m' =>
      inv m' ∧ r = parseCheckOutcome prologue settings (view settings m) kind toolFor script := by
  rw [parseCheck, parseCheckOutcome]
  cases toolFor script.language with
  | none => exact ⟨lasting.noted h _, rfl⟩
  | some tool =>
      exact ensures_copy lasting h (handles_parseFault kind) kind script.language
        (prologue ++ script.sourceText) tool
        (fun copy => parseArguments script.language copy.folder)
        fun copy output => ParseCheck.verdict kind copy.path.toString copy.fileName
          (Text.lineFeeds prologue.toList) output.stdout output.stderr output.code

/-- A missing tool is taken for a reason to skip the analysis. -/
theorem ensures_recover (lasting : Machine.Lasting settings inv) {m : Machine} (analyzer : Analyzer)
    (script : Script) {result : Result AnalysisResult}
    (ends : (analyzer.check script m).Ensures inv fun r m' => inv m' ∧ r = result) :
    ((tryCatch (analyzer.check script) (analyzer.recover script) : Work AnalysisResult) m).Ensures
      inv fun r m' => inv m' ∧ r = orSkipped analyzer.kind result := by
  refine ensures_tryCatch ends (fun r m' ⟨h, ended⟩ => ⟨h, ?_⟩) fun fault m' ⟨h, ended⟩ => ?_
  · rw [← ended]
    rfl
  · rw [← ended]
    cases fault with
    | toolUnavailable tool reason => exact ⟨lasting.noted h _, rfl⟩
    | _ => exact ⟨h, rfl⟩

/-- Linting comes to its outcome, however deep the output is read. -/
theorem ensures_analyze_lintWithin (lasting : Machine.Lasting settings inv) {m : Machine}
    (h : inv m) (depth : Nat) (script : Script) :
    ((lintWithin depth settings).analyze script m).Ensures inv fun r m' =>
      inv m' ∧ r = orSkipped .lint (lintOutcome depth settings (view settings m) script) := by
  rw [analyze, modify_bind_apply]
  have begun := lasting.begun h (m.analyses ++ [(.lint, script)])
  exact ensures_recover lasting (lintWithin depth settings) script
    (ensures_lintCheck lasting begun depth script)

/-- An analysis comes to its outcome on the machine on which it is begun. -/
theorem ensures_analyze (lasting : Machine.Lasting settings inv) {m : Machine} (h : inv m)
    (kind : AnalyzerKind) (script : Script) :
    ((builtin settings kind).analyze script m).Ensures inv fun r m' =>
      inv m' ∧ r = outcome settings (view settings m) script kind := by
  have begun := lasting.begun h (m.analyses ++ [((builtin settings kind).kind, script)])
  cases kind with
  | lint => exact ensures_analyze_lintWithin lasting h JsonDialect.usualDepth script
  | parses =>
      rw [analyze, modify_bind_apply]
      exact ensures_recover lasting (parses settings) script
        (ensures_parseCheck lasting begun "" .parses Language.interpreter? script)
  | strictMode =>
      rw [analyze, modify_bind_apply]
      exact ensures_recover lasting (strictMode settings) script
        (ensures_parseCheck lasting begun strictPrologue .strictMode (onlyBash "bash") script)
  | functionDeps => exact ⟨begun, rfl⟩
  | variableUsage => exact ⟨begun, rfl⟩

end

/-- Linting that has the machine to itself. -/
theorem run_analyze_lintWithin_fst (depth : Nat) (settings : Settings) (script : Script)
    (m : Machine) :
    (((lintWithin depth settings).analyze script).run m).1 =
      orSkipped .lint (lintOutcome depth settings (view settings m) script) :=
  (ensures_run
    (ensures_analyze_lintWithin (Machine.lasting_true settings) trivial depth script)).2

/-- An analysis that has the machine to itself. -/
theorem run_analyze_fst (settings : Settings) (kind : AnalyzerKind) (script : Script)
    (m : Machine) :
    (((builtin settings kind).analyze script).run m).1 =
      outcome settings (view settings m) script kind :=
  (ensures_run (ensures_analyze (Machine.lasting_true settings) trivial kind script)).2

section

variable {settings : Settings} {kind : AnalyzerKind} {tool : String} {arguments : List String}
  {checker : Option String} {copy : ScriptCopy} {failure : Fault → AnalysisResult}
  {verdict : Work.Output → Result AnalysisResult}

/-- A tool that is refused says nothing about a copy. -/
theorem copyOutcome_of_refused {m : Machine} {executable : String}
    (found : Work.executableOf settings tool m.toolbox = .ok executable)
    (refused : ∀ arguments purpose, ∃ cause,
      m.toolbox.respond ⟨executable, arguments, purpose⟩ = .notStarted cause) :
    ∃ e, copyOutcome settings (view settings m) kind tool arguments checker copy failure verdict =
      .error (.disk e) := by
  rw [copyOutcome, view]
  cases m.disk.ensureFolders settings.tempDir with
  | error e => exact ⟨e, rfl⟩
  | ok disk =>
      obtain ⟨cause, said⟩ :=
        refused (arguments ++ (settings.tool tool).extraArgs ++ [copy.path.toString])
          (.check kind copy.text checker)
      refine ⟨⟨cause, executable⟩, ?_⟩
      simp only [Result.ok_bind, ScriptCopy.answer, found, ScriptCopy.command, Work.answer, said,
        Work.limited]
      rfl

end

/-- Whether an analysis gives a result, and which, depends on the files only by whether the folder
for temporary ones can be made. -/
theorem toOption_outcome_view {settings : Settings} {m m' : Machine}
    (toolbox : m.toolbox = m'.toolbox) (mark : m.temporaryMark = m'.temporaryMark)
    (temporary : (m.disk.ensureFolders settings.tempDir).isOk =
      (m'.disk.ensureFolders settings.tempDir).isOk) (script : Script) (kind : AnalyzerKind) :
    (outcome settings (view settings m) script kind).toOption =
      (outcome settings (view settings m') script kind).toOption := by
  rw [view, view, toolbox, mark]
  cases made : m.disk.ensureFolders settings.tempDir with
  | ok disk =>
      cases made' : m'.disk.ensureFolders settings.tempDir with
      | ok disk' => rfl
      | error e' =>
          rw [made, made'] at temporary
          cases temporary
  | error e =>
      cases made' : m'.disk.ensureFolders settings.tempDir with
      | ok disk' =>
          rw [made, made'] at temporary
          cases temporary
      | error e' =>
          have parses (prologue : String) (kind : AnalyzerKind)
              (toolFor : Language → Option String) :
              (orSkipped kind (parseCheckOutcome prologue settings
                ⟨m'.toolbox, m'.temporaryMark, .error (.disk e)⟩ kind toolFor script)).toOption =
              (orSkipped kind (parseCheckOutcome prologue settings
                ⟨m'.toolbox, m'.temporaryMark, .error (.disk e')⟩ kind toolFor
                script)).toOption := by
            rw [parseCheckOutcome, parseCheckOutcome]
            cases toolFor script.language <;> rfl
          cases kind with
          | parses => exact parses _ _ _
          | lint => rfl
          | strictMode => exact parses _ _ _
          | functionDeps => rfl
          | variableUsage => rfl

/-- An analysis whose tool is refused gives no result. -/
theorem toOption_outcome_of_refused {settings : Settings} {m : Machine} {script : Script}
    {kind : AnalyzerKind} {toolFor : Language → Option String} {tool executable : String}
    (basis : (builtin settings kind).basis = .tool toolFor)
    (asks : toolFor script.language = some tool)
    (found : Work.executableOf settings tool m.toolbox = .ok executable)
    (refused : ∀ arguments purpose, ∃ cause,
      m.toolbox.respond ⟨executable, arguments, purpose⟩ = .notStarted cause) :
    (outcome settings (view settings m) script kind).toOption = none := by
  have parses (prologue : String) (kind : AnalyzerKind) :
      (orSkipped kind
        (parseCheckOutcome prologue settings (view settings m) kind toolFor script)).toOption =
      none := by
    simp only [parseCheckOutcome, asks, parseOutcome]
    obtain ⟨e, refused⟩ := copyOutcome_of_refused found refused
    rw [refused]
    rfl
  cases kind with
  | parses =>
      cases basis
      exact parses _ _
  | lint =>
      cases basis
      have same : tool = "shellcheck" := by
        rw [onlyBash] at asks
        split at asks
        · exact (Option.some.inj asks).symm
        · cases asks
      subst same
      obtain ⟨e, refused⟩ := copyOutcome_of_refused found refused
      rw [outcome, lintOutcome, refused]
      rfl
  | strictMode =>
      cases basis
      exact parses _ _
  | functionDeps => cases basis
  | variableUsage => cases basis

end ScriptVet.Analyzer

namespace ScriptVet

/-- The usual settings, with every folder directly below the root. -/
def Settings.atRoot : Settings where
  projectRoot := ⟨1, []⟩
  cacheDir := ⟨1, ["cache"]⟩
  buildDir := ⟨1, ["build"]⟩
  tempDir := ⟨1, ["tmp"]⟩
  tools := Settings.defaultTools
  commandAllowlist := Settings.defaultAllowlist
  shellVariables := Settings.defaultShellVariables
  cacheResults := true
  persistCache := false
  logLevel := "INFO"
  maxWorkers := ⟨4, Nat.succ_pos 3⟩

/-- A machine without files where everything is installed and every command ends alike. -/
def Machine.answering (response : Response) : Machine where
  toolbox := ⟨fun name => some ("/bin/" ++ name), fun _ => response⟩
  disk := .empty []
  temporaryMark := "0"

end ScriptVet
