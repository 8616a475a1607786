import ScriptVet.Proofs.Session.Keys
import ScriptVet.Proofs.Session.ToolChecks
import ScriptVet.Proofs.Tools.CopyPaths

/-!
# What of a configuration reaches results

Results are kept under a version that tells nothing about the configuration of a tool but what the
tool itself says about its version. But the executable decides who is asked, the arguments decide
what is asked, and a time limit may end it all. So results that are kept with one configuration are
right for another exactly if the two agree in these, or cannot both lead to results.
-/

namespace ScriptVet

/-- The tools outside, and how long they take. -/
structure TimedTools where
  which : String → Option String
  /-- The seconds that a command takes. -/
  seconds : Command → Nat
  /-- How a command ends that is left the time. -/
  ends : Command → Response
  ends_ne : ∀ command, ends command ≠ .overran

namespace TimedTools

/-- A command that takes some seconds exceeds the limit, if there is one. -/
def exceeds (limit? : Option Int) (seconds : Nat) : Bool :=
  limit?.any (· < (seconds : Int))

/-- The limit on a command. The one for versions is always the same. -/
def limit? (bound? : Option Int) : Purpose → Option Int
  | .version => some Work.versionSeconds
  | .check _ _ _ => bound?

/-- What is seen of the tools by someone who sets a bound on checks. -/
def within (tools : TimedTools) (bound? : Option Int) : Toolbox where
  which := tools.which
  respond command :=
    match tools.ends command with
    | .notStarted cause => .notStarted cause
    | response =>
      if exceeds (limit? bound? command.purpose) (tools.seconds command) then .overran
      else response

/-- A new machine, as an analysis with the tool finds it under the settings. -/
def machine (tools : TimedTools) (settings : Settings) (tool : String) (disk : Disk)
    (mark : String) : Machine where
  toolbox := tools.within (settings.tool tool).bound?
  disk := disk
  temporaryMark := mark

/-- Tools that are installed under all names. Those commands fail that should, the others succeed,
and checks take some seconds. -/
def failing (which : String → String) (seconds : Nat) (fails : Command → Bool) : TimedTools where
  which name := some (which name)
  seconds command := if command.purpose = .version then 0 else seconds
  ends command := if fails command then .finished [] [120] 2 else .finished [] [] 0
  ends_ne command := by split <;> exact nofun

theorem exceeds_some {n : Int} {seconds : Nat} : exceeds (some n) seconds ↔ n < seconds :=
  decide_eq_true_iff

/-- What exceeds a limit tells the limit, unless it leaves no time at all. -/
theorem eq_of_exceeds {a b : Option Int} (same : ∀ seconds, exceeds a seconds = exceeds b seconds)
    (negative : ∀ n ∈ a, ∀ n' ∈ b, n < 0 → n' < 0 → n = n') : a = b := by
  have later (n : Int) : exceeds (some n) (n.toNat + 1) := exceeds_some.mpr (by omega)
  cases a with
  | none =>
      cases b with
      | none => rfl
      | some n' => cases (same (n'.toNat + 1)).trans (later n')
  | some n =>
      cases b with
      | none => cases (same (n.toNat + 1)).symm.trans (later n)
      | some n' =>
          have agree (seconds : Nat) : n < seconds ↔ n' < seconds := by
            rw [← exceeds_some, ← exceeds_some, same]
          by_cases none : n < 0
          · rw [negative n rfl n' rfl none ((agree 0).mp none)]
          · have now := agree n.toNat
            have next := agree (n.toNat + 1)
            have same : n = n' := by omega
            rw [same]

/-- What a command answers to someone who sets the bound of a configuration. -/
def answer (tools : TimedTools) (config : ToolConfig) (command : Command) : Result Work.Output :=
  match tools.ends command with
  | .notStarted cause => .error (.disk ⟨cause, command.executable⟩)
  | .finished stdout stderr code =>
    if exceeds config.bound? (tools.seconds command) then
      .error (.toolOverran command.executable config.timeout)
    else .ok ⟨Text.Utf8.decodeLossy stdout, Text.Utf8.decodeLossy stderr, code⟩
  | .overran => .error (.toolOverran command.executable config.timeout)

end TimedTools

namespace ToolConfig

/-- There can be results: the tool may be used, and the time limit can be kept. -/
structure CanCheck (config : ToolConfig) : Prop where
  enabled : config.enabled
  kept : config.timeout.any Work.isEndless = false

/-- The configurations agree in all that reaches results. A tool that has less than no time is not
reached by the arguments. -/
structure ChecksAlike (config config' : ToolConfig) : Prop where
  executable : config.executable = config'.executable
  bound : config.bound? = config'.bound?
  arguments : config.extraArgs = config'.extraArgs ∨ ∃ n ∈ config.bound?, n < 0

/-- Only a limit that is set is exceeded. -/
theorem timeout_of_exceeds {config : ToolConfig} {seconds : Nat}
    (exceeded : TimedTools.exceeds config.bound? seconds) : config.timeout = config.bound? := by
  cases bound : config.bound? with
  | none =>
      rw [bound] at exceeded
      cases exceeded
  | some n => exact (Option.filter_eq_some_iff.mp bound).1

/-- Less than no time is always exceeded. -/
theorem exceeds_of_negative {config : ToolConfig} (negative : config.timeout.any (· < 0))
    (seconds : Nat) : TimedTools.exceeds config.bound? seconds := by
  cases limit : config.timeout with
  | none =>
      rw [limit] at negative
      cases negative
  | some n =>
      rw [limit] at negative
      have below : n < 0 := of_decide_eq_true negative
      have bound : config.bound? = some n := by
        rw [bound?, limit, Option.filter_some, if_pos]
        exact bne_iff_ne.mpr (Int.ne_of_lt below)
      rw [bound, TimedTools.exceeds_some]
      omega

end ToolConfig

namespace TimedTools

variable (tools : TimedTools) {config config' : ToolConfig} (command : Command)

/-- An answer depends on the configuration only by the bound. -/
theorem answer_congr (same : config.bound? = config'.bound?) :
    tools.answer config command = tools.answer config' command := by
  rw [answer, answer, same]
  cases ends : tools.ends command with
  | notStarted cause => rfl
  | overran => exact absurd ends (tools.ends_ne command)
  | finished stdout stderr code =>
      by_cases exceeded : exceeds config'.bound? (tools.seconds command)
      · have limit := ToolConfig.timeout_of_exceeds exceeded
        rw [← same] at exceeded
        have limit' := ToolConfig.timeout_of_exceeds exceeded
        rw [same] at exceeded limit'
        simp only [exceeded, if_true, limit, limit']
      · simp only [exceeded, Bool.false_eq_true, if_false]

/-- A tool that has less than no time is not started, or overruns. -/
theorem answer_of_negative {n : Int} (bound : config.bound? = some n) (negative : n < 0) :
    (∃ e, tools.answer config command = .error (.disk e)) ∨
      tools.answer config command = .error (.toolOverran command.executable (some n)) := by
  have exceeded : exceeds config.bound? (tools.seconds command) := by
    rw [bound, exceeds_some]
    omega
  have limit := (ToolConfig.timeout_of_exceeds exceeded).trans bound
  rw [answer, limit]
  cases tools.ends command with
  | notStarted cause => exact .inl ⟨_, rfl⟩
  | overran => exact .inr rfl
  | finished stdout stderr code =>
      refine .inr ?_
      simp only [exceeded, if_true]

end TimedTools

namespace Session

open Analyzer

section

variable {settings settings' : Settings} {script : Script} {kind : AnalyzerKind} {tool : String}

/-- How a script is handed over depends on the settings only by the folder for temporary ones. -/
theorem ofKind_congr (tempDir : settings.tempDir = settings'.tempDir) (mark : String)
    (script : Script) (kind : AnalyzerKind) (tool : String) :
    ToolCheck.ofKind settings mark script kind tool =
      ToolCheck.ofKind settings' mark script kind tool := by
  cases kind <;>
    simp only [ToolCheck.ofKind, ToolCheck.lint, ToolCheck.parse, ScriptCopy.of, tempDir]

theorem executableOf_eq_ok_iff {tools : TimedTools} {bound? : Option Int} {executable : String} :
    Work.executableOf settings tool (tools.within bound?) = .ok executable ↔
      (settings.tool tool).enabled ∧
        tools.which (settings.tool tool).executable = some executable := by
  rw [Work.executableOf]
  simp only [TimedTools.within]
  cases enabled : (settings.tool tool).enabled with
  | false => simp
  | true => cases tools.which (settings.tool tool).executable <;> simp

/-- What a tool answers to a check, in the machine that an analysis finds. -/
theorem answer_within {tools : TimedTools} {config : ToolConfig}
    (kept : config.timeout.any Work.isEndless = false) {command : Command}
    (check : command.purpose ≠ .version) :
    Work.answer (tools.within config.bound?) command config.timeout =
      tools.answer config command := by
  have limit : TimedTools.limit? config.bound? command.purpose = config.bound? := by
    cases purpose : command.purpose with
    | version => exact absurd purpose check
    | check kind text checker => rfl
  rw [Work.answer, TimedTools.answer]
  simp only [TimedTools.within, limit]
  cases ends : tools.ends command with
  | notStarted cause => rfl
  | overran => exact absurd ends (tools.ends_ne command)
  | finished stdout stderr code =>
      by_cases exceeded : TimedTools.exceeds config.bound? (tools.seconds command)
      · have limited : Work.limited config.timeout .overran = .overran := ite_self _
        simp only [exceeded, if_true, limited, kept, Bool.false_eq_true, if_false]
      · have time : config.timeout.any (· < 0) = false := by
          rw [← Bool.not_eq_true]
          exact fun negative => exceeded (config.exceeds_of_negative negative _)
        simp only [exceeded, Bool.false_eq_true, if_false, Work.limited, time, kept]

/-- What an analysis comes to whose tool there is. -/
theorem outcome_machine (asks : toolOf? settings script kind = some tool)
    (can : (settings.tool tool).CanCheck) (tools : TimedTools) {disk : Disk}
    (temporary : (disk.ensureFolders settings.tempDir).isOk) (mark : String) {executable : String}
    (there : tools.which (settings.tool tool).executable = some executable) :
    outcome settings (view settings (tools.machine settings tool disk mark)) script kind =
      let check := ToolCheck.ofKind settings mark script kind tool
      orSkipped kind (orFailed check.failure
        (tools.answer (settings.tool tool) (check.command settings executable) >>=
          check.verdict)) := by
  have made : (view settings (tools.machine settings tool disk mark)).temporary = .ok () :=
    temporary_view_eq_ok_iff.mpr temporary
  have found : Work.executableOf settings tool (tools.machine settings tool disk mark).toolbox =
      .ok executable := executableOf_eq_ok_iff.mpr ⟨can.enabled, there⟩
  have answered :
      Work.answer (view settings (tools.machine settings tool disk mark)).toolbox
        ((ToolCheck.ofKind settings mark script kind tool).command settings executable)
        (settings.tool tool).timeout = _ := answer_within can.kept nofun
  have hands := handedTo?_of_toolOf? asks
  have same : outcome settings (view settings (tools.machine settings tool disk mark)) script kind =
      (ToolCheck.ofKind settings mark script kind tool).outcome settings _ :=
    outcome_eq_ofKind hands _
  rw [same, ToolCheck.outcome_of_executable _ (tool_ofKind hands settings mark) made found,
    kind_ofKind, answered]

/-- A time limit that cannot be kept keeps a check from every result. -/
theorem ToolCheck.outcome_of_endless (check : ToolCheck) (is : check.tool = tool) {view : View}
    {executable : String} (temporary : view.temporary = .ok ())
    (there : Work.executableOf settings tool view.toolbox = .ok executable)
    (endless : (settings.tool tool).timeout.any Work.isEndless) :
    ∃ fault, check.outcome settings view = .error fault := by
  rw [check.outcome_of_executable is temporary there, Work.answer]
  cases Work.limited (settings.tool tool).timeout
      (view.toolbox.respond (check.command settings executable)) with
  | notStarted cause => exact ⟨_, rfl⟩
  | finished stdout stderr code =>
      simp only [endless, if_true]
      exact ⟨_, rfl⟩
  | overran =>
      simp only [endless, if_true]
      exact ⟨_, rfl⟩

/-- A result that was not skipped was made with a tool that may be used. -/
theorem canCheck_of_made (asks : toolOf? settings script kind = some tool) {tools : TimedTools}
    {disk : Disk} (temporary : (disk.ensureFolders settings.tempDir).isOk) {mark : String}
    {r : AnalysisResult}
    (comes : outcome settings (view settings (tools.machine settings tool disk mark)) script kind =
      .ok r)
    (made : r.status ≠ .skipped) :
    (settings.tool tool).CanCheck ∧
      ∃ executable, tools.which (settings.tool tool).executable = some executable := by
  obtain ⟨executable, found⟩ := exists_executable_of_made asks comes made
  obtain ⟨enabled, there⟩ := executableOf_eq_ok_iff.mp found
  refine ⟨⟨enabled, ?_⟩, executable, there⟩
  rw [← Bool.not_eq_true]
  intro endless
  have hands := handedTo?_of_toolOf? asks
  have able : (view settings (tools.machine settings tool disk mark)).temporary = .ok () :=
    temporary_view_eq_ok_iff.mpr temporary
  obtain ⟨fault, failed⟩ :=
    ToolCheck.outcome_of_endless _ (tool_ofKind hands settings mark) able found endless
  rw [outcome_eq_ofKind hands] at comes
  cases failed.symm.trans comes

/-! ## What is made of answers -/

/-- Messages about overruns of one executable tell the limit. -/
theorem seconds_of_message {executable : String} {n n' : Int}
    (same : (Fault.toolOverran executable (some n)).message =
      (Fault.toolOverran executable (some n')).message) : n = n' := by
  have lists := congrArg String.toList same
  simp only [Fault.message, Text.toList_phrase, List.flatMap_cons, List.flatMap_nil,
    List.append_nil, List.append_cancel_left_eq, List.append_cancel_right_eq, Fault.seconds,
    Option.elim_some, String.toList_ofList] at lists
  exact Json.Reader.intText_injective lists

/-- Messages about overruns of one limit tell the executable. -/
theorem executable_of_message {executable executable' : String} {limit : Option Int}
    (same : (Fault.toolOverran executable limit).message =
      (Fault.toolOverran executable' limit).message) : executable = executable' := by
  have lists := congrArg String.toList same
  simp only [Fault.message, Text.toList_phrase, List.flatMap_cons, List.flatMap_nil,
    List.append_cancel_right_eq] at lists
  exact String.toList_inj.mp lists

theorem message_of_failure {mark : String} {fault fault' : Fault}
    (same : (ToolCheck.ofKind settings mark script kind tool).failure fault =
      (ToolCheck.ofKind settings' mark script kind tool).failure fault') :
    fault.message = fault'.message := by
  have findings := congrArg AnalysisResult.findings same
  cases kind <;> exact (Finding.mk.inj (List.cons.inj findings).1).2.1

theorem status_failure (mark : String) (fault : Fault) :
    ((ToolCheck.ofKind settings mark script kind tool).failure fault).status = .fail := by
  cases kind <;> rfl

/-- Where nothing is said and the exit code is zero, everything is in order. -/
theorem verdict_success (settings : Settings) (mark : String) (script : Script)
    (kind : AnalyzerKind) (tool : String) : ∃ r,
    (ToolCheck.ofKind settings mark script kind tool).verdict ⟨"", "", 0⟩ = .ok r ∧
      r.status = .pass := by
  cases kind <;> exact ⟨_, rfl, rfl⟩

/-- Where a letter is the error output and the exit code is two, something is not. -/
theorem verdict_failure (settings : Settings) (mark : String) (script : Script)
    (kind : AnalyzerKind) (tool : String) : ∃ r,
    (ToolCheck.ofKind settings mark script kind tool).verdict ⟨"", "x", 2⟩ = .ok r ∧
      r.status = .fail := by
  have parse (prologue : String) (kind : AnalyzerKind) : ∃ r,
      (ToolCheck.parse prologue settings mark kind tool script).verdict ⟨"", "x", 2⟩ = .ok r ∧
        r.status = .fail := by
    simp only [ToolCheck.parse, ScriptCopy.of, ScriptCopy.path]
    rw [Path.toString_child _ (ScriptCopy.isStepName_fileName script.language)]
    generalize (settings.tempDir.child (ScriptCopy.folderName kind mark)).lead = lead
    have absent : ¬ (lead ++ ("script" ++ script.language.extension)).toList <:+: "x".toList := by
      intro inside
      have short := inside.length_le
      simp at short
      omega
    have message : ParseCheck.failureMessage "" "x" 2 = "x" := by decide
    simp only [ParseCheck.verdict, message, Text.replaceAll_eq_self absent]
    exact ⟨_, rfl, rfl⟩
  cases kind with
  | lint => exact ⟨_, rfl, rfl⟩
  | strictMode => exact parse _ _
  | _ => exact parse _ _

/-! ## Tools that fail on demand -/

variable {which : String → String} {seconds : Nat} {fails : Command → Bool}

/-- Whatever fails, nothing is told about versions. -/
theorem toldVersion_failing (enabled : (settings.tool tool).enabled) (bound? : Option Int) :
    Work.toldVersion settings ((TimedTools.failing which seconds fails).within bound?) tool =
      .ok "unknown" := by
  have found : Work.executableOf settings tool
      ((TimedTools.failing which seconds fails).within bound?) = .ok _ :=
    executableOf_eq_ok_iff.mpr ⟨enabled, rfl⟩
  have time : ∀ n ∈ some Work.versionSeconds, 0 ≤ n ∧ Work.isEndless n = false := by
    rintro n ⟨⟩
    exact ⟨by decide, by decide⟩
  rw [Work.toldVersion, Work.askedVersion, found, Result.ok_bind]
  by_cases fail : fails ⟨which (settings.tool tool).executable, ["--version"], .version⟩
  · have said : ((TimedTools.failing which seconds fails).within bound?).respond
        ⟨which (settings.tool tool).executable, ["--version"], .version⟩ =
          .finished [] [120] 2 := by
      simp only [TimedTools.within, TimedTools.failing, fail]
      rfl
    rw [Work.answer_of_finished said time]
    rfl
  · have said : ((TimedTools.failing which seconds fails).within bound?).respond
        ⟨which (settings.tool tool).executable, ["--version"], .version⟩ = .finished [] [] 0 := by
      simp only [TimedTools.within, TimedTools.failing, fail]
      rfl
    rw [Work.answer_of_finished said time]
    rfl

theorem answer_failing (config : ToolConfig) {command : Command}
    (check : command.purpose ≠ .version) :
    (TimedTools.failing which seconds fails).answer config command =
      if TimedTools.exceeds config.bound? seconds then
        .error (.toolOverran command.executable config.bound?)
      else .ok (if fails command then ⟨"", "x", 2⟩ else ⟨"", "", 0⟩) := by
  have time : (TimedTools.failing which seconds fails).seconds command = seconds := if_neg check
  have ends : (TimedTools.failing which seconds fails).ends command =
      if fails command then .finished [] [120] 2 else .finished [] [] 0 := rfl
  rw [TimedTools.answer, time, ends]
  by_cases exceeded : TimedTools.exceeds config.bound? seconds
  · have same := ToolConfig.timeout_of_exceeds exceeded
    cases fails command <;> simp only [exceeded, if_true, same, Bool.false_eq_true, if_false]
  · cases fails command <;> simp only [exceeded, Bool.false_eq_true, if_false, if_true] <;> rfl

/-- The result of an analysis with such tools: the check takes too long, or it fails if it
should. -/
def FailsIf (settings : Settings) (mark : String) (script : Script) (kind : AnalyzerKind)
    (tool : String) (which : String → String) (seconds : Nat) (fails : Command → Bool)
    (r : AnalysisResult) : Prop :=
  let check := ToolCheck.ofKind settings mark script kind tool
  let executable := which (settings.tool tool).executable
  if TimedTools.exceeds (settings.tool tool).bound? seconds then
    r = check.failure (.toolOverran executable (settings.tool tool).bound?)
  else r.status = if fails (check.command settings executable) then .fail else .pass

theorem outcome_failing (asks : toolOf? settings script kind = some tool)
    (can : (settings.tool tool).CanCheck) (which : String → String) (seconds : Nat)
    (fails : Command → Bool) {disk : Disk}
    (temporary : (disk.ensureFolders settings.tempDir).isOk) (mark : String) :
    ∃ r, outcome settings (view settings
        ((TimedTools.failing which seconds fails).machine settings tool disk mark)) script kind =
          .ok r ∧
      FailsIf settings mark script kind tool which seconds fails r := by
  have comes := outcome_machine asks can (.failing which seconds fails) temporary mark rfl
  have said : (TimedTools.failing which seconds fails).answer (settings.tool tool)
      ((ToolCheck.ofKind settings mark script kind tool).command settings
        (which (settings.tool tool).executable)) = _ := answer_failing _ nofun
  simp only at comes
  rw [said] at comes
  simp only [FailsIf]
  by_cases exceeded : TimedTools.exceeds (settings.tool tool).bound? seconds
  · simp only [exceeded, if_true] at comes ⊢
    exact ⟨_, comes, rfl⟩
  · obtain ⟨failing, given, failed⟩ := verdict_failure settings mark script kind tool
    obtain ⟨passing, given', passed⟩ := verdict_success settings mark script kind tool
    cases fail : fails ((ToolCheck.ofKind settings mark script kind tool).command settings
        (which (settings.tool tool).executable)) with
    | true =>
        simp only [exceeded, Bool.false_eq_true, if_false, fail, if_true, Result.ok_bind, given]
          at comes ⊢
        exact ⟨failing, comes, failed⟩
    | false =>
        simp only [exceeded, Bool.false_eq_true, if_false, fail, Result.ok_bind, given'] at comes ⊢
        exact ⟨passing, comes, passed⟩

section

variable {mark : String} {r : AnalysisResult}

theorem FailsIf.of_exceeds (h : FailsIf settings mark script kind tool which seconds fails r)
    (exceeded : TimedTools.exceeds (settings.tool tool).bound? seconds) :
    r = (ToolCheck.ofKind settings mark script kind tool).failure
      (.toolOverran (which (settings.tool tool).executable) (settings.tool tool).bound?) := by
  rw [FailsIf] at h
  exact (if_pos exceeded).mp h

theorem FailsIf.of_not_exceeds (h : FailsIf settings mark script kind tool which seconds fails r)
    (time : ¬ TimedTools.exceeds (settings.tool tool).bound? seconds) :
    fails ((ToolCheck.ofKind settings mark script kind tool).command settings
      (which (settings.tool tool).executable)) = (r.status == .fail) := by
  rw [FailsIf] at h
  have status := (if_neg time).mp h
  cases fail : fails ((ToolCheck.ofKind settings mark script kind tool).command settings
      (which (settings.tool tool).executable)) <;> rw [status, fail] <;> rfl

/-- The check is not skipped. -/
theorem FailsIf.made (h : FailsIf settings mark script kind tool which seconds fails r) :
    r.status ≠ .skipped := by
  rw [FailsIf] at h
  split at h
  · rw [h, status_failure]
    exact nofun
  · rw [h]
    split <;> exact nofun

end

end

/-! ## The same analysis under two settings -/

/-- An analysis of a script with a tool, on a machine with some files. -/
structure Trial where
  script : Script
  kind : AnalyzerKind
  tool : String
  disk : Disk
  /-- What the name of the temporary folder ends in. -/
  mark : String

namespace Trial

/-- The version that a new analyzer gives. -/
def version (trial : Trial) (tools : TimedTools) (settings : Settings) : Result String :=
  (((builtin settings trial.kind).fullVersion trial.script).run
    (tools.machine settings trial.tool trial.disk trial.mark)).1

/-- The result that an analyzer gives. -/
def result (trial : Trial) (tools : TimedTools) (settings : Settings) : Result AnalysisResult :=
  (((builtin settings trial.kind).analyze trial.script).run
    (tools.machine settings trial.tool trial.disk trial.mark)).1

/-- Whatever the tools, where the versions are the same, no result that is kept with one of the
settings is wrong with the other. -/
def Agrees (trial : Trial) (settings settings' : Settings) : Prop :=
  ∀ tools r r', trial.version tools settings = trial.version tools settings' →
    trial.result tools settings = .ok r → trial.result tools settings' = .ok r' →
    r.status ≠ .skipped → r'.status ≠ .skipped → r = r'

end Trial

section

variable {trial : Trial} {settings settings' : Settings}

/-- What a new analyzer tells about its version when its tool is asked. -/
theorem version_of_told (asks : toolOf? settings trial.script trial.kind = some trial.tool)
    {tools : TimedTools} {v : String}
    (told : Work.toldVersion settings (tools.within (settings.tool trial.tool).bound?) trial.tool =
      .ok v) :
    trial.version tools settings =
      .ok s!"{(builtin settings trial.kind).ownVersion}+{trial.tool}:{v}" := by
  have keeps : Work.KeepsVersions settings
      (fun tool v => Work.toldVersion settings
        (tools.within (settings.tool trial.tool).bound?) tool = .ok v)
      (fun m => m.toolbox = tools.within (settings.tool trial.tool).bound? ∧
        ∀ {kind tool version}, m.versions.lookup (kind, tool) = some version →
          Work.toldVersion settings (tools.within (settings.tool trial.tool).bound?) tool =
            .ok version) :=
    { lasting :=
        { called := fun h _ => h
          noted := fun h _ => h
          begun := fun h _ => h
          made := fun h _ _ => h }
      asked := fun h told => h.1 ▸ told
      noted := fun h noted => h.2 noted
      notes := fun h told kind => ⟨h.1, Work.told_of_noted h.2 told kind⟩ }
  have ends := Activity.ensures_run (ensures_fullVersion keeps
    (m := tools.machine settings trial.tool trial.disk trial.mark) ⟨rfl, nofun⟩ trial.script
    trial.kind)
  rw [Trial.version]
  cases given : (((builtin settings trial.kind).fullVersion trial.script).run
      (tools.machine settings trial.tool trial.disk trial.mark)).1 with
  | ok version =>
      rw [given] at ends
      obtain ⟨-, has⟩ := ends
      simp only [HasVersion, asks] at has
      obtain ⟨v', told', rfl⟩ := has
      rw [Except.ok.inj (told.symm.trans told')]
  | error fault =>
      rw [given] at ends
      obtain ⟨-, tool', m, asks', ⟨same, -⟩, failed⟩ := ends
      obtain rfl : trial.tool = tool' := Option.some.inj (asks.symm.trans asks')
      rw [same, told] at failed
      cases failed

theorem Trial.result_eq (trial : Trial) (tools : TimedTools) (settings : Settings) :
    trial.result tools settings = outcome settings
      (view settings (tools.machine settings trial.tool trial.disk trial.mark)) trial.script
      trial.kind :=
  run_analyze_fst _ _ _ _

/-- Where a tool is not started or overruns, the only result is that it took too long. -/
theorem eq_failure_of_answer {kind : AnalyzerKind} {failure : Fault → AnalysisResult}
    {verdict : Work.Output → Result AnalysisResult} {said : Result Work.Output}
    {executable : String} {n : Int}
    (answered : (∃ e, said = .error (.disk e)) ∨
      said = .error (.toolOverran executable (some n))) {r : AnalysisResult}
    (comes : orSkipped kind (orFailed failure (said >>= verdict)) = .ok r) :
    r = failure (.toolOverran executable (some n)) := by
  rcases answered with ⟨e, rfl⟩ | rfl
  · cases comes
  · exact (Except.ok.inj comes).symm

/-- With configurations that agree in all that reaches results the results are the same. -/
theorem Trial.agrees_of_checksAlike
    (asks : toolOf? settings trial.script trial.kind = some trial.tool)
    (tempDir : settings.tempDir = settings'.tempDir)
    (temporary : (trial.disk.ensureFolders settings.tempDir).isOk)
    (alike : (settings.tool trial.tool).ChecksAlike (settings'.tool trial.tool)) :
    trial.Agrees settings settings' := by
  intro tools r r' _ comes comes' made made'
  have asks' := (toolOf?_congr settings' settings trial.script trial.kind).trans asks
  have temporary' : (trial.disk.ensureFolders settings'.tempDir).isOk := tempDir ▸ temporary
  rw [Trial.result_eq] at comes comes'
  obtain ⟨can, executable, there⟩ := canCheck_of_made asks temporary comes made
  obtain ⟨can', -⟩ := canCheck_of_made asks' temporary' comes' made'
  rw [outcome_machine asks can tools temporary trial.mark there] at comes
  rw [outcome_machine asks' can' tools temporary' trial.mark (alike.executable ▸ there),
    ← ofKind_congr tempDir] at comes'
  simp only at comes comes'
  rcases alike.arguments with same | ⟨n, bound, negative⟩
  · -- The same command has the same answer within the same bound.
    have commands : (ToolCheck.ofKind settings trial.mark trial.script trial.kind
          trial.tool).command settings executable =
        (ToolCheck.ofKind settings trial.mark trial.script trial.kind trial.tool).command settings'
          executable := by
      rw [ToolCheck.command, ToolCheck.command, ScriptCopy.command, ScriptCopy.command,
        tool_ofKind (handedTo?_of_toolOf? asks), same]
    rw [← commands, ← tools.answer_congr _ alike.bound] at comes'
    exact Except.ok.inj (comes.symm.trans comes')
  · have bound' : (settings'.tool trial.tool).bound? = some n := alike.bound ▸ bound
    rw [eq_failure_of_answer (tools.answer_of_negative _ bound negative) comes,
      eq_failure_of_answer (tools.answer_of_negative _ bound' negative) comes']
    rfl

section

variable (agrees : trial.Agrees settings settings')
  (asks : toolOf? settings trial.script trial.kind = some trial.tool)
  (tempDir : settings.tempDir = settings'.tempDir)
  (temporary : (trial.disk.ensureFolders settings.tempDir).isOk)
  (can : (settings.tool trial.tool).CanCheck) (can' : (settings'.tool trial.tool).CanCheck)

include agrees asks tempDir temporary can can'

/-- With tools that fail on demand, settings that agree come to one result. -/
theorem Trial.Agrees.exists_failing (which : String → String) (seconds : Nat)
    (fails : Command → Bool) : ∃ r,
    FailsIf settings trial.mark trial.script trial.kind trial.tool which seconds fails r ∧
      FailsIf settings' trial.mark trial.script trial.kind trial.tool which seconds fails r := by
  have asks' := (toolOf?_congr settings' settings trial.script trial.kind).trans asks
  have temporary' : (trial.disk.ensureFolders settings'.tempDir).isOk := tempDir ▸ temporary
  obtain ⟨r, comes, is⟩ := outcome_failing asks can which seconds fails temporary trial.mark
  obtain ⟨r', comes', is'⟩ :=
    outcome_failing asks' can' which seconds fails temporary' trial.mark
  have versions : trial.version (.failing which seconds fails) settings =
      trial.version (.failing which seconds fails) settings' := by
    rw [version_of_told asks (toldVersion_failing can.enabled _),
      version_of_told asks' (toldVersion_failing can'.enabled _)]
    cases trial.kind <;> rfl
  rw [← Trial.result_eq] at comes comes'
  obtain rfl := agrees _ r r' versions comes comes' is.made is'.made
  exact ⟨r, is, is'⟩

/-- All checks pass but those that take too long, so the bounds are seen in the results. -/
theorem Trial.Agrees.bound_eq :
    (settings.tool trial.tool).bound? = (settings'.tool trial.tool).bound? := by
  have meet := agrees.exists_failing asks tempDir temporary can can' (fun _ => "/bin/x")
  refine TimedTools.eq_of_exceeds (fun seconds => ?_) fun n hn n' hn' below below' => ?_
  · obtain ⟨r, is, is'⟩ := meet seconds fun _ => false
    have late {settings : Settings} (is : FailsIf settings trial.mark trial.script trial.kind
        trial.tool (fun _ => "/bin/x") seconds (fun _ => false) r) :
        TimedTools.exceeds (settings.tool trial.tool).bound? seconds = (r.status == .fail) := by
      by_cases exceeded : TimedTools.exceeds (settings.tool trial.tool).bound? seconds
      · rw [exceeded, is.of_exceeds exceeded, status_failure]
        rfl
      · exact (Bool.eq_false_iff.mpr exceeded).trans (is.of_not_exceeds exceeded)
    exact (late is).trans (late is').symm
  · obtain ⟨r, is, is'⟩ := meet 0 fun _ => false
    have told := is.of_exceeds (by rw [Option.mem_def.mp hn, TimedTools.exceeds_some]; exact below)
    have told' :=
      is'.of_exceeds (by rw [Option.mem_def.mp hn', TimedTools.exceeds_some]; exact below')
    rw [Option.mem_def.mp hn] at told
    rw [Option.mem_def.mp hn'] at told'
    exact seconds_of_message (message_of_failure (told.symm.trans told'))

/-- Checks with the executable of the first settings fail, or it is told that they took too long. -/
theorem Trial.Agrees.executable_eq :
    (settings.tool trial.tool).executable = (settings'.tool trial.tool).executable := by
  have bound := agrees.bound_eq asks tempDir temporary can can'
  obtain ⟨r, is, is'⟩ := agrees.exists_failing asks tempDir temporary can can'
    (fun name => "/bin/" ++ name) 0 fun command =>
      command.executable == "/bin/" ++ (settings.tool trial.tool).executable
  have same : "/bin/" ++ (settings.tool trial.tool).executable =
      "/bin/" ++ (settings'.tool trial.tool).executable := by
    by_cases exceeded : TimedTools.exceeds (settings.tool trial.tool).bound? 0
    · have told := is.of_exceeds exceeded
      have told' := is'.of_exceeds (bound ▸ exceeded)
      rw [← bound] at told'
      exact executable_of_message (message_of_failure (told.symm.trans told'))
    · have failed := is.of_not_exceeds exceeded
      have failed' := is'.of_not_exceeds (bound ▸ exceeded)
      exact (eq_of_beq (failed'.trans (failed.symm.trans (beq_self_eq_true _)))).symm
  have lists := congrArg String.toList same
  rw [String.toList_append, String.toList_append, List.append_cancel_left_eq] at lists
  exact String.toList_inj.mp lists

/-- Checks with the arguments of the first settings fail, if there is time for any. -/
theorem Trial.Agrees.arguments_eq :
    (settings.tool trial.tool).extraArgs = (settings'.tool trial.tool).extraArgs ∨
      ∃ n ∈ (settings.tool trial.tool).bound?, n < 0 := by
  by_cases exceeded : TimedTools.exceeds (settings.tool trial.tool).bound? 0
  · right
    cases limit : (settings.tool trial.tool).bound? with
    | none =>
        rw [limit] at exceeded
        cases exceeded
    | some n =>
        rw [limit, TimedTools.exceeds_some] at exceeded
        exact ⟨n, rfl, exceeded⟩
  · left
    have bound := agrees.bound_eq asks tempDir temporary can can'
    obtain ⟨r, is, is'⟩ := agrees.exists_failing asks tempDir temporary can can'
      (fun _ => "/bin/x") 0 fun command =>
        command.arguments == ((ToolCheck.ofKind settings trial.mark trial.script trial.kind
          trial.tool).command settings "/bin/x").arguments
    have failed := is.of_not_exceeds exceeded
    have failed' := is'.of_not_exceeds (bound ▸ exceeded)
    have same := (eq_of_beq (failed'.trans (failed.symm.trans (beq_self_eq_true _)))).symm
    rw [← ofKind_congr tempDir] at same
    simp only [ToolCheck.command, ScriptCopy.command, List.append_cancel_right_eq,
      List.append_cancel_left_eq, tool_ofKind (handedTo?_of_toolOf? asks)] at same
    exact same

/-- Configurations that can both lead to results have to agree in all that reaches results. -/
theorem Trial.Agrees.checksAlike :
    (settings.tool trial.tool).ChecksAlike (settings'.tool trial.tool) where
  executable := agrees.executable_eq asks tempDir temporary can can'
  bound := agrees.bound_eq asks tempDir temporary can can'
  arguments := agrees.arguments_eq asks tempDir temporary can can'

end

/-- Results that are kept with one of two settings are right with the other exactly if the
configurations of the tool agree in the executable, in the bound on the time and in the arguments,
where these reach the tool, or if there are no results with one of them. The version tells none of
this. -/
theorem agrees_iff_checksAlike (trial : Trial) {settings settings' : Settings}
    (asks : toolOf? settings trial.script trial.kind = some trial.tool)
    (tempDir : settings.tempDir = settings'.tempDir)
    (temporary : (trial.disk.ensureFolders settings.tempDir).isOk) :
    trial.Agrees settings settings' ↔
      ((settings.tool trial.tool).CanCheck → (settings'.tool trial.tool).CanCheck →
        (settings.tool trial.tool).ChecksAlike (settings'.tool trial.tool)) := by
  constructor
  · intro agrees can can'
    exact agrees.checksAlike asks tempDir temporary can can'
  · intro alike tools r r' versions comes comes' made made'
    have asks' := (toolOf?_congr settings' settings trial.script trial.kind).trans asks
    have temporary' : (trial.disk.ensureFolders settings'.tempDir).isOk := tempDir ▸ temporary
    obtain ⟨can, -⟩ := canCheck_of_made asks temporary (trial.result_eq _ _ ▸ comes) made
    obtain ⟨can', -⟩ := canCheck_of_made asks' temporary' (trial.result_eq _ _ ▸ comes') made'
    exact Trial.agrees_of_checksAlike asks tempDir temporary (alike can can') tools r r' versions
      comes comes' made made'

end

/-- A limit of zero seconds is none. -/
theorem agrees_of_no_limit :
    let trial : Trial :=
      ⟨⟨"s", .python3, none, "pass\n", [], true⟩, .parses, "python3", .empty [], "0"⟩
    let settings := Settings.atRoot
    let settings' : Settings :=
      { settings with tools := [("python3", { executable := "python3", timeout := some 0 })] }
    toolOf? settings trial.script trial.kind = some trial.tool ∧
      settings.tempDir = settings'.tempDir ∧
      (trial.disk.ensureFolders settings.tempDir).isOk ∧ trial.Agrees settings settings' := by
  intro trial settings settings'
  have asks : toolOf? settings trial.script trial.kind = some trial.tool := rfl
  have tempDir : settings.tempDir = settings'.tempDir := rfl
  have temporary : (trial.disk.ensureFolders settings.tempDir).isOk := by decide
  refine ⟨asks, tempDir, temporary, ?_⟩
  have config : settings.tool "python3" = { executable := "python3" } := by decide
  have config' : settings'.tool "python3" = { executable := "python3", timeout := some 0 } := by
    decide
  have alike : (settings.tool "python3").ChecksAlike (settings'.tool "python3") := by
    rw [config, config']
    exact ⟨rfl, rfl, .inl rfl⟩
  exact (agrees_iff_checksAlike trial asks tempDir temporary).mpr fun _ _ => alike

/-- Another executable that tells the same version and does not parse the script. -/
theorem executable_not_in_version :
    let trial : Trial :=
      ⟨⟨"s", .python3, none, "pass\n", [], true⟩, .parses, "python3", .empty [], "0"⟩
    let settings := Settings.atRoot
    let settings' : Settings :=
      { settings with tools := [("python3", { executable := "python3-strict" })] }
    let tools : TimedTools :=
      { which := fun name => some ("/bin/" ++ name)
        seconds := fun _ => 0
        ends := fun command =>
          if command.purpose = .version then .finished (Text.Utf8.encodeString "Python 3") [] 0
          else if command.executable = "/bin/python3" then .finished [] [] 0
          else .finished [] (Text.Utf8.encodeString "SyntaxError") 1
        ends_ne := fun command => by split <;> [nofun; split <;> nofun] }
    (trial.version tools settings).toOption = some "syntax/1+python3:Python 3" ∧
      (trial.version tools settings').toOption = some "syntax/1+python3:Python 3" ∧
      (trial.result tools settings).toOption.map (·.status) = some .pass ∧
      (trial.result tools settings').toOption.map (·.status) = some .fail := by
  intro trial settings settings' tools
  refine ⟨?_, ?_, ?_, ?_⟩ <;> decide +kernel

end Session

end ScriptVet
