import ScriptVet.Proofs.Analyzer.Retelling
import ScriptVet.Proofs.Session.ToolChecks
import ScriptVet.Proofs.Text.Octets
import ScriptVet.Proofs.Tools.CopyPaths

/-!
# Where temporary folders show

Two runs of one analysis differ in the name of the temporary folder, and a tool may tell the path
that it was given. The parse checks put the name of the file in the place of the path, so that
nothing is left of it in their results. The linter's results hold what is kept of its answer as it
is: they are the same exactly if the path does not stand in what is kept.
-/

namespace ScriptVet

/-- The same machine with a mark for the temporary folders of the next run. -/
def Machine.marked (m : Machine) (mark : String) : Machine :=
  { m with temporaryMark := mark }

namespace Response

/-- The texts that a command wrote. -/
def texts : Response → List String
  | .finished stdout stderr _ => [Text.Utf8.decodeLossy stdout, Text.Utf8.decodeLossy stderr]
  | .overran => []
  | .notStarted _ => []

/-- A command wrote the text of a path. -/
def Tells (response : Response) (path : Path) : Prop :=
  ∃ text ∈ response.texts, path.toString.toList <:+: text.toList

instance (response : Response) (path : Path) : Decidable (response.Tells path) :=
  inferInstanceAs (Decidable (∃ text ∈ response.texts, path.toString.toList <:+: text.toList))

/-- The second response is the first one with a path in the place of another. -/
inductive Retells (path path' : Path) : Response → Response → Prop
  | finished {stdout stderr stdout' stderr' : List UInt8} {code : Int}
      (out : Text.Utf8.decodeLossy stdout' =
        Text.replaceAll path.toString path'.toString (Text.Utf8.decodeLossy stdout))
      (err : Text.Utf8.decodeLossy stderr' =
        Text.replaceAll path.toString path'.toString (Text.Utf8.decodeLossy stderr)) :
      Retells path path' (.finished stdout stderr code) (.finished stdout' stderr' code)
  | overran : Retells path path' .overran .overran
  | notStarted (cause : DiskCause) : Retells path path' (.notStarted cause) (.notStarted cause)

end Response

namespace Work

/-- The fault of a command that takes longer than it may. -/
def overrun (executable : String) (seconds : Option Int) : Fault :=
  if seconds.any isEndless then .endlessTimeout else .toolOverran executable seconds

theorem answer_of_overran {toolbox : Toolbox} {command : Command} {seconds : Option Int}
    (overran : limited seconds (toolbox.respond command) = .overran) :
    answer toolbox command seconds = .error (overrun command.executable seconds) := by
  rw [answer, overran, overrun]
  exact (apply_ite Except.error _ _ _).symm

theorem answer_of_endless {toolbox : Toolbox} {command : Command} {seconds : Option Int}
    {stdout stderr : List UInt8} {code : Int} (endless : seconds.any isEndless)
    (ended : limited seconds (toolbox.respond command) = .finished stdout stderr code) :
    answer toolbox command seconds = .error .endlessTimeout := by
  rw [answer, ended]
  exact if_pos endless

/-- Commands of one executable, one of which is answered as the other but for a path, have the same
fault, or both come to an end in their time. -/
theorem answer_of_retells {toolbox : Toolbox} {command command' : Command} {path path' : Path}
    (same : command.executable = command'.executable)
    (retells : (toolbox.respond command).Retells path path' (toolbox.respond command'))
    (seconds : Option Int) :
    (∃ fault, answer toolbox command seconds = .error fault ∧
        answer toolbox command' seconds = .error fault) ∨
      ∃ stdout stderr stdout' stderr' code,
        toolbox.respond command = .finished stdout stderr code ∧
        toolbox.respond command' = .finished stdout' stderr' code ∧
        ∀ n ∈ seconds, 0 ≤ n ∧ isEndless n = false := by
  have overran (limit : limited seconds (toolbox.respond command) = .overran)
      (limit' : limited seconds (toolbox.respond command') = .overran) :
      ∃ fault, answer toolbox command seconds = .error fault ∧
        answer toolbox command' seconds = .error fault := by
    refine ⟨_, answer_of_overran limit, ?_⟩
    rw [answer_of_overran limit', same]
  generalize said : toolbox.respond command = response at retells
  generalize said' : toolbox.respond command' = response' at retells
  rw [said, said'] at overran
  cases retells with
  | overran => exact .inl (overran (ite_self _) (ite_self _))
  | notStarted cause =>
      refine .inl ⟨.disk ⟨cause, command.executable⟩, ?_, ?_⟩
      · rw [answer, said]
        rfl
      · rw [answer, said', same]
        rfl
  | @finished stdout stderr stdout' stderr' code out err =>
      by_cases early : seconds.any (· < 0)
      · exact .inl (overran (if_pos early) (if_pos early))
      · have ended (stdout stderr : List UInt8) :
            limited seconds (.finished stdout stderr code) = .finished stdout stderr code :=
          if_neg early
        by_cases endless : seconds.any isEndless
        · refine .inl ⟨.endlessTimeout, ?_, ?_⟩
          · exact answer_of_endless endless ((congrArg _ said).trans (ended stdout stderr))
          · exact answer_of_endless endless ((congrArg _ said').trans (ended stdout' stderr'))
        · refine .inr ⟨_, _, _, _, _, rfl, rfl, fun n limit => ?_⟩
          rw [Option.mem_def.mp limit] at early endless
          exact ⟨by simpa using early, by simpa using endless⟩

end Work

namespace Session

open Analyzer

/-! ## Two runs -/

/-- A tool tells two checks the same, except that each is told the path of its own copy. The first
one is not told the folder of the second. -/
structure Echo (copy copy' : ScriptCopy) (response response' : Response) : Prop where
  retells : response.Retells copy.path copy'.path response'
  apart : ¬ response.Tells copy'.folder

/-- The tool of a check, if it is there, tells it and another one the same. -/
def ToolCheck.Echoes (settings : Settings) (toolbox : Toolbox) (check check' : ToolCheck) : Prop :=
  ∀ executable, Work.executableOf settings check.tool toolbox = .ok executable →
    Echo check.copy check'.copy (toolbox.respond (check.command settings executable))
      (toolbox.respond (check'.command settings executable))

/-- What the linter tells about a script under one mark, as it tells it under another. -/
def retold (settings : Settings) (script : Script) (mark mark' : String) (text : String) : String :=
  let copy (mark : String) : ScriptCopy :=
    .of settings mark .lint script.language script.sourceText
  Text.replaceAll (copy mark).path.toString (copy mark').path.toString text

section

variable {settings : Settings} {script : Script} {kind : AnalyzerKind} {tool mark mark' : String}

theorem ToolCheck.executable_command (check : ToolCheck) (settings : Settings)
    (executable : String) : (check.command settings executable).executable = executable :=
  rfl

/-- All that hand scripts to tools but the linter parse them behind a prologue. -/
theorem exists_ofKind_eq_parse (other : kind ≠ .lint) : ∃ prologue, ∀ mark,
    ToolCheck.ofKind settings mark script kind tool =
      .parse prologue settings mark kind tool script := by
  cases kind with
  | lint => exact absurd rfl other
  | strictMode => exact ⟨strictPrologue, fun _ => rfl⟩
  | _ => exact ⟨"", fun _ => rfl⟩

theorem failure_ofKind (mark mark' : String) :
    (ToolCheck.ofKind settings mark script kind tool).failure =
      (ToolCheck.ofKind settings mark' script kind tool).failure := by
  cases kind <;> rfl

variable (isMark : IsMark mark) (isMark' : IsMark mark')
  (visible : ∀ c ∈ settings.tempDir.toString.toList.head?, Text.isBlank c = false)

include isMark isMark' visible

/-- What a parse check makes of an answer does not depend on the mark. -/
theorem verdict_parse_eq (prologue : String) {stdout stderr stdout' stderr' : List UInt8}
    {code : Int}
    (echo : Echo (ToolCheck.parse prologue settings mark kind tool script).copy
      (ToolCheck.parse prologue settings mark' kind tool script).copy
      (.finished stdout stderr code) (.finished stdout' stderr' code)) :
    (ToolCheck.parse prologue settings mark' kind tool script).verdict
        ⟨Text.Utf8.decodeLossy stdout', Text.Utf8.decodeLossy stderr', code⟩ =
      (ToolCheck.parse prologue settings mark kind tool script).verdict
        ⟨Text.Utf8.decodeLossy stdout, Text.Utf8.decodeLossy stderr, code⟩ := by
  have underscore {mark : String} (isMark : IsMark mark) (text : String) : '_' ∈
      (ScriptCopy.of settings mark kind script.language text).folder.toString.toList := by
    rw [ScriptCopy.toList_folder settings kind script.language text isMark]
    simp
  have folder {mark : String} (isMark : IsMark mark) (text : String) :=
    ScriptCopy.folder_infix_path settings kind script.language text isMark
  obtain ⟨⟨out, err⟩, apart⟩ := echo
  have quiet {text : String} (told : text ∈ (Response.finished stdout stderr code).texts) :=
    fun inside => apart ⟨text, told, inside⟩
  simp only [ToolCheck.parse] at out err ⊢
  rw [out, err]
  exact ParseCheck.verdict_replaceAll (ScriptCopy.isTight_path _ _ _ _ isMark visible)
    (ScriptCopy.isTight_path _ _ _ _ isMark' visible) _ _ _
    (ScriptCopy.unmixed_paths _ _ _ _ isMark isMark')
    ((folder isMark _).subset (underscore isMark _)) (underscore isMark' _)
    (quiet (by simp [Response.texts])) (quiet (by simp [Response.texts])) _ _ _

omit isMark isMark' visible in
/-- The mark has no part in an analysis but in how the script is handed over. -/
theorem outcome_marked (hands : handedTo? script.language kind = some tool) (m : Machine)
    (mark : String) :
    let check := ToolCheck.ofKind settings mark script kind tool
    outcome settings (view settings (m.marked mark)) script kind = orSkipped kind (do
      (view settings m).temporary
      orFailed check.failure do
        let executable ← Work.executableOf settings tool m.toolbox
        let output ← Work.answer m.toolbox (check.command settings executable)
          (settings.tool tool).timeout
        check.verdict output) := by
  intro check
  have isTool : check.tool = tool := tool_ofKind hands settings mark
  have isKind : check.kind = kind := kind_ofKind settings mark script kind tool
  have same : outcome settings (view settings (m.marked mark)) script kind =
      check.outcome settings (view settings (m.marked mark)) := outcome_eq_ofKind hands _
  rw [same, ToolCheck.outcome, copyOutcome, ScriptCopy.answer, isTool, isKind]
  change orSkipped kind ((view settings m).temporary >>= fun _ => orFailed check.failure
    ((Work.executableOf settings tool m.toolbox >>= _) >>= _)) = _
  cases Work.executableOf settings tool m.toolbox with
  | error fault => rfl
  | ok executable =>
      simp only [ToolCheck.command, isTool, isKind]
      rfl

/-- What a tool that was found leads to is the same for two checks that it tells the same, unless
the linter has ended. -/
theorem answered_eq_or_linterEnds {m : Machine} {executable : String}
    (hands : handedTo? script.language kind = some tool)
    (temporary : (view settings m).temporary = .ok ())
    (found : Work.executableOf settings tool m.toolbox = .ok executable)
    (echo : Echo (ToolCheck.ofKind settings mark script kind tool).copy
      (ToolCheck.ofKind settings mark' script kind tool).copy
      (m.toolbox.respond
        ((ToolCheck.ofKind settings mark script kind tool).command settings executable))
      (m.toolbox.respond
        ((ToolCheck.ofKind settings mark' script kind tool).command settings executable))) :
    let answered (mark : String) : Result AnalysisResult :=
      let check := ToolCheck.ofKind settings mark script kind tool
      Work.answer m.toolbox (check.command settings executable) (settings.tool tool).timeout >>=
        check.verdict
    answered mark = answered mark' ∨
      kind = .lint ∧ ∃ stdout stderr code,
        LinterEnds settings script (m.marked mark) stdout stderr code := by
  intro answered
  have same := ToolCheck.executable_command
    (ToolCheck.ofKind settings mark script kind tool) settings executable
  have same' := ToolCheck.executable_command
    (ToolCheck.ofKind settings mark' script kind tool) settings executable
  rcases Work.answer_of_retells (same.trans same'.symm) echo.retells
      (settings.tool tool).timeout with
    ⟨fault, failed, failed'⟩ | ⟨stdout, stderr, stdout', stderr', code, said, said', time⟩
  · left
    simp only [answered, failed, failed', Result.error_bind]
  · by_cases linter : kind = .lint
    · right
      subst linter
      obtain rfl := Option.some.inj hands
      exact ⟨rfl, _, _, _, temporary_view_eq_ok_iff.mp temporary, ⟨executable, found, said⟩, time⟩
    · left
      obtain ⟨prologue, is⟩ := exists_ofKind_eq_parse linter
      simp only [answered, Work.answer_of_finished said time, Work.answer_of_finished said' time,
        Result.ok_bind]
      rw [said, said', is, is] at echo
      rw [is, is, verdict_parse_eq isMark isMark' visible prologue echo]

/-- Two runs to which a tool tells the same come to the same, unless the linter has ended. -/
theorem outcome_eq_or_linterEnds {m : Machine}
    (echoes : ∀ tool ∈ handedTo? script.language kind,
      (ToolCheck.ofKind settings mark script kind tool).Echoes settings m.toolbox
        (.ofKind settings mark' script kind tool)) :
    outcome settings (view settings (m.marked mark)) script kind =
        outcome settings (view settings (m.marked mark')) script kind ∨
      kind = .lint ∧ ∃ stdout stderr code,
        LinterEnds settings script (m.marked mark) stdout stderr code := by
  cases hands : handedTo? script.language kind with
  | none => exact .inl (outcome_congr_of_handedTo? hands _ _)
  | some tool =>
      rw [outcome_marked hands, outcome_marked hands, failure_ofKind mark' mark]
      cases temporary : (view settings m).temporary with
      | error fault =>
          left
          rw [Result.error_bind, Result.error_bind]
      | ok _ =>
          cases found : Work.executableOf settings tool m.toolbox with
          | error fault =>
              left
              rw [Result.error_bind, Result.error_bind]
          | ok executable =>
              have echo := echoes tool hands executable (by rw [tool_ofKind hands, found])
              refine (answered_eq_or_linterEnds isMark isMark' visible hands temporary found
                echo).imp_left fun same => ?_
              exact congrArg (fun answered => orSkipped kind (orFailed _ answered)) same

omit isMark isMark' visible in
/-- A linter that ends under one mark ends under another one that it is told alike. -/
theorem linterEnds_marked {m : Machine}
    (echoes : (ToolCheck.ofKind settings mark script .lint "shellcheck").Echoes settings m.toolbox
      (.ofKind settings mark' script .lint "shellcheck"))
    {stdout stderr : List UInt8} {code : Int}
    (ends : LinterEnds settings script (m.marked mark) stdout stderr code) :
    ∃ stdout' stderr', LinterEnds settings script (m.marked mark') stdout' stderr' code ∧
      Text.Utf8.decodeLossy stdout' =
        retold settings script mark mark' (Text.Utf8.decodeLossy stdout) ∧
      Text.Utf8.decodeLossy stderr' =
        retold settings script mark mark' (Text.Utf8.decodeLossy stderr) := by
  obtain ⟨executable, found, said⟩ := ends.ends
  have retells := (echoes executable found).retells
  change Response.Retells _ _
    (m.toolbox.respond (lintCommand settings script (m.marked mark) executable)) _ at retells
  change m.toolbox.respond _ = _ at said
  rw [said] at retells
  generalize said' : m.toolbox.respond ((ToolCheck.ofKind settings mark' script .lint
    "shellcheck").command settings executable) = response' at retells
  obtain @⟨_, _, stdout', stderr', _, out, err⟩ := retells
  exact ⟨stdout', stderr', ⟨ends.temporary, ⟨executable, found, said'⟩, ends.time⟩, out, err⟩

/-- Two runs of the linter that ends and tells both the same come to the same result exactly if
what reaches it does not change with the path. -/
theorem toOption_lint_eq_iff {m : Machine}
    (echoes : (ToolCheck.ofKind settings mark script .lint "shellcheck").Echoes settings m.toolbox
      (.ofKind settings mark' script .lint "shellcheck"))
    {stdout stderr : List UInt8} {code : Int}
    (ends : LinterEnds settings script (m.marked mark) stdout stderr code) :
    (((builtin settings .lint).analyze script).run (m.marked mark)).1.toOption =
        (((builtin settings .lint).analyze script).run (m.marked mark')).1.toOption ↔
      Lint.Agree (Text.Utf8.decodeLossy stdout) (Text.Utf8.decodeLossy stderr)
        (retold settings script mark mark' (Text.Utf8.decodeLossy stdout))
        (retold settings script mark mark' (Text.Utf8.decodeLossy stderr)) code := by
  obtain ⟨stdout', stderr', ends', out, err⟩ := linterEnds_marked echoes ends
  rw [run_lint_of_linterEnds ends, run_lint_of_linterEnds ends', out, err]
  exact Lint.toOption_verdict_eq_iff (Lint.detail_replaceAll_eq_empty_iff
    (ScriptCopy.isTight_path _ _ _ _ isMark visible)
    (ScriptCopy.isTight_path _ _ _ _ isMark' visible) _)

/-- Two runs of an analysis whose temporary folders have different marks, and to which the tool
tells the same but for the paths of the copies, come to the same result, unless the linter has ended
and what reaches the result of what it told changes with the path. Nothing is asked of the answer to
the second run; the folder for temporary ones must not begin with a blank, which would be stripped
off a path at the front of a message. -/
theorem toOption_analyze_eq_iff {m : Machine}
    (echoes : ∀ tool ∈ handedTo? script.language kind,
      (ToolCheck.ofKind settings mark script kind tool).Echoes settings m.toolbox
        (.ofKind settings mark' script kind tool)) :
    (((builtin settings kind).analyze script).run (m.marked mark)).1.toOption =
        (((builtin settings kind).analyze script).run (m.marked mark')).1.toOption ↔
      (kind = .lint → ∀ stdout stderr code,
        LinterEnds settings script (m.marked mark) stdout stderr code →
        Lint.Agree (Text.Utf8.decodeLossy stdout) (Text.Utf8.decodeLossy stderr)
          (retold settings script mark mark' (Text.Utf8.decodeLossy stdout))
          (retold settings script mark mark' (Text.Utf8.decodeLossy stderr)) code) := by
  constructor
  · rintro same rfl stdout stderr code ends
    exact (toOption_lint_eq_iff isMark isMark' visible (echoes _ rfl) ends).mp same
  · intro agree
    rcases outcome_eq_or_linterEnds isMark isMark' visible echoes with
      same | ⟨rfl, stdout, stderr, code, ends⟩
    · rw [run_analyze_fst, run_analyze_fst, same]
    · rw [toOption_lint_eq_iff isMark isMark' visible (echoes _ rfl) ends]
      exact agree rfl stdout stderr code ends

end

/-- A machine without files where everything is installed and every command is answered from its
last argument. -/
def telling (respond : String → Response) : Machine where
  toolbox :=
    { which := fun name => some ("/bin/" ++ name)
      respond := fun command => respond (command.arguments.getLast?.getD "") }
  disk := .empty []
  temporaryMark := ""

section

variable {settings : Settings} {respond : String → Response}

theorem respond_telling (check : ToolCheck) (executable : String) :
    (telling respond).toolbox.respond (check.command settings executable) =
      respond check.copy.path.toString := by
  simp only [telling, ToolCheck.command, ScriptCopy.command, List.getLast?_concat,
    Option.getD_some]

/-- A tool that writes the path of the copy, and words without a slash behind it, tells two checks
the same. -/
theorem echo_of_path_append {copy copy' : ScriptCopy} {words : String} {code : Int}
    (slash : '/' ∈ copy.path.toString.toList) (absent : '/' ∉ words.toList)
    (apart : ¬ (Response.finished []
      (Text.Utf8.encodeString (copy.path.toString ++ words)) code).Tells copy'.folder) :
    Echo copy copy'
      (.finished [] (Text.Utf8.encodeString (copy.path.toString ++ words)) code)
      (.finished [] (Text.Utf8.encodeString (copy'.path.toString ++ words)) code) := by
  have nothing : ¬ copy.path.toString.toList <:+: (Text.Utf8.decodeLossy []).toList :=
    Text.notInfix_of_notMem nofun slash
  refine ⟨.finished (Text.replaceAll_eq_self nothing).symm ?_, apart⟩
  rw [Text.Utf8.decodeLossy_encodeString, Text.Utf8.decodeLossy_encodeString]
  exact (Text.replaceAll_append (List.ne_nil_of_mem slash)
    (Text.notInfix_of_notMem absent slash) _).symm

theorem echoes_telling {check check' : ToolCheck}
    (echo : Echo check.copy check'.copy (respond check.copy.path.toString)
      (respond check'.copy.path.toString)) :
    check.Echoes settings (telling respond).toolbox check' := by
  intro executable _
  rw [respond_telling, respond_telling]
  exact echo

end

/-- A parser that tells the path is not told apart. -/
theorem toOption_analyze_eq_of_python :
    let script : Script := ⟨"s", .python3, none, "(", [], true⟩
    let settings := Settings.atRoot
    let m := telling fun path => .finished [] (Text.Utf8.encodeString (path ++ ": no")) 1
    IsMark "aaaaaaaa" ∧ IsMark "bbbbbbbb" ∧
      (∀ c ∈ settings.tempDir.toString.toList.head?, Text.isBlank c = false) ∧
      (∀ tool ∈ handedTo? script.language .parses,
        (ToolCheck.ofKind settings "aaaaaaaa" script .parses tool).Echoes settings m.toolbox
          (.ofKind settings "bbbbbbbb" script .parses tool)) ∧
      (((builtin settings .parses).analyze script).run (m.marked "aaaaaaaa")).1.toOption =
        (((builtin settings .parses).analyze script).run (m.marked "bbbbbbbb")).1.toOption := by
  intro script settings m
  have isMark : IsMark "aaaaaaaa" := by decide
  have isMark' : IsMark "bbbbbbbb" := by decide
  have begins : settings.tempDir.toString.toList.head? = some '/' := by decide +kernel
  have visible : ∀ c ∈ settings.tempDir.toString.toList.head?, Text.isBlank c = false := by
    rw [begins]
    rintro _ ⟨⟩
    decide
  have echoes : ∀ tool ∈ handedTo? script.language .parses,
      (ToolCheck.ofKind settings "aaaaaaaa" script .parses tool).Echoes settings m.toolbox
        (.ofKind settings "bbbbbbbb" script .parses tool) := by
    rintro tool ⟨⟩
    exact echoes_telling (echo_of_path_append (ScriptCopy.slash_mem_path _ _ _ _ isMark)
      (by decide) (by decide +kernel))
  refine ⟨isMark, isMark', visible, echoes, ?_⟩
  apply (toOption_analyze_eq_iff isMark isMark' visible echoes).mpr
  exact nofun

/-- A linter that fails tells the folder of each run in its result. -/
theorem lint_tells_temporary_folder :
    let script : Script := ⟨"s", .bash, none, "ls", [], true⟩
    let settings := Settings.atRoot
    let check (mark : String) := ToolCheck.ofKind settings mark script .lint "shellcheck"
    let m := telling fun path =>
      .finished [] (Text.Utf8.encodeString (path ++ ": does not exist")) 2
    let messages (mark : String) : Option (List String) :=
      (((builtin settings .lint).analyze script).run (m.marked mark)).1.toOption.map
        (·.findings.map (·.message))
    IsMark "aaaaaaaa" ∧ IsMark "bbbbbbbb" ∧
      (check "aaaaaaaa").Echoes settings m.toolbox (check "bbbbbbbb") ∧
      (check "bbbbbbbb").Echoes settings m.toolbox (check "aaaaaaaa") ∧
      messages "aaaaaaaa" = some ["ShellCheck did not produce a report: " ++
        "/tmp/scriptgate_lint_aaaaaaaa/script.sh: does not exist"] ∧
      messages "bbbbbbbb" = some ["ShellCheck did not produce a report: " ++
        "/tmp/scriptgate_lint_bbbbbbbb/script.sh: does not exist"] := by
  intro script settings check m messages
  have isMark : IsMark "aaaaaaaa" := by decide
  have isMark' : IsMark "bbbbbbbb" := by decide
  refine ⟨isMark, isMark', ?_, ?_, by decide +kernel, by decide +kernel⟩
  · exact echoes_telling (echo_of_path_append (ScriptCopy.slash_mem_path _ _ _ _ isMark)
      (by decide) (by decide +kernel))
  · exact echoes_telling (echo_of_path_append (ScriptCopy.slash_mem_path _ _ _ _ isMark')
      (by decide) (by decide +kernel))

end Session

end ScriptVet
