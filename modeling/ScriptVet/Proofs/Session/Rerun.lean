import ScriptVet.Proofs.Session.FirstRun

/-!
# Tests that are run again

The tests of a script read what was built and ask the analyzers anew, past the cache. Where a script
is written as it was given they come to what its report says, however often they are run and
whatever else happens meanwhile, as long as the built file, the tools and the folder for temporary
ones stay.
-/

namespace ScriptVet

open Activity Analyzer Disk

namespace Session

variable {settings : Settings} {s s' : Session}

/-- Building a described script is loading it and building it in order. -/
theorem build_eq_ok {descriptor : Descriptor} {extras : List (String × ExtraTest)}
    {base? : Option Path} {output : BuildOutput}
    (built : (build descriptor extras base?).run s = (.ok output, s')) :
    ∃ script, descriptor.toScript s.machine.disk base? = .ok script ∧
      (buildInOrder script descriptor.selection extras).run s = (.ok output, s') := by
  obtain ⟨script, s1, loaded, settled⟩ := run_bind_eq_ok.mp built
  obtain ⟨_, _, got, loaded⟩ := run_bind_eq_ok.mp loaded
  cases got
  rw [run_liftM] at loaded
  obtain ⟨given, rfl⟩ := Prod.mk.inj loaded
  refine ⟨script, given, ?_⟩
  rw [run_settle] at settled
  rcases inOrder : (buildInOrder script descriptor.selection extras).run s with ⟨result, last⟩
  rw [inOrder] at settled
  cases result with
  | ok value => exact settled
  | error fault => cases settled

/-! ## Other temporary folders -/

/-- What the tool of an analysis tells about a script under two marks is the same but for the path
of the copy, and that path is not in what is read of the linter's report. -/
structure TellsAlike (settings : Settings) (toolbox : Toolbox) (script : Script)
    (kind : AnalyzerKind) (mark mark' : String) : Prop where
  isMark : IsMark mark
  isMark' : IsMark mark'
  visible : ∀ c ∈ settings.tempDir.toString.toList.head?, Text.isBlank c = false
  echoes : ∀ tool ∈ handedTo? script.language kind,
    (ToolCheck.ofKind settings mark script kind tool).Echoes settings toolbox
      (.ofKind settings mark' script kind tool)
  reports : kind = .lint → ∀ executable stdout stderr code,
    Work.executableOf settings "shellcheck" toolbox = .ok executable →
    toolbox.respond ((ToolCheck.ofKind settings mark script .lint "shellcheck").command settings
      executable) = .finished stdout stderr code →
    Lint.told? (Text.Utf8.decodeLossy stdout) code =
      Lint.told? (retold settings script mark mark' (Text.Utf8.decodeLossy stdout)) code

/-- Analyses come to results of the same status under marks under which the tools tell alike. -/
theorem exists_outcome_of_tellsAlike {m : Machine} {script : Script} {kind : AnalyzerKind}
    {mark mark' : String} {r : AnalysisResult}
    (alike : TellsAlike settings m.toolbox script kind mark mark')
    (comes : outcome settings (view settings (m.marked mark)) script kind = .ok r) :
    ∃ r', outcome settings (view settings (m.marked mark')) script kind = .ok r' ∧
      r'.status = r.status := by
  rcases outcome_eq_or_linterEnds alike.isMark alike.isMark' alike.visible alike.echoes with
    same | ⟨rfl, stdout, stderr, code, ends⟩
  · exact ⟨r, same.symm.trans comes, rfl⟩
  · obtain ⟨stdout', stderr', ends', out, -⟩ := linterEnds_marked (alike.echoes _ rfl) ends
    obtain ⟨executable, found, said⟩ := ends.ends
    have told := alike.reports rfl executable stdout stderr code found said
    rw [← out] at told
    have linted {mark : String} {stdout stderr : List UInt8}
        (ends : LinterEnds settings script (m.marked mark) stdout stderr code) :
        (outcome settings (view settings (m.marked mark)) script .lint).toOption =
          (Lint.told? (Text.Utf8.decodeLossy stdout) code).map
            (Lint.conclusion (Text.Utf8.decodeLossy stderr) code) := by
      rw [← Lint.toOption_verdict, ← run_lint_of_linterEnds ends, ← run_analyze_fst]
    have first := linted ends
    rw [comes] at first
    obtain ⟨report, given, rfl⟩ := Option.map_eq_some_iff.mp first.symm
    have second := linted ends'
    rw [← told, given] at second
    cases comes' : outcome settings (view settings (m.marked mark')) script .lint with
    | error fault =>
        rw [comes'] at second
        cases second
    | ok r' =>
        rw [comes'] at second
        refine ⟨r', rfl, ?_⟩
        rw [Option.some.inj second]
        cases report with
        | none =>
            exact (Lint.holdsError_failureOf _ _).1.trans (Lint.holdsError_failureOf _ _).1.symm
        | some report => rfl

/-! ## Running a test -/

section

variable {inv : Machine → Prop} {m : Machine}

theorem ensures_noteResult (lasting : Machine.Lasting settings inv) (h : inv m) (test : TestCase)
    (kind : AnalyzerKind) (r : AnalysisResult) :
    (test.noteResult kind r m).Ensures inv fun result m' => inv m' ∧ result = .ok () := by
  have notes (text : Finding → String) (findings : List Finding) {m : Machine} (h : inv m) :
      ((findings.forM fun finding => Work.note .error (text finding)) m).Ensures inv
        fun result m' => inv m' ∧ result = .ok () := by
    induction findings generalizing m with
    | nil => exact ⟨h, rfl⟩
    | cons finding findings ih =>
        change ((Work.note .error (text finding) >>= fun _ => findings.forM _) m).Ensures inv _
        rw [Work.note, modify_bind_apply]
        exact ih (lasting.noted h _)
  have failures {m : Machine} (h : inv m) :
      ((if r.failed then r.findings.forM fun finding =>
        Work.note .error (test.artifact.name ++ ": " ++ finding.format) else pure () :
          Work Unit) m).Ensures inv fun result m' => inv m' ∧ result = .ok () := by
    split
    · exact notes _ _ h
    · exact ⟨h, rfl⟩
  unfold TestCase.noteResult
  by_cases skipped : r.status = .skipped
  · simp only [if_pos skipped]
    exact failures (lasting.noted h _)
  · simp only [if_neg skipped]
    exact failures h

/-- A test that asks an analyzer comes to what the analysis of the built file comes to. -/
theorem ensures_runAnalyzer (lasting : Machine.Lasting settings inv) (h : inv m) (test : TestCase)
    (kind : AnalyzerKind) :
    (test.runAnalyzer (builtin settings kind) m).Ensures inv fun result m' => inv m' ∧
      result = (do
        let script ← test.artifact.toScript m.disk
        let r ← outcome settings (view settings m) script kind
        .ok (.ofFailed r.failed)) := by
  have loads : (test.script m).Ensures inv fun result m' =>
      m' = m ∧ result = test.artifact.toScript m.disk := ⟨rfl, rfl⟩
  rw [TestCase.runAnalyzer]
  refine ensures_bind loads (fun script m' ⟨same, loaded⟩ => ?_) fun fault m' ⟨same, failed⟩ => ?_
  · subst same
    rw [← loaded]
    refine ensures_bind (Analyzer.ensures_analyze lasting h kind script)
      (fun r m' ⟨h', comes⟩ => ?_) fun fault m' ⟨h', failed⟩ => ⟨h', ?_⟩
    · refine ensures_bind (ensures_noteResult lasting h' test _ r)
        (fun _ m'' ⟨h'', _⟩ => ⟨h'', ?_⟩) fun fault m'' ⟨_, failed⟩ => nomatch failed
      rw [Result.ok_bind, ← comes]
      rfl
    · rw [Result.ok_bind, ← failed]
      rfl
  · subst same
    rw [← failed]
    exact ⟨h, rfl⟩

theorem ensures_runExtra (h : inv m) (test : TestCase) (extra : ExtraTest) :
    (test.runExtra extra m).Ensures inv fun _ m' => inv m' := by
  cases extra with
  | answers word =>
      rw [TestCase.runExtra]
      cases Verdict.words.lookup word <;> exact h
  | contains part =>
      change ((liftM (test.artifact.readText m.disk) >>= _ : Work Verdict) m).Ensures inv _
      rw [liftM_bind_apply]
      cases test.artifact.readText m.disk <;> exact h

end

/-! ## What the first build leaves -/

/-- What is known after the first build with an empty cache: the built file is the script again, and
the results of its report are what the analyses come to. -/
structure FirstBuilt (settings : Settings) (script : Script) (selection : Selection)
    (extras : List (String × ExtraTest)) (toolbox : Toolbox) (mark : String) (m : Machine)
    (output : BuildOutput) : Prop where
  tools : m.toolbox = toolbox
  temporary : (handedTo? script.language .parses).isSome →
    (m.disk.ensureFolders settings.tempDir).isOk
  again : output.artifact.toScript m.disk = .ok script
  right : ∀ r ∈ output.report.results,
    IsRight settings toolbox mark script (selection.kindsFor script.language) r
  parses : ∃ r ∈ output.report.results, r.kind = .parses
  tests : TestMap.generate (builtinAnalyzers settings) output.report output.artifact selection
    extras = .ok output.tests

/-- Text in which every line ending is a line feed already. -/
theorem rebuilt_eq_self {toolbox : Toolbox} {script : Script} (verbatim : Builder.IsVerbatim script)
    (plain : '\r' ∉ script.sourceText.toList) :
    Builder.rebuilt settings toolbox script = script := by
  rw [Builder.rebuilt, Builder.builtText_of_isVerbatim settings toolbox verbatim,
    Text.readNewlines_eq_self_iff.mpr plain, String.ofList_toList]

/-- A text that is read from a file has no carriage return. -/
theorem carriageReturn_notMem_of_readText {descriptor : Descriptor} {disk : Disk}
    {base? : Option Path} {text : String}
    (plain : ∀ text, descriptor.source = .text text → '\r' ∉ text.toList)
    (read : descriptor.readText disk base? = .ok text) : '\r' ∉ text.toList := by
  have unix {p : Path} (read : Descriptor.readTextFile disk p = .ok text) :
      '\r' ∉ text.toList := by
    rw [Descriptor.readTextFile] at read
    split at read
    · cases read
    · split at read
      · cases read
      · obtain rfl := Except.ok.inj read
        rw [String.toList_ofList]
        exact Text.not_mem_readNewlines _
  rw [Descriptor.readText] at read
  cases given : descriptor.source with
  | text inline =>
      rw [given] at read
      obtain rfl := Except.ok.inj read
      exact plain inline given
  | file p =>
      rw [given] at read
      simp only at read
      split at read
      · split at read <;> cases read
      · exact unix read

theorem firstBuilt_of_buildInOrder {script : Script} {selection : Selection}
    {extras : List (String × ExtraTest)} {output : BuildOutput}
    (empty : s.CacheIsEmpty settings) (on : selection.isEnabled .parses)
    (named : Checked.isName script.name) (some : script.sourceText ≠ "")
    (verbatim : Builder.IsVerbatim script)
    (plain : '\r' ∉ script.sourceText.toList)
    (built : (buildInOrder script selection extras).run s = (.ok output, s')) :
    FirstBuilt settings script selection extras s.machine.toolbox s.machine.temporaryMark s'.machine
      output := by
  obtain ⟨found, s1, analyzed, finished⟩ := run_bind_eq_ok.mp built
  obtain ⟨h1, right, parses⟩ := results_of_first_run empty on analyzed
  obtain ⟨disk, wrote, rfl, reported, tests⟩ := finish_eq_ok finished
  have same := Builder.toScript_of_build named some wrote
  obtain ⟨-, -, writes, -⟩ := Builder.hasFiles_of_build named wrote
  rw [h1.analyzers] at tests
  subst reported
  refine ⟨h1.machine.toolbox, fun needed => ?_, ?_, right, parses, tests⟩
  · have leads := (h1.machine.temporary needed).mono writes.keepsFolders
    rw [ensureFolders_of_leadsToFolder leads]
    rfl
  · rw [same, rebuilt_eq_self verbatim plain]

theorem firstBuilt_of_build {descriptor : Descriptor} {base? : Option Path} {script : Script}
    {extras : List (String × ExtraTest)} {output : BuildOutput}
    (empty : s.CacheIsEmpty settings) (named : Checked.isName descriptor.name)
    (loaded : descriptor.toScript s.machine.disk base? = .ok script)
    (verbatim : Builder.IsVerbatim script)
    (plain : ∀ text, descriptor.source = .text text → '\r' ∉ text.toList)
    (built : (build descriptor extras base?).run s = (.ok output, s')) :
    FirstBuilt settings script descriptor.selection extras s.machine.toolbox
      s.machine.temporaryMark s'.machine output := by
  obtain ⟨script', loaded', inOrder⟩ := build_eq_ok built
  obtain rfl := Except.ok.inj (loaded.symm.trans loaded')
  obtain ⟨text, languageName, read, some, fields⟩ := Descriptor.toScript_eq_ok loaded
  have isName : Checked.isName script.name := by
    rw [fields]
    exact named
  have someText : script.sourceText ≠ "" := by
    rw [fields]
    exact some
  have unix : '\r' ∉ script.sourceText.toList := by
    rw [fields]
    exact carriageReturn_notMem_of_readText plain read
  exact firstBuilt_of_buildInOrder empty rfl isName someText verbatim unix inOrder

/-! ## After the build -/

/-- What the tests of a built script rely on. -/
structure Serves (settings : Settings) (toolbox : Toolbox) (script : Script) (artifact : Artifact)
    (m : Machine) : Prop where
  tools : m.toolbox = toolbox
  temporary : (handedTo? script.language .parses).isSome →
    (m.disk.ensureFolders settings.tempDir).isOk
  again : artifact.toScript m.disk = .ok script

theorem lasting_serves {toolbox : Toolbox} {script : Script} {artifact : Artifact} :
    Machine.Lasting settings (Serves settings toolbox script artifact) where
  called h _ := ⟨h.tools, h.temporary, h.again⟩
  noted h _ := ⟨h.tools, h.temporary, h.again⟩
  begun h _ := ⟨h.tools, h.temporary, h.again⟩
  made {m} h disk made := by
    have provides := provides_of_ensureFolders made
    refine ⟨h.tools, fun _ => ?_, ?_⟩
    · rw [ensureFolders_of_leadsToFolder provides.leads]
      rfl
    · have again := h.again
      rw [Artifact.toScript, Artifact.readText, Descriptor.readTextFile] at again ⊢
      cases given : m.disk.read artifact.path with
      | error e =>
          rw [given] at again
          cases again
      | ok content =>
          rw [given] at again
          rw [read_of_addsFolders provides.adds given]
          exact again

/-- What becomes of a machine after a build: tests are run again and again, each under a mark of its
own, and other things happen that leave alone the built file, the tools and whether temporary
folders can be made. -/
inductive Reran (settings : Settings) (output : BuildOutput) (built : Machine) :
    Machine → Prop where
  | start : Reran settings output built built
  | run {m id test} (h : Reran settings output built m) (mark : String)
    (ours : (id, test) ∈ output.tests) :
    Reran settings output built (test.run.run (m.marked mark)).2
  | meanwhile {m m'} (h : Reran settings output built m) (tools : m'.toolbox = m.toolbox)
    (untouched : output.artifact.readText m'.disk = output.artifact.readText m.disk)
    (temporary : (m.disk.ensureFolders settings.tempDir).isOk →
      (m'.disk.ensureFolders settings.tempDir).isOk) :
    Reran settings output built m'

section

variable {script : Script} {selection : Selection} {extras : List (String × ExtraTest)}
  {toolbox : Toolbox} {mark : String} {built m : Machine} {output : BuildOutput}
  (first : FirstBuilt settings script selection extras toolbox mark built output)

include first

/-- What the tests do: they look at the built file or ask an analyzer of a kind in the report. -/
theorem FirstBuilt.run_eq {id : String} {test : TestCase} (ours : (id, test) ∈ output.tests) :
    test.artifact = output.artifact ∧
      ((test.kind? = none ∧ ∃ extra, test.run = test.runExtra extra) ∨
        ∃ kind, (∃ r ∈ output.report.results, r.kind = kind) ∧ test.kind? = some kind ∧
          test.run = test.runAnalyzer (builtin settings kind)) := by
  rcases TestMap.eq_of_mem_generate first.tests ours with
    ⟨extra, -, same⟩ | ⟨kind, tested, analyzer, asks, same⟩
  · obtain ⟨rfl, rfl⟩ := Prod.mk.inj same
    exact ⟨rfl, .inl ⟨rfl, extra.2, rfl⟩⟩
  · obtain rfl := Except.ok.inj ((TestMap.analyzerOf_builtin settings kind).symm.trans asks)
    obtain ⟨rfl, rfl⟩ := Prod.mk.inj same
    refine ⟨rfl, .inr ⟨kind, ?_, congrArg some (kind_builtin settings kind), rfl⟩⟩
    · have reported {kind : AnalyzerKind}
          (listed : kind ∈ (output.report.results.map (·.kind)).filter selection.isEnabled) :
          ∃ r ∈ output.report.results, r.kind = kind :=
        List.mem_map.mp (List.mem_filter.mp listed).1
      simp only [TestMap.kinds] at tested
      split at tested
      · exact reported tested
      · rcases List.mem_cons.mp tested with rfl | listed
        · exact first.parses
        · exact reported listed

/-- Whatever happens after the build, the tests find what they rely on. -/
theorem FirstBuilt.serves_of_reran (reran : Reran settings output built m) :
    Serves settings toolbox script output.artifact m := by
  induction reran with
  | start => exact ⟨first.tools, first.temporary, first.again⟩
  | @run m id test h mark ours ih =>
      have marked : Serves settings toolbox script output.artifact (m.marked mark) :=
        ⟨ih.tools, ih.temporary, ih.again⟩
      obtain ⟨-, ⟨-, extra, run⟩ | ⟨kind, -, -, run⟩⟩ := first.run_eq ours
      · rw [run]
        exact ensures_run (ensures_runExtra marked test extra)
      · rw [run]
        exact (ensures_run (ensures_runAnalyzer lasting_serves marked test kind)).1
  | meanwhile h tools untouched temporary ih =>
      refine ⟨tools.trans ih.tools, fun needed => temporary (ih.temporary needed), ?_⟩
      rw [Artifact.toScript, untouched]
      exact ih.again

/-- The analysis that gave a result of the report gives that result again, or one that fails just as
it does if the temporary folder has another mark. -/
theorem FirstBuilt.exists_outcome (reran : Reran settings output built m) {r : AnalysisResult}
    (reported : r ∈ output.report.results) {mark' : String}
    (steady : mark' = mark ∨ TellsAlike settings toolbox script r.kind mark mark') :
    ∃ r', outcome settings (view settings (m.marked mark')) script r.kind = .ok r' ∧
      r'.status = r.status := by
  have right := first.right r reported
  have serves := first.serves_of_reran reran
  have comes : outcome settings (view settings (m.marked mark)) script r.kind = .ok r := by
    refine outcome_of_comesTo (fun hands => serves.temporary ?_) ?_
    · exact hands_parses right.mem hands
    · change ComesTo settings m.toolbox mark script r.kind r
      rw [serves.tools]
      exact right.comes
  rcases steady with rfl | alike
  · exact ⟨r, comes, rfl⟩
  · exact exists_outcome_of_tellsAlike (serves.tools ▸ alike) comes

end

/-- The tests of a script agree with its report. The script is built while the cache is empty, it is
written as it was given, and its text has no carriage return, which a text that is read from a file
never has. Then a test, whenever it is run and however often tests have been run before, fails
exactly if the result of its kind in the report failed. The mark of the temporary folder may be
another one each time as long as the tools tell alike under it. -/
theorem runTest_agrees {descriptor : Descriptor} {base? : Option Path} {script : Script}
    {extras : List (String × ExtraTest)} {output : BuildOutput}
    (empty : s.CacheIsEmpty settings) (named : Checked.isName descriptor.name)
    (loaded : descriptor.toScript s.machine.disk base? = .ok script)
    (verbatim : Builder.IsVerbatim script)
    (plain : ∀ text, descriptor.source = .text text → '\r' ∉ text.toList)
    (built : (build descriptor extras base?).run s = (.ok output, s')) {later : Machine}
    (reran : Reran settings output s'.machine later) {id : String} {test : TestCase}
    (ours : (id, test) ∈ output.tests) {kind : AnalyzerKind} (asks : test.kind? = some kind)
    {mark : String} (steady : mark = s.machine.temporaryMark ∨
      TellsAlike settings s.machine.toolbox script kind s.machine.temporaryMark mark) :
    ∃ r verdict, output.report.resultFor kind = some r ∧
      (test.run.run (later.marked mark)).1 = .ok verdict ∧
      (verdict = .fail ↔ r.status = .fail) := by
  have first := firstBuilt_of_build empty named loaded verbatim plain built
  obtain ⟨same, ⟨other, -⟩ | ⟨kind', ⟨r', hr', isKind'⟩, asks', run⟩⟩ := first.run_eq ours
  · rw [other] at asks
    cases asks
  obtain rfl := Option.some.inj (asks'.symm.trans asks)
  obtain ⟨r, found⟩ : ∃ r, output.report.resultFor kind' = .some r := by
    rw [← Option.isSome_iff_exists, Report.resultFor, List.find?_isSome]
    exact ⟨r', hr', by simpa using isKind'⟩
  have isKind : r.kind = kind' := by simpa using List.find?_some found
  subst isKind
  obtain ⟨r', comes, status⟩ :=
    first.exists_outcome reran (List.mem_of_find?_eq_some found) steady
  have ends := (ensures_run (ensures_runAnalyzer (Machine.lasting_true settings)
    (m := later.marked mark) trivial test r.kind)).2
  have again : test.artifact.toScript (later.marked mark).disk = .ok script := by
    rw [same]
    exact (first.serves_of_reran reran).again
  rw [← run, again, Result.ok_bind, comes, Result.ok_bind] at ends
  refine ⟨r, _, found, ends, ?_⟩
  rw [← status, AnalysisResult.failed]
  cases r'.status <;> decide

/-- The test of a library that does not parse, run a second time. -/
theorem runTest_agrees_of_python :
    let descriptor : Descriptor :=
      { name := "s", language := "python", source := .text "(\n", executable := false }
    let respond (path : String) : Response :=
      .finished [] (Text.Utf8.encodeString (path ++ ": no")) 1
    let m := (telling respond).marked "aaaaaaaa"
    let s : Session := ⟨.atRoot, builtinAnalyzers .atRoot, some ⟨none, []⟩, m⟩
    ∃ output s' test, (build descriptor [] none).run s = (.ok output, s') ∧
      ("script-s-syntax", test) ∈ output.tests ∧
      ∃ r verdict, output.report.resultFor .parses = some r ∧
        (test.run.run ((test.run.run (s'.machine.marked "cccccccc")).2.marked "bbbbbbbb")).1 =
          .ok verdict ∧
        (verdict = .fail ↔ r.status = .fail) := by
  intro descriptor respond m s
  let script : Script := ⟨"s", .python3, none, "(\n", [], false⟩
  have named : Checked.isName descriptor.name := by decide
  have loaded : descriptor.toScript s.machine.disk none = .ok script := by decide +kernel
  have plain : ∀ text, descriptor.source = .text text → '\r' ∉ text.toList := by
    rintro _ ⟨⟩
    decide
  have empty : s.CacheIsEmpty .atRoot := by
    refine cacheIsEmpty_of_start (m := m) rfl ?_
    rintro r ⟨cache, hc, folder, hf, -⟩
    rw [← Option.some.inj hc] at hf
    cases hf
  have tests : ((build descriptor [] none).run s).1.toOption.map (fun output =>
      output.tests.map fun test => (test.1, test.2.kind?)) =
      some [("script-s-syntax", some .parses)] := by decide +kernel
  rcases built : (build descriptor [] none).run s with ⟨result, s'⟩
  rw [built] at tests
  cases result with
  | error fault => cases tests
  | ok output =>
      obtain ⟨⟨id, test⟩, listed, same⟩ := List.map_eq_singleton_iff.mp (Option.some.inj tests)
      obtain ⟨rfl, asks⟩ := Prod.mk.inj same
      have ours : ("script-s-syntax", test) ∈ output.tests := by
        rw [listed]
        exact List.mem_singleton_self _
      have alike : TellsAlike .atRoot s.machine.toolbox script .parses "aaaaaaaa" "bbbbbbbb" := by
        refine ⟨by decide, by decide, ?_, ?_, nofun⟩
        · have begins : Settings.atRoot.tempDir.toString.toList.head? = some '/' := by
            decide +kernel
          rw [begins]
          rintro _ ⟨⟩
          decide
        · rintro tool ⟨⟩
          change ToolCheck.Echoes _ (telling respond).toolbox _ _
          exact echoes_telling (echo_of_path_append
            (ScriptCopy.slash_mem_path _ _ _ _ (by decide)) (by decide) (by decide +kernel))
      refine ⟨output, s', test, rfl, ours, ?_⟩
      exact runTest_agrees empty named loaded (.inl rfl) plain built
        (.run .start "cccccccc" ours) ours asks (.inr alike)

end Session

end ScriptVet
