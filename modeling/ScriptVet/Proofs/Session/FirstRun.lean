import ScriptVet.Proofs.Session.BuildAll
import ScriptVet.Proofs.Session.Kinds
import ScriptVet.Proofs.Session.Soundness
import ScriptVet.Proofs.Session.Stages
import ScriptVet.Proofs.Session.Temporary
import ScriptVet.Proofs.TestMaps

/-!
# The first script after an empty cache

Where a cache is empty there is nothing that an analysis could be answered from, so the results in
the first report are what the analyses of its script come to. If a tool has a part in them, then the
folder for temporary ones is there from then on: the parse check comes first, it is made, and it
hands the script to a tool if any analysis does.
-/

namespace ScriptVet

open Activity Disk

namespace Analyzer

variable {settings : Settings} {m m' : Machine}

/-- Work that makes a copy leaves the folder for copies, or has failed to make it. -/
theorem leads_of_run_copy {onFault : Fault → Work AnalysisResult}
    {failure : Fault → AnalysisResult} (handles : Handles onFault failure) (kind : AnalyzerKind)
    (language : Language) (text tool : String)
    (arguments : ScriptCopy → List String × Option String)
    (verdict : ScriptCopy → Work.Output → Result AnalysisResult) {result : Result AnalysisResult}
    (ran : (do
        let copy ← ScriptCopy.make settings kind language text
        let work : Work AnalysisResult := do
          let output ← copy.check settings kind tool (arguments copy).1 (arguments copy).2
          verdict copy output
        tryCatch work onFault : Work AnalysisResult).run m = (result, m')) :
    (∃ e, result = .error (.disk e)) ∨ m'.disk.LeadsToFolder settings.tempDir := by
  have lasting : Machine.Lasting settings fun m => m.disk.LeadsToFolder settings.tempDir :=
    ⟨fun h _ => h, fun h _ => h, fun h _ => h,
      fun h _ made => h.mono (provides_of_ensureFolders made).adds.keepsFolders⟩
  change ((ScriptCopy.make settings kind language text m).andThen _).finish = _ at ran
  rw [ScriptCopy.make_apply] at ran
  cases made : m.disk.ensureFolders settings.tempDir with
  | error e =>
      rw [made] at ran
      cases ran
      exact .inl ⟨e, rfl⟩
  | ok disk =>
      rw [made] at ran
      have leads : disk.LeadsToFolder settings.tempDir := (provides_of_ensureFolders made).leads
      let copy : ScriptCopy := .of settings m.temporaryMark kind language text
      have ends := ensures_tryCatch_of_handles handles
        (ensures_check_bind lasting (m := { m with disk }) leads copy kind tool (arguments copy).1
          (arguments copy).2 (verdict copy))
      obtain rfl : m' = _ := (congrArg Prod.snd ran).symm
      exact .inr ends.finish.1

theorem leads_of_run_parseCheck (prologue : String) (kind : AnalyzerKind)
    (toolFor : Language → Option String) {script : Script}
    (hands : (toolFor script.language).isSome) {result : Result AnalysisResult}
    (ran : (parseCheck prologue settings kind toolFor script).run m = (result, m')) :
    (∃ e, result = .error (.disk e)) ∨ m'.disk.LeadsToFolder settings.tempDir := by
  obtain ⟨tool, asks⟩ := Option.isSome_iff_exists.mp hands
  rw [parseCheck, asks] at ran
  exact leads_of_run_copy (handles_parseFault kind) kind script.language
    (prologue ++ script.sourceText) tool
    (fun copy => parseArguments script.language copy.folder)
    (fun copy output => ParseCheck.verdict kind copy.path.toString copy.fileName
      (Text.lineFeeds prologue.toList) output.stdout output.stderr output.code) ran

/-- An analysis that gives a result has not failed to make the folder. -/
theorem leads_of_leads_of_check {analyzer : Analyzer} {script : Script} {r : AnalysisResult}
    (checked : ∀ {m result m'}, (analyzer.check script).run m = (result, m') →
      (∃ e, result = .error (.disk e)) ∨ m'.disk.LeadsToFolder settings.tempDir)
    (ran : (analyzer.analyze script).run m = (.ok r, m')) :
    m'.disk.LeadsToFolder settings.tempDir := by
  rw [analyze, run_bind, run_modify] at ran
  simp only [run_tryCatch] at ran
  rcases ends : (analyzer.check script).run
      { m with analyses := m.analyses ++ [(analyzer.kind, script)] } with ⟨result, middle⟩
  rw [ends] at ran
  rcases checked ends with ⟨e, rfl⟩ | leads
  · cases ran
  · cases result with
    | ok r' =>
        cases ran
        exact leads
    | error fault =>
        cases fault <;> cases ran
        exact leads

/-- An analysis that has given a result, and that hands the script to a tool, leaves the folder for
temporary ones. -/
theorem leads_of_run_analyze {script : Script} {kind : AnalyzerKind} {r : AnalysisResult}
    (hands : (Session.handedTo? script.language kind).isSome)
    (ran : ((builtin settings kind).analyze script).run m = (.ok r, m')) :
    m'.disk.LeadsToFolder settings.tempDir := by
  refine leads_of_leads_of_check (fun checked => ?_) ran
  cases kind with
  | parses => exact leads_of_run_parseCheck _ _ _ hands checked
  | lint =>
      exact leads_of_run_copy handles_lintFault .lint script.language script.sourceText
        "shellcheck" (fun _ => (lintArguments, none))
        (fun _ output =>
          Lint.verdict JsonDialect.usualDepth output.stdout output.stderr output.code) checked
  | strictMode => exact leads_of_run_parseCheck _ _ _ hands checked
  | functionDeps => cases hands
  | variableUsage => cases hands

end Analyzer

namespace Session

open Analyzer ResultCache

variable {settings : Settings} {told : String → String → Prop} {inv : Machine → Prop}
  {mem : List (String × AnalysisResult) → Prop} {s s' : Session} {script : Script}
  {kind : AnalyzerKind}

/-- Keeping a result takes no folder away. -/
theorem keepsFolders_store {key : String} {r : AnalysisResult} {result : Result Unit}
    (stored : (store key r).run s = (result, s')) :
    s.machine.disk.KeepsFolders s'.machine.disk := by
  have same : s.machine.disk.KeepsFolders s.machine.disk := ⟨rfl, fun _ folder => folder⟩
  by_cases skipped : r.status = .skipped
  · rw [run_store_of_skipped skipped] at stored
    cases stored
    exact same
  · cases there : s.cache with
    | none =>
        rw [Activity.run, store_apply, there] at stored
        cases stored
        exact same
    | some cache =>
        rw [run_store_of_not_skipped skipped key there] at stored
        cases given : cache.folder with
        | none =>
            rw [given] at stored
            cases stored
            exact same
        | some folder =>
            rw [given] at stored
            cases written : writeEntry s.machine.disk (fileFor folder key) r with
            | error fault =>
                simp only [written] at stored
                cases stored
                exact same
            | ok disk =>
                simp only [written] at stored
                cases stored
                obtain ⟨text, -, wrote⟩ := compactJson_of_writeEntry written
                exact keepsFolders_of_write wrote

/-- Where no result can be found the analysis has been made. -/
theorem exists_made_of_run_analyze (regime : Regime settings told inv mem fun _ _ => False)
    (h : s.Holds settings inv mem) {useCache : Bool} {r : AnalysisResult}
    (ran : (analyze kind script useCache).run s = (.ok r, s')) :
    ∃ m m', inv m ∧ ((builtin settings kind).analyze script).run m = (.ok r, m') ∧
      m'.disk.KeepsFolders s'.machine.disk := by
  cases used : s.cache.filter fun _ => useCache with
  | none =>
      rw [run_analyze_of_unused h used] at ran
      exact ⟨_, _, h.machine, run_of_onMachine ran, rfl, fun _ folder => folder⟩
  | some cache =>
      obtain ⟨-, version, s1, key, found, s2, versioned, named, there, looked, rest⟩ :=
        stages_of_run_analyze h used ran
      have versions := ensures_run (ensures_onMachine h
        (ensures_fullVersion regime.versions h.machine script kind))
      rw [versioned] at versions
      have isKey : IsKey key := by
        rw [keyFor_eq_ok named]
        exact isKey_key _ _ _
      have nothing := ensures_run (ensures_lookUp regime versions.1 there isKey)
      rw [looked] at nothing
      cases found with
      | some r' => exact nothing.2.elim
      | none =>
          obtain ⟨s3, analyzed, stored⟩ := rest
          exact ⟨_, _, nothing.1.machine, run_of_onMachine analyzed, keepsFolders_store stored⟩

/-- What an analysis comes to where there is the folder for temporary ones. -/
def ComesTo (settings : Settings) (toolbox : Toolbox) (mark : String) (script : Script)
    (kind : AnalyzerKind) (r : AnalysisResult) : Prop :=
  outcome settings ⟨toolbox, mark, .ok ()⟩ script kind = .ok r

theorem comesTo_of_outcome {m : Machine} {r : AnalysisResult}
    (comes : outcome settings (view settings m) script kind = .ok r) :
    ComesTo settings m.toolbox m.temporaryMark script kind r := by
  cases hands : handedTo? script.language kind with
  | none =>
      rw [ComesTo, outcome_congr_of_handedTo? hands _ (view settings m)]
      exact comes
  | some tool =>
      cases made : m.disk.ensureFolders settings.tempDir with
      | ok disk =>
          rw [view, made] at comes
          exact comes
      | error e =>
          rw [outcome_eq_ofKind hands, ToolCheck.outcome, copyOutcome, view, made] at comes
          cases comes

theorem outcome_of_comesTo {m : Machine} {r : AnalysisResult}
    (temporary : (handedTo? script.language kind).isSome →
      (m.disk.ensureFolders settings.tempDir).isOk)
    (comes : ComesTo settings m.toolbox m.temporaryMark script kind r) :
    outcome settings (view settings m) script kind = .ok r := by
  cases hands : handedTo? script.language kind with
  | none =>
      rw [outcome_congr_of_handedTo? hands _ ⟨m.toolbox, m.temporaryMark, .ok ()⟩]
      exact comes
  | some tool =>
      rw [hands] at temporary
      have made := temporary rfl
      cases result : m.disk.ensureFolders settings.tempDir with
      | ok disk =>
          rw [view, result]
          exact comes
      | error e =>
          rw [result] at made
          cases made

/-- If any analysis that applies hands the script to a tool then the parse check does. -/
theorem hands_parses {language : Language} {selection : Selection}
    (applies : kind ∈ selection.kindsFor language) (hands : (handedTo? language kind).isSome) :
    (handedTo? language .parses).isSome := by
  have suits := (Selection.mem_kindsFor selection language).mp applies |>.2
  revert suits hands
  cases language <;> cases kind <;> decide

/-- The result is what the analysis of its kind comes to, and the kind is one of several. -/
structure IsRight (settings : Settings) (toolbox : Toolbox) (mark : String) (script : Script)
    (kinds : List AnalyzerKind) (r : AnalysisResult) : Prop where
  mem : r.kind ∈ kinds
  comes : ComesTo settings toolbox mark script r.kind r

/-- A machine on which analyses come to the same as on another, in whose files there are only some
results, and which has the folder for temporary ones if it is needed. -/
structure Repeats (settings : Settings) (toolbox : Toolbox) (mark : String)
    (right : AnalysisResult → Prop) (needed : Prop) (m : Machine) : Prop where
  toolbox : m.toolbox = toolbox
  mark : m.temporaryMark = mark
  files : HoldsRight settings (fun _ => right) m.disk
  temporary : needed → m.disk.LeadsToFolder settings.tempDir

section

variable {toolbox : Toolbox} {mark : String} {right : AnalysisResult → Prop} {needed : Prop}

theorem regime_repeats :
    Regime settings (fun _ _ => True) (Repeats settings toolbox mark right needed)
      (Remembers (fun _ => right) fun _ => False) (fun _ => right) where
  kept h := h.right
  remembered h := h.put
  versions :=
    { lasting :=
        { called := fun h _ => ⟨h.toolbox, h.mark, h.files, h.temporary⟩
          noted := fun h _ => ⟨h.toolbox, h.mark, h.files, h.temporary⟩
          begun := fun h _ => ⟨h.toolbox, h.mark, h.files, h.temporary⟩
          made := fun h _ made => ⟨h.toolbox, h.mark, h.files.made made, fun needs =>
            (h.temporary needs).mono (provides_of_ensureFolders made).adds.keepsFolders⟩ }
      asked := fun _ _ => trivial
      noted := fun _ _ => trivial
      notes := fun h _ _ => ⟨h.toolbox, h.mark, h.files, h.temporary⟩ }
  found h folder given _ _ isKey read := (h.files folder given).2 _ isKey _ read

/-- Results of the script may be kept. -/
theorem admits_repeats {kinds : List AnalyzerKind} (asked : kind ∈ kinds) :
    Admits settings (fun _ _ => True)
      (Repeats settings toolbox mark (IsRight settings toolbox mark script kinds) needed)
      (fun _ => IsRight settings toolbox mark script kinds) script kind := by
  have isRight {r : AnalysisResult} (fresh : IsFresh settings
      (Repeats settings toolbox mark (IsRight settings toolbox mark script kinds) needed) script
      kind r) : IsRight settings toolbox mark script kinds r ∧ r.IsPortable := by
    obtain ⟨m, repeats, comes⟩ := fresh
    have gives := gives_of_outcome comes
    have comes := comesTo_of_outcome comes
    rw [repeats.toolbox, repeats.mark] at comes
    exact ⟨⟨gives.kind ▸ asked, gives.kind ▸ comes⟩, gives.portable⟩
  refine ⟨fun _ _ _ fresh _ => (isRight fresh).1, ?_⟩
  intro version key r m folder disk _ _ named fresh _ h given written
  have isKey : IsKey key := by
    rw [keyFor_eq_ok named]
    exact isKey_key _ _ _
  obtain ⟨right, portable⟩ := isRight fresh
  obtain ⟨text, -, wrote⟩ := compactJson_of_writeEntry written
  exact ⟨h.toolbox, h.mark, h.files.written given isKey right portable written, fun needs =>
    (h.temporary needs).mono (keepsFolders_of_write wrote)⟩

/-- A session in whose cache there are only right results. -/
abbrev HoldsRepeats (settings : Settings) (toolbox : Toolbox) (mark : String)
    (right : AnalysisResult → Prop) (needed : Prop) : Session → Prop :=
  Holds settings (Repeats settings toolbox mark right needed)
    (Remembers (fun _ => right) fun _ => False)

/-- A session with the built-in analyzers and a cache in which there is nothing, neither in memory
nor in files. -/
structure CacheIsEmpty (settings : Settings) (s : Session) : Prop where
  holds : s.Holds settings (fun m => ∀ folder ∈ keptIn settings, m.disk.LeadsToFolder folder)
    (· = [])
  files : ∀ r, ¬ s.KeptInFile r

theorem cacheIsEmpty_of_start {m : Machine}
    (started : start settings (builtinAnalyzers settings) m = .ok s)
    (files : ∀ r, ¬ s.KeptInFile r) : s.CacheIsEmpty settings :=
  ⟨holds_of_start started (fun _ given => leadsToFolder_of_start started given) rfl, files⟩

theorem CacheIsEmpty.holdsRepeats (empty : s.CacheIsEmpty settings)
    (right : AnalysisResult → Prop) :
    s.HoldsRepeats settings s.machine.toolbox s.machine.temporaryMark right False := by
  have h := empty.holds
  refine ⟨h.under, h.analyzers, ⟨rfl, rfl, fun folder given => ?_, False.elim⟩, h.caching, h.folder,
    fun cache hc => ?_⟩
  · refine ⟨h.machine folder given, fun key isKey r read => ?_⟩
    obtain ⟨cache, hc, hf⟩ := h.cache_of_keptIn given
    exact absurd ⟨cache, hc, folder, hf, key, isKey, read⟩ (empty.files r)
  · rw [h.memory cache hc]
    exact remembers_nil _

/-- The parse check that comes first. -/
theorem holds_of_first_parse {kinds : List AnalyzerKind} {r : AnalysisResult}
    (empty : s.CacheIsEmpty settings) (asked : .parses ∈ kinds)
    (ran : (analyze .parses script true).run s = (.ok r, s')) :
    let right := IsRight settings s.machine.toolbox s.machine.temporaryMark script kinds
    s'.HoldsRepeats settings s.machine.toolbox s.machine.temporaryMark right
        (handedTo? script.language .parses).isSome ∧
      right r ∧ r.kind = .parses := by
  intro right
  obtain ⟨m1, m2, repeats, made, keeps⟩ := exists_made_of_run_analyze regime_repeats
    (empty.holdsRepeats fun _ => False) ran
  have comes : outcome settings (view settings m1) script .parses = .ok r := by
    rw [← run_analyze_fst, made]
  have isKind : r.kind = .parses := (gives_of_outcome comes).kind
  have comes := comesTo_of_outcome comes
  rw [repeats.toolbox, repeats.mark] at comes
  have known := ensures_run (ensures_analyze regime_repeats
    (fun _ : true = true => admits_repeats asked) (empty.holdsRepeats right))
  rw [ran] at known
  have h := known.1
  refine ⟨h.withMachine ⟨h.machine.toolbox, h.machine.mark, h.machine.files, fun needed => ?_⟩,
    ⟨isKind ▸ asked, isKind ▸ comes⟩, isKind⟩
  exact (leads_of_run_analyze needed made).mono keeps

/-- Analyses in a session in whose cache there are only right results give right results. -/
theorem ensures_analyses_right {kinds asked : List AnalyzerKind} (among : asked ⊆ kinds)
    (h : s.HoldsRepeats settings toolbox mark (IsRight settings toolbox mark script kinds) needed) :
    ((asked.map fun kind => analyze kind script true).mapM id s).Ensures
      (HoldsRepeats settings toolbox mark (IsRight settings toolbox mark script kinds) needed)
      fun result s' => Result.Meets
        (fun results =>
          s'.HoldsRepeats settings toolbox mark
              (IsRight settings toolbox mark script kinds) needed ∧
            List.Forall₂ (fun _ r => IsRight settings toolbox mark script kinds r) asked results)
        (fun _ => ∃ kind ∈ asked, True) result := by
  refine ensures_mapM _ _ (fun _ _ => True) (fun kind applies s' h' => ?_) h
  refine (ensures_analyze regime_repeats (fun _ => admits_repeats (among applies)) h').mono
    fun result s'' ends => ?_
  cases result with
  | error fault => trivial
  | ok r =>
      refine ⟨ends.1, ?_⟩
      rcases ends.2 r rfl with ⟨m, repeats, comes⟩ | ⟨-, version, key, -, -, isRight⟩
      · have gives := gives_of_outcome comes
        have comes := comesTo_of_outcome comes
        rw [repeats.toolbox, repeats.mark] at comes
        exact ⟨gives.kind ▸ among applies, gives.kind ▸ comes⟩
      · exact isRight

/-- The first report after an empty cache: its results are what the analyses come to, one of them
is that of the parse check, and the folder for temporary ones is there if scripts are handed to
tools. -/
theorem results_of_first_run {selection : Selection} {found : Report}
    (empty : s.CacheIsEmpty settings) (on : selection.isEnabled .parses)
    (ran : (runInOrder script selection true).run s = (.ok found, s')) :
    let right := IsRight settings s.machine.toolbox s.machine.temporaryMark script
      (selection.kindsFor script.language)
    s'.HoldsRepeats settings s.machine.toolbox s.machine.temporaryMark right
        (handedTo? script.language .parses).isSome ∧
      (∀ r ∈ found.results, right r) ∧ ∃ r ∈ found.results, r.kind = .parses := by
  intro right
  obtain ⟨results, s1, analyzed, reported⟩ := run_bind_eq_ok.mp ran
  rw [run_liftM] at reported
  obtain ⟨given, rfl⟩ := Prod.mk.inj reported
  obtain ⟨_, -, given⟩ := Result.bind_eq_ok.mp given
  obtain rfl := Except.ok.inj given
  have first := (selection.head?_kindsFor_eq_parses_iff script.language).mpr on
  rw [analyses] at analyzed
  cases all : selection.kindsFor script.language with
  | nil =>
      rw [all] at first
      cases first
  | cons kind rest =>
      rw [all] at first analyzed
      cases first
      rw [List.map_cons, List.mapM_cons, id] at analyzed
      obtain ⟨r, s2, parsed, analyzed⟩ := run_bind_eq_ok.mp analyzed
      obtain ⟨others, s3, analyzed, ended⟩ := run_bind_eq_ok.mp analyzed
      cases ended
      obtain ⟨h2, isRight, isKind⟩ := holds_of_first_parse empty
        (selection.parses_mem_kindsFor script.language on) parsed
      have rests : rest ⊆ selection.kindsFor script.language := by
        rw [all]
        exact List.subset_cons_self _ _
      have ends := ensures_run (ensures_analyses_right rests h2)
      rw [analyzed] at ends
      have members (found : AnalysisResult) :
          found ∈ (Report.aggregate script (r :: others)).results ↔ found ∈ r :: others :=
        (List.mergeSort_perm _ _).mem_iff
      refine ⟨ends.1, fun found hf => ?_, r, (members r).mpr List.mem_cons_self, isKind⟩
      rcases List.mem_cons.mp ((members found).mp hf) with rfl | later
      · exact isRight
      · obtain ⟨i, hi, rfl⟩ := List.getElem_of_mem later
        exact ends.2.get (ends.2.length_eq ▸ hi) hi

end

end Session

end ScriptVet
