import ScriptVet.Proofs.ResultData
import ScriptVet.Proofs.Session.Analyze
import ScriptVet.Proofs.Session.Turns

/-!
# Whole runs in a session

What holds of a session holds after a run, whether the run gives a report or ends in a fault. A
report that is given is the one that the analyses make one after another, each of them in a session
of which the same holds.
-/

namespace ScriptVet.Session

open Activity Analyzer ResultCache Disk

/-- Results of the analysis may be kept: they are right in memory, and the machine stays as it
should be when they are written. -/
structure Admits (settings : Settings) (told : String → String → Prop) (inv : Machine → Prop)
    (right : String → AnalysisResult → Prop) (script : Script) (kind : AnalyzerKind) : Prop where
  right : ∀ {version key r}, script.checkContent = .ok () →
    HasVersion settings told script kind version →
    keyFor script (builtin settings kind) version = .ok key →
    IsFresh settings inv script kind r → r.status ≠ .skipped → right key r
  written : ∀ {version key r m folder disk}, script.checkContent = .ok () →
    HasVersion settings told script kind version →
    keyFor script (builtin settings kind) version = .ok key →
    IsFresh settings inv script kind r → r.status ≠ .skipped → inv m →
    folder ∈ keptIn settings →
    writeEntry m.disk (fileFor folder key) r = .ok disk → inv { m with disk }

variable {settings : Settings} {told : String → String → Prop} {inv : Machine → Prop}
  {mem : List (String × AnalysisResult) → Prop} {right : String → AnalysisResult → Prop}
  {s : Session} {script : Script} {kind : AnalyzerKind}

/-- A session that has just been started. -/
theorem start_eq_ok {settings : Settings} {analyzers : List Analyzer} {m : Machine} {s : Session}
    (started : start settings analyzers m = .ok s) :
    ∃ disk, s = ⟨settings, analyzers,
        if settings.cacheResults then some ⟨cacheFolder settings, []⟩ else none, { m with disk }⟩ ∧
      match keptIn settings with
      | some folder => m.disk.Provides folder disk
      | none => disk = m.disk := by
  rw [start] at started
  by_cases caching : settings.cacheResults
  · rw [if_pos caching] at started
    rw [keptIn, if_pos caching, if_pos caching]
    cases given : cacheFolder settings with
    | none =>
        rw [given] at started
        cases started
        exact ⟨m.disk, rfl, rfl⟩
    | some folder =>
        rw [given, ResultCache.start] at started
        cases made : m.disk.ensureFolders folder with
        | error e =>
            rw [made] at started
            cases started
        | ok disk =>
            rw [made] at started
            cases started
            exact ⟨disk, rfl, provides_of_ensureFolders made⟩
  · rw [if_neg caching] at started
    cases started
    rw [keptIn, if_neg caching, if_neg caching]
    exact ⟨m.disk, rfl, rfl⟩

/-- A new session has the folder that its cache keeps results in. -/
theorem leadsToFolder_of_start {settings : Settings} {analyzers : List Analyzer} {m : Machine}
    {s : Session} (started : start settings analyzers m = .ok s) {folder : Path}
    (given : folder ∈ keptIn settings) : s.machine.disk.LeadsToFolder folder := by
  obtain ⟨disk, rfl, provides⟩ := start_eq_ok started
  rw [given] at provides
  exact provides.leads

/-- What holds of a session that has just been started. -/
theorem holds_of_start {m : Machine}
    (started : start settings (builtinAnalyzers settings) m = .ok s)
    (machine : inv s.machine) (empty : mem []) : s.Holds settings inv mem := by
  obtain ⟨disk, rfl, -⟩ := start_eq_ok started
  by_cases caching : settings.cacheResults
  · rw [if_pos caching] at machine ⊢
    refine ⟨rfl, rfl, machine, caching.symm, fun cache hc => ?_, fun cache hc => ?_⟩
    · rw [← Option.some.inj hc, keptIn, if_pos caching]
    · rw [← Option.some.inj hc]
      exact empty
  · rw [if_neg caching] at machine ⊢
    exact ⟨rfl, rfl, machine, (Bool.eq_false_iff.mpr caching).symm, nofun, nofun⟩

/-- A new cache remembers nothing. -/
theorem remembers_nil (right : String → AnalysisResult → Prop) :
    Remembers right (fun _ => False) [] :=
  ⟨(nomatch ·), False.elim⟩

theorem Holds.cache_of_keptIn {settings : Settings} {inv : Machine → Prop}
    {mem : List (String × AnalysisResult) → Prop} {s : Session} (h : s.Holds settings inv mem)
    {folder : Path} (given : folder ∈ keptIn settings) :
    ∃ cache ∈ s.cache, folder ∈ cache.folder := by
  have caching : settings.cacheResults := by
    rw [keptIn] at given
    split at given
    · next caching => exact caching
    · cases given
  obtain ⟨cache, there⟩ := Option.isSome_iff_exists.mp (h.caching.trans caching)
  exact ⟨cache, there, h.folder cache there ▸ given⟩

theorem cache_of_start {m : Machine}
    (started : start settings (builtinAnalyzers settings) m = .ok s) {folder : Path}
    (given : folder ∈ keptIn settings) : ∃ cache ∈ s.cache, folder ∈ cache.folder :=
  (@holds_of_start _ (fun _ => True) (fun _ => True) _ _ started trivial trivial).cache_of_keptIn
    given

/-! ## Results in files -/

/-- The folder of the cache is there, and in its files there are only right results. -/
def HoldsRight (settings : Settings) (right : String → AnalysisResult → Prop) (disk : Disk) :
    Prop :=
  ∀ folder ∈ keptIn settings, disk.LeadsToFolder folder ∧ ∀ key, IsKey key → ∀ r,
    readEntry disk (fileFor folder key) = .ok (some r) → right key r

theorem HoldsRight.made {disk disk' : Disk} {p : Path} (h : HoldsRight settings right disk)
    (made : disk.ensureFolders p = .ok disk') : HoldsRight settings right disk' := by
  have adds := (provides_of_ensureFolders made).adds
  intro folder given
  obtain ⟨leads, isRight⟩ := h folder given
  refine ⟨leads.mono adds.keepsFolders, fun key isKey r found => ?_⟩
  rcases readEntry_of_addsFolders leads adds isKey with same | nothing
  · exact isRight key isKey r (same.symm.trans found)
  · exact nomatch nothing.symm.trans found

theorem HoldsRight.written {disk disk' : Disk} {folder : Path} {key : String} {r : AnalysisResult}
    (h : HoldsRight settings right disk) (given : folder ∈ keptIn settings) (isKey : IsKey key)
    (isRight : right key r) (portable : r.IsPortable)
    (written : writeEntry disk (fileFor folder key) r = .ok disk') :
    HoldsRight settings right disk' := by
  obtain ⟨text, rendered, wrote⟩ := compactJson_of_writeEntry written
  intro folder' given'
  have one : folder' = folder := Option.some.inj (given'.symm.trans given)
  subst one
  obtain ⟨leads, right'⟩ := h folder' given
  refine ⟨leads.mono (keepsFolders_of_write wrote), fun other isKey' found read => ?_⟩
  rw [readEntry_of_write leads isKey isKey' wrote] at read
  split at read
  · next same =>
    rw [eq_of_readResult_compactJson portable rendered read, same]
    exact isRight
  · exact right' other isKey' found read

theorem holds_store (regime : Regime settings told inv mem right)
    (admits : Admits settings told inv right script kind)
    (h : s.Holds settings inv mem) {version key : String} {r : AnalysisResult}
    (content : script.checkContent = .ok ()) (has : HasVersion settings told script kind version)
    (named : keyFor script (builtin settings kind) version = .ok key)
    (fresh : IsFresh settings inv script kind r) (made : r.status ≠ .skipped) :
    Holds settings inv mem ((store key r).run s).2 := by
  cases there : s.cache with
  | none =>
      rw [run_store_of_uncached there]
      exact h
  | some cache =>
      have remembered := h.remember regime there (admits.right content has named fresh made)
      rw [run_store_of_not_skipped made key there]
      cases given : cache.folder with
      | none => exact remembered
      | some folder =>
          have given : folder ∈ keptIn settings := by
            rw [← h.folder cache there]
            exact given
          simp only
          cases written : writeEntry s.machine.disk (fileFor folder key) r with
          | error fault => exact remembered
          | ok disk =>
              have machine := admits.written content has named fresh made h.machine given written
              exact ⟨remembered.under, remembered.analyzers, machine, remembered.caching,
                remembered.folder, remembered.memory⟩

/-- Where the result of an analysis comes from, cached or not. -/
theorem ensures_analyze (regime : Regime settings told inv mem right)
    {useCache : Bool} (admits : useCache → Admits settings told inv right script kind)
    (h : s.Holds settings inv mem) :
    (analyze kind script useCache s).Ensures (Holds settings inv mem) fun result s' =>
      s'.Holds settings inv mem ∧ ∀ r, result = .ok r →
        IsFresh settings inv script kind r ∨ useCache ∧ ∃ version key,
          HasVersion settings told script kind version ∧
            keyFor script (builtin settings kind) version = .ok key ∧ right key r := by
  by_cases unused : useCache = false ∨ settings.cacheResults = false
  · refine (ensures_analyze_fresh regime h kind script unused).mono ?_
    rintro result s' ⟨h', m, hm, rfl⟩
    exact ⟨h', fun r given => .inl ⟨m, hm, given⟩⟩
  · rw [not_or, Bool.not_eq_false, Bool.not_eq_false] at unused
    obtain ⟨rfl, caching⟩ := unused
    refine (ensures_analyze_true regime id
      (fun h => holds_store regime (admits rfl) h) caching h).mono ?_
    intro result s' ends
    refine ⟨ends.1, fun r given => ?_⟩
    have answers : Answers settings told inv mem right script kind r := by
      have ends := ends.2
      rw [given] at ends
      exact ends
    obtain ⟨version, key, has, named, isRight | fresh⟩ := answers.source
    · exact .inr ⟨rfl, version, key, has, named, isRight⟩
    · exact .inl fresh.1

/-- All that is left to do for a request is to report on the results. -/
theorem run_finish_runJob (script : Script) (selection : Selection) (useCache : Bool)
    (results : List AnalysisResult) (s : Session) :
    ((runJob script selection useCache).finish results).run s =
      ((report script results).map fun _ => (), s) := by
  simp only [runJob, Activity.run, liftM_bind_apply]
  cases report script results <;> rfl

theorem keeps_runJob (regime : Regime settings told inv mem right) {selection : Selection}
    {useCache : Bool}
    (admits : useCache → ∀ kind ∈ selection.kindsFor script.language,
      Admits settings told inv right script kind) :
    (runJob script selection useCache).Keeps (Holds settings inv mem) where
  parts s activities split x hx := by
    rw [← Except.ok.inj split] at hx
    obtain ⟨kind, applies, rfl⟩ := List.mem_map.mp hx
    exact fun s h => (ensures_analyze regime (fun used => admits used kind applies) h).mono
      fun _ _ ends => ends.1
  finish results s h := by
    rw [run_finish_runJob]
    exact h

/-- Analyses one after another, and the report on their results. -/
theorem ensures_runInOrder {holds : Session → Prop} {selection : Selection} {useCache : Bool}
    (good : AnalyzerKind → AnalysisResult → Prop) (bad : AnalyzerKind → Fault → Prop)
    (each : ∀ kind ∈ selection.kindsFor script.language, ∀ s, holds s →
      (analyze kind script useCache s).Ensures holds fun result s' =>
        Result.Meets (fun r => holds s' ∧ good kind r) (bad kind) result) (h : holds s) :
    (runInOrder script selection useCache s).Ensures holds fun result s' =>
      Result.Meets
        (fun found => holds s' ∧ ∃ results,
          List.Forall₂ good (selection.kindsFor script.language) results ∧
            report script results = .ok found)
        (fun fault => (∃ kind ∈ selection.kindsFor script.language, bad kind fault) ∨
          ∃ e, script.checkContent = .error e) result := by
  have all := ensures_mapM (fun kind => analyze kind script useCache) good bad each h
  refine ensures_bind all (fun results s' ends => ?_) fun fault s' failed => .inl failed
  rw [liftM_apply]
  cases given : report script results with
  | ok found => exact ⟨ends.1, results, ends.2, given⟩
  | error fault =>
      refine .inr ?_
      cases content : script.checkContent with
      | error e => exact ⟨e, rfl⟩
      | ok _ =>
          rw [report, content] at given
          cases given

theorem run_settle {α : Type} (inOrder : SessionWork α) (job : Job Session AnalysisResult)
    (s : Session) :
    (settle inOrder job).run s =
      match inOrder.run s with
      | (.ok value, s') => (.ok value, s')
      | (.error fault, _) =>
        (.error ((Turns.outcome [job] true s.settings.maxWorkers.val s).1.getD fault),
          (Turns.outcome [job] true s.settings.maxWorkers.val s).2) := by
  rw [settle, run_bind, run_get]
  simp only
  rcases inOrder.run s with ⟨result, s'⟩
  cases result with
  | ok value => rfl
  | error fault => rfl

/-- A report is given exactly if the analyses give it one after another. -/
theorem run_run_fst (script : Script) (selection : Selection) (useCache : Bool) (s : Session) :
    ((run script selection useCache).run s).1.toOption =
      ((runInOrder script selection useCache).run s).1.toOption := by
  rw [run, run_settle]
  rcases (runInOrder script selection useCache).run s with ⟨result, s'⟩
  cases result <;> rfl

/-- What holds of a session holds after analyses one after another that give a report, and the
content of the script is whole text. -/
theorem ensures_runInOrder_holds (regime : Regime settings told inv mem right)
    {selection : Selection} {useCache : Bool}
    (admits : useCache → ∀ kind ∈ selection.kindsFor script.language,
      Admits settings told inv right script kind) (h : s.Holds settings inv mem) :
    (runInOrder script selection useCache s).Ensures (Holds settings inv mem) fun result s' =>
      ∀ found, result = .ok found → s'.Holds settings inv mem ∧ script.checkContent = .ok () := by
  have each (kind : AnalyzerKind) (applies : kind ∈ selection.kindsFor script.language)
      (s : Session) (h : s.Holds settings inv mem) :
      (analyze kind script useCache s).Ensures (Holds settings inv mem) fun result s' =>
        Result.Meets (fun _ => s'.Holds settings inv mem ∧ True) (fun _ => True) result :=
    (ensures_analyze regime (fun used => admits used kind applies) h).mono fun result s' ends => by
      cases result with
      | ok r => exact ⟨ends.1, trivial⟩
      | error fault => trivial
  refine (ensures_runInOrder _ _ each h).mono fun result s' ends found given => ?_
  subst given
  obtain ⟨h', results, -, reported⟩ := ends
  obtain ⟨_, content, -⟩ := Result.bind_eq_ok.mp reported
  cases whole : script.checkContent with
  | ok _ => exact ⟨h', rfl⟩
  | error e =>
      rw [whole] at content
      cases content

/-- What holds of a session holds after a run, even if the run ends in a fault. -/
theorem holds_run (regime : Regime settings told inv mem right) {selection : Selection}
    {useCache : Bool}
    (admits : useCache → ∀ kind ∈ selection.kindsFor script.language,
      Admits settings told inv right script kind) (h : s.Holds settings inv mem) :
    Holds settings inv mem ((run script selection useCache).run s).2 := by
  have inOrder := ensures_run (ensures_runInOrder_holds regime admits h)
  rw [run, run_settle]
  rcases ran : (runInOrder script selection useCache).run s with ⟨result, s'⟩
  rw [ran] at inOrder
  cases result with
  | ok found => exact (inOrder found rfl).1
  | error fault =>
      refine Turns.inv_outcome (fun job hj => ?_) true _ h
      rw [List.mem_singleton.mp hj]
      exact keeps_runJob regime admits

end ScriptVet.Session
