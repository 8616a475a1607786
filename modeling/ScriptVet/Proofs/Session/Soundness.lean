import ScriptVet.Gate
import ScriptVet.Proofs.Analyzer.Results
import ScriptVet.Proofs.Session.Run

/-!
# Reports and gates are sound

Every session whose cache was filled by earlier runs only, be it in the same session or in earlier
ones that kept their results in files, gives reports in which status and findings of every result
fit together. So a report fails exactly if one of its findings is fatal, and so does a gate.
-/

namespace ScriptVet

namespace Session

open Analyzer ResultCache Disk

/-- The result is found in a file of the cache. -/
def KeptInFile (s : Session) (r : AnalysisResult) : Prop :=
  ∃ cache ∈ s.cache, ∃ folder ∈ cache.folder, ∃ key, IsKey key ∧
    readEntry s.machine.disk (fileFor folder key) = .ok (some r)

/-- Sessions with the built-in analyzers in whose caches only runs have put results. Between runs
the machine may change, tools and files alike, and a later session finds in its files what an
earlier one has left, or less. -/
inductive Reached : Session → Prop where
  | first {settings m s} (started : start settings (builtinAnalyzers settings) m = .ok s)
    (empty : ∀ r, ¬ s.KeptInFile r) : Reached s
  | run {s} (h : Reached s) (script : Script) (selection : Selection) (useCache : Bool) :
    Reached ((run script selection useCache).run s).2
  | meanwhile {s} (h : Reached s) (m : Machine)
    (folder : ∀ cache ∈ s.cache, ∀ p ∈ cache.folder, m.disk.LeadsToFolder p)
    (kept : ∀ r, KeptInFile { s with machine := m } r → s.KeptInFile r) :
    Reached { s with machine := m }
  | next {s settings m s'} (h : Reached s)
    (started : start settings (builtinAnalyzers settings) m = .ok s')
    (kept : ∀ r, s'.KeptInFile r → s.KeptInFile r) : Reached s'

/-- In the files of the cache there are only sound results. -/
def SoundFiles (settings : Settings) (m : Machine) : Prop :=
  ∀ folder ∈ keptIn settings, m.disk.LeadsToFolder folder ∧ ∀ key, IsKey key → ∀ r,
    readEntry m.disk (fileFor folder key) = .ok (some r) → r.IsSound

/-- All results in memory are sound. -/
def SoundMemory : List (String × AnalysisResult) → Prop :=
  Remembers (fun _ r => r.IsSound) fun _ => False

theorem regime_sound (settings : Settings) :
    Regime settings (fun _ _ => True) (SoundFiles settings) SoundMemory fun _ r => r.IsSound where
  kept h _ _ found := h.right found
  remembered h _ _ sound := Remembers.put h sound
  versions :=
    { lasting :=
        { called := fun h _ => h
          noted := fun h _ => h
          begun := fun h _ => h
          made := fun h _ made => HoldsRight.made h made }
      asked := fun _ _ => trivial
      noted := fun _ _ => trivial
      notes := fun h _ _ => h }
  found h folder given _ _ isKey found := (h folder given).2 _ isKey _ found

theorem admits_sound (settings : Settings) (script : Script) (kind : AnalyzerKind) :
    Admits settings (fun _ _ => True) (SoundFiles settings) (fun _ r => r.IsSound) script kind where
  right _ _ _ fresh _ := by
    obtain ⟨m, -, given⟩ := fresh
    exact (gives_of_outcome given).sound
  written {version key r m folder disk} _ _ named fresh _ h given written := by
    obtain ⟨_, -, comes⟩ := fresh
    have gives := gives_of_outcome comes
    have isKey : IsKey key := by
      rw [keyFor_eq_ok named]
      exact isKey_key _ _ _
    exact HoldsRight.written h given isKey gives.sound gives.portable written

theorem Holds.sound_of_keptInFile {settings : Settings} {s : Session}
    (h : s.Holds settings (SoundFiles settings) SoundMemory) {r : AnalysisResult}
    (kept : s.KeptInFile r) : r.IsSound := by
  obtain ⟨cache, hc, folder, hf, key, isKey, read⟩ := kept
  have given : folder ∈ keptIn settings := by
    rw [← h.folder cache hc]
    exact hf
  exact (h.machine folder given).2 key isKey r read

/-- What is known of a session that can be reached. -/
theorem holds_of_reached {s : Session} (h : Reached s) :
    ∃ settings, s.Holds settings (SoundFiles settings) SoundMemory := by
  have fresh {settings : Settings} {m : Machine} {s : Session}
      (started : start settings (builtinAnalyzers settings) m = .ok s)
      (sound : ∀ r, s.KeptInFile r → r.IsSound) :
      s.Holds settings (SoundFiles settings) SoundMemory := by
    refine holds_of_start started (fun folder given => ?_) (remembers_nil _)
    refine ⟨leadsToFolder_of_start started given, fun key isKey r read => sound r ?_⟩
    obtain ⟨cache, hc, hf⟩ := cache_of_start started given
    exact ⟨cache, hc, folder, hf, key, isKey, read⟩
  induction h with
  | @first settings m s started empty =>
      exact ⟨settings, fresh started fun r kept => absurd kept (empty r)⟩
  | run h script selection useCache ih =>
      obtain ⟨settings, holds⟩ := ih
      exact ⟨settings, holds_run (regime_sound settings)
        (fun _ kind _ => admits_sound settings script kind) holds⟩
  | @meanwhile s h m leads kept ih =>
      obtain ⟨settings, holds⟩ := ih
      refine ⟨settings, holds.under, holds.analyzers, fun folder given => ?_, holds.caching,
        holds.folder, holds.memory⟩
      obtain ⟨cache, hc, hf⟩ := holds.cache_of_keptIn given
      refine ⟨leads cache hc folder hf, fun key isKey r read => ?_⟩
      exact holds.sound_of_keptInFile (kept r ⟨cache, hc, folder, hf, key, isKey, read⟩)
  | @next s settings m s' h started kept ih =>
      obtain ⟨earlier, holds⟩ := ih
      exact ⟨settings, fresh started fun r found => holds.sound_of_keptInFile (kept r found)⟩

/-- The results of a report from a session that can be reached are sound. -/
theorem isSound_of_run {s : Session} (h : Reached s) {script : Script} {selection : Selection}
    {useCache : Bool} {found : Report}
    (given : ((run script selection useCache).run s).1 = .ok found) :
    ∀ r ∈ found.results, r.IsSound := by
  obtain ⟨settings, holds⟩ := holds_of_reached h
  have each (kind : AnalyzerKind) (_ : kind ∈ selection.kindsFor script.language) (s : Session)
      (h : s.Holds settings (SoundFiles settings) SoundMemory) :
      (analyze kind script useCache s).Ensures (Holds settings (SoundFiles settings) SoundMemory)
        fun result s' => Result.Meets
          (fun r => s'.Holds settings (SoundFiles settings) SoundMemory ∧ r.IsSound)
          (fun _ => True) result := by
    refine (ensures_analyze (regime_sound settings)
      (fun _ => admits_sound settings script kind) h).mono fun result s' ends => ?_
    cases result with
    | error fault => trivial
    | ok r =>
        refine ⟨ends.1, ?_⟩
        rcases ends.2 r rfl with ⟨m, -, comes⟩ | ⟨-, version, key, -, -, isRight⟩
        · exact (gives_of_outcome comes).sound
        · exact isRight
  have inOrder := Activity.ensures_run
    (ensures_runInOrder (fun _ r => r.IsSound) (fun _ _ => True) each holds)
  have same := run_run_fst script selection useCache s
  rw [given] at same
  cases ran : ((runInOrder script selection useCache).run s).1 with
  | error fault =>
      rw [ran] at same
      cases same
  | ok found' =>
      rw [ran] at same inOrder
      cases same
      obtain ⟨-, results, sound, reported⟩ := inOrder
      obtain ⟨_, -, reported⟩ := Result.bind_eq_ok.mp reported
      rw [← Except.ok.inj reported]
      intro r hr
      have member : r ∈ results := (List.mergeSort_perm results _).mem_iff.mp hr
      obtain ⟨i, hi, rfl⟩ := List.getElem_of_mem member
      exact sound.get (sound.length_eq ▸ hi) hi

end Session

namespace Report

/-- The report was given by a session that can be reached. -/
def IsGiven (found : Report) : Prop :=
  ∃ s script selection useCache, Session.Reached s ∧
    ((Session.run script selection useCache).run s).1 = .ok found

/-- Some finding of the report is fatal. -/
def IsFatal (found : Report) : Prop :=
  ∃ f ∈ found.findings, f.category.isFatal

/-- With sound results a report fails exactly if it has a fatal finding. -/
theorem verdict_eq_fail_iff_isFatal {found : Report} (sound : ∀ r ∈ found.results, r.IsSound) :
    found.verdict = .fail ↔ found.IsFatal := by
  rw [verdict_eq_fail_iff, IsFatal, findings]
  constructor
  · rintro ⟨r, hr, failed⟩
    obtain ⟨f, hf, fatal⟩ := (sound r hr).fits.failed_iff.mp failed
    exact ⟨f, List.mem_flatMap.mpr ⟨r, hr, hf⟩, fatal⟩
  · rintro ⟨f, hf, fatal⟩
    obtain ⟨r, hr, hf⟩ := List.mem_flatMap.mp hf
    exact ⟨r, hr, (sound r hr).fits.failed_iff.mpr ⟨f, hf, fatal⟩⟩

theorem passed_eq_false_iff {found : Report} : found.passed = false ↔ found.verdict = .fail := by
  rw [passed]
  cases found.verdict <;> decide

end Report

namespace Gate

theorem reports_foldl_add (added : List Report) (gate : Gate) :
    (added.foldl add gate).reports = gate.reports ++ added := by
  induction added generalizing gate with
  | nil => simp
  | cons found added ih => rw [List.foldl_cons, ih, reports_add, List.append_assoc]; rfl

theorem failures_ne_nil_iff {gate : Gate} :
    gate.failures ≠ [] ↔ ∃ found ∈ gate.reports, found.verdict = .fail := by
  simp [failures, List.filter_eq_nil_iff, Report.passed_eq_false_iff]

/-- The gate decides on all results at once, and comes to the same. -/
theorem exitCode_eq_one_iff {gate : Gate} : gate.exitCode = 1 ↔ gate.failures ≠ [] := by
  have all : gate.passed = false ↔ ∃ r ∈ gate.reports.flatMap (·.results), r.failed := by
    rw [passed, verdict, overallVerdict, Verdict.ofFailed, ← List.any_eq_true]
    cases (gate.reports.flatMap (·.results)).any (·.failed) <;> decide
  have code : gate.exitCode = 1 ↔ gate.passed = false := by
    rw [exitCode]
    cases gate.passed <;> decide
  rw [code, all, failures_ne_nil_iff]
  simp only [Report.verdict_eq_fail_iff, List.mem_flatMap]
  constructor
  · rintro ⟨r, ⟨found, hf, hr⟩, failed⟩
    exact ⟨found, hf, r, hr, failed⟩
  · rintro ⟨found, hf, r, hr, failed⟩
    exact ⟨r, ⟨found, hf, hr⟩, failed⟩

/-- The results of reports are sound, a report fails exactly if one of its findings is fatal, and a
gate lets a build pass exactly if no report has one. -/
theorem exitCode_sound {first added : List Report}
    (given : ∀ found ∈ first ++ added, found.IsGiven) :
    (∀ found ∈ first ++ added, (∀ r ∈ found.results, r.IsSound) ∧
      (found.verdict = .fail ↔ found.IsFatal)) ∧
    ((added.foldl add ⟨first⟩).exitCode = 1 ↔ (added.foldl add ⟨first⟩).failures ≠ []) ∧
    ((added.foldl add ⟨first⟩).failures ≠ [] ↔ ∃ found ∈ first ++ added, found.IsFatal) := by
  have sound (found : Report) (hf : found ∈ first ++ added) : ∀ r ∈ found.results, r.IsSound := by
    obtain ⟨s, script, selection, useCache, reached, ran⟩ := given found hf
    exact Session.isSound_of_run reached ran
  have fails (found : Report) (hf : found ∈ first ++ added) :
      found.verdict = .fail ↔ found.IsFatal :=
    Report.verdict_eq_fail_iff_isFatal (sound found hf)
  refine ⟨fun found hf => ⟨sound found hf, fails found hf⟩, exitCode_eq_one_iff, ?_⟩
  rw [failures_ne_nil_iff, reports_foldl_add]
  constructor
  · rintro ⟨found, hf, failed⟩
    exact ⟨found, hf, (fails found hf).mp failed⟩
  · rintro ⟨found, hf, fatal⟩
    exact ⟨found, hf, (fails found hf).mpr fatal⟩

/-- A script that is put to the gate where every command ends with one. -/
theorem exitCode_of_one_report :
    ∃ found : Report, found.IsGiven ∧ (∀ r ∈ found.results, r.IsSound) ∧
      (([found].foldl add ⟨[]⟩).exitCode = 1 ↔ found.IsFatal) := by
  let m : Machine := .answering (.finished [] [] 1)
  let s : Session := ⟨.atRoot, Session.builtinAnalyzers .atRoot, some ⟨none, []⟩, m⟩
  let work := Session.run ⟨"s", .bash, none, "ls", [], true⟩ (.default .bash) false
  have started : Session.start .atRoot (Session.builtinAnalyzers .atRoot) m = .ok s := rfl
  have reached : Session.Reached s := .first started fun r ⟨cache, hc, folder, hf, _⟩ => by
    rw [← Option.some.inj hc] at hf
    cases hf
  have answers : (work.run s).1.isOk := by decide +kernel
  cases ran : (work.run s).1 with
  | error fault =>
      rw [ran] at answers
      cases answers
  | ok found =>
      have given : found.IsGiven := ⟨s, _, _, _, reached, ran⟩
      have sound := @exitCode_sound [] [found] (by simpa using given)
      refine ⟨found, given, (sound.1 found (by simp)).1, ?_⟩
      rw [sound.2.1, sound.2.2]
      simp

end Gate

end ScriptVet
