import ScriptVet.Proofs.Analyzer.Begun
import ScriptVet.Proofs.Session.BuildAll
import ScriptVet.Proofs.Session.Progress
import ScriptVet.Proofs.Session.Transparency

/-!
# Analyses side by side

The analyses of a script take turns, and so do those of scripts that are built together.
-/

namespace ScriptVet.Session

open Activity Analyzer ResultCache Disk

variable {settings : Settings} {inv : Machine → Prop}
  {mem : List (String × AnalysisResult) → Prop} {s : Session}

/-! ## What analyses do between pauses -/

/-- In between no file was written but entries of the cache, if it keeps them where the settings
say, and it still does. -/
def WritesEntries (settings : Settings) (s s' : Session) : Prop :=
  (∀ cache ∈ s.cache, cache.folder = keptIn settings) →
    (∀ cache ∈ s'.cache, cache.folder = keptIn settings) ∧
      s.machine.disk.WritesAt (IsCacheFile settings s.machine.disk) s'.machine.disk

instance : IsPreorder Session (WritesEntries settings) where
  refl _ folder := ⟨folder, .refl _ _⟩
  trans _ _ _ h h' folder := by
    obtain ⟨folder', writes⟩ := h folder
    obtain ⟨folder'', writes'⟩ := h' folder'
    have cacheFiles (q : Place) := (isCacheFile_congr writes.working settings q).mp
    exact ⟨folder'', writes.trans (writes'.mono cacheFiles)⟩

theorem strides_onMachine {α : Type} {work : Work α} {n : Nat}
    (h : work.Strides Machine.WritesNothing n) :
    (onMachine work).Strides (WritesEntries settings) n :=
  h.inPart fun _ _ adds folder => ⟨folder, AddsFolders.writesAt adds _⟩

theorem folder_of_get {cache cache' : ResultCache} {disk : Disk} {key : String}
    {found : Option AnalysisResult} (got : cache.get disk key = .ok (found, cache')) :
    cache'.folder = cache.folder := by
  cases kept : cache.entries.lookup key with
  | some r =>
      rw [get_of_kept kept] at got
      cases got
      rfl
  | none =>
      rw [get_of_not_kept kept] at got
      split at got
      · cases got
        rfl
      · split at got <;> cases got <;> rfl

theorem strides_lookUp {cache : ResultCache} (there : s.cache = some cache) (key : String) :
    (lookUp cache key s).Strides (WritesEntries settings) s 0 := by
  rw [lookUp_apply]
  cases got : cache.get s.machine.disk key with
  | error fault => exact refl_of (WritesEntries settings) s
  | ok found =>
      refine fun folder => ⟨fun cache' hc => ?_, .refl _ _⟩
      cases hc
      exact (folder_of_get got).trans (folder cache there)

/-- Whoever keeps a result writes its entry, if anything. -/
theorem writesAt_of_put {cache cache' : ResultCache} {disk : Disk} {key : String}
    {r : AnalysisResult} {written : Result Disk}
    (put : cache.put disk key r = (cache', written)) :
    cache'.folder = cache.folder ∧ ∀ disk', written = .ok disk' →
      disk.WritesAt (fun q => ∃ folder ∈ cache.folder, q = disk.placeOf (fileFor folder key))
        disk' := by
  rw [ResultCache.put] at put
  split at put
  · cases put
    refine ⟨rfl, fun disk' same => ?_⟩
    cases same
    exact .refl _ _
  · obtain ⟨rfl, rfl⟩ := Prod.mk.inj put
    refine ⟨rfl, fun disk' written => ?_⟩
    split at written
    · cases written
      exact .refl _ _
    · next folder given =>
      obtain ⟨_, -, wrote⟩ := compactJson_of_writeEntry written
      exact (writesAt_of_write wrote).mono fun q hq => ⟨folder, given, hq⟩

theorem strides_store {key : String} (isKey : IsKey key) (r : AnalysisResult) :
    (store key r).Strides (WritesEntries settings) 0 := by
  intro s
  rw [store_apply]
  cases there : s.cache with
  | none => exact refl_of (WritesEntries settings) s
  | some cache =>
      rcases put : cache.put s.machine.disk key r with ⟨cache', written⟩
      obtain ⟨same, writes⟩ := writesAt_of_put put
      have kept (only : ∀ cache ∈ s.cache, cache.folder = keptIn settings) :
          ∀ cache ∈ some cache', cache.folder = keptIn settings := by
        intro _ hc
        cases hc
        exact same.trans (only cache there)
      simp only [put]
      cases written with
      | error fault => exact fun only => ⟨kept only, .refl _ _⟩
      | ok disk =>
          refine fun only => ⟨kept only, (writes disk rfl).mono ?_⟩
          rintro q ⟨folder, given, rfl⟩
          rw [only cache there] at given
          exact ⟨folder, given, key, isKey, rfl⟩

/-- A result that was not found is made and kept. -/
theorem strides_found (settings : Settings) (kind : AnalyzerKind) (script : Script) {key : String}
    (isKey : IsKey key) (found : Option AnalysisResult) :
    (match found with
      | some r => pure r
      | none => do
        let r ← onMachine ((builtin settings kind).analyze script)
        store key r
        pure r : SessionWork AnalysisResult).Strides (WritesEntries settings) 3 := by
  cases found with
  | some r => exact (strides_ofResult _).mono (Nat.zero_le 3)
  | none =>
      exact (strides_onMachine (strides_analyze settings kind script)).bind_left fun r =>
        (strides_store isKey r).bind_right fun _ => strides_ofResult _

/-- An analysis runs two commands at most, one that tells a version and one that checks, and writes
nothing but its entry. -/
theorem strides_analyze_apply (h : s.Holds settings inv mem) (kind : AnalyzerKind)
    (script : Script) (useCache : Bool) :
    (analyze kind script useCache s).Strides (WritesEntries settings) s mostPauses := by
  have none (fault : Fault) (s : Session) (n : Nat) :
      (.ended (.error fault) s : Course Session AnalysisResult).Strides
        (WritesEntries settings) s n := refl_of (WritesEntries settings) s
  have stays : (onMachine ((builtin settings kind).analyze script)).Strides
      (WritesEntries settings) 3 := strides_onMachine (strides_analyze settings kind script)
  rw [analyze, analyzerOf_bind h, get_bind_apply]
  cases s.cache.filter fun _ => useCache with
  | none => exact stays.mono (by decide) s
  | some cache =>
      simp only [liftM_bind_apply]
      cases script.checkContent with
      | error e => exact none _ _ _
      | ok _ =>
          have asks : (onMachine ((builtin settings kind).fullVersion script)).Strides
              (WritesEntries settings) 3 :=
            strides_onMachine fun m => ((isQuiet_fullVersion _ script) m).mono (Nat.le_refl 3)
              fun _ _ => Machine.StaysQuiet.files
          refine Strides.bind (n := 3) asks (fun version s' => ?_) s
          rw [liftM_bind_apply]
          cases named : keyFor script (builtin settings kind) version with
          | error fault => exact none _ _ _
          | ok key =>
              have isKey : IsKey key := keyFor_eq_ok named ▸ isKey_key _ _ _
              have ends := strides_found settings kind script isKey
              simp only [get_bind_apply]
              cases there : s'.cache with
              | none => exact Strides.bind_right (strides_ofResult _) ends s'
              | some cache =>
                  exact (strides_bind (strides_lookUp there key) ends).mono (by decide)
                    fun _ _ => id

/-! ## What analyses deliver -/

/-- What the analyses for a script are to give, one for each kind. -/
def goodResults (settings : Settings) (first : Machine) (script : Script)
    (kinds : List AnalyzerKind) : List (AnalysisResult → Prop) :=
  kinds.map fun kind r => resultOn settings first script kind = some r

theorem eq_of_goodResults {first : Machine} {script : Script} {kinds : List AnalyzerKind}
    {results values : List AnalysisResult}
    (given : List.Forall₂ (fun kind r => resultOn settings first script kind = some r) kinds
      results)
    (good : List.Forall₂ (fun good r => good r) (goodResults settings first script kinds) values) :
    values = results := by
  rw [goodResults, List.forall₂_map_left_iff] at good
  have one : Relator.RightUnique fun kind r => resultOn settings first script kind = some r :=
    fun kind r r' hr hr' => Option.some.inj (hr.symm.trans hr')
  exact one.forall₂ good given

theorem report_eq_of_goodResults {first : Machine} {script : Script} {kinds : List AnalyzerKind}
    {found : Report} (reports : ReportsOn settings first script kinds found)
    {values : List AnalysisResult}
    (good : List.Forall₂ (fun good r => good r) (goodResults settings first script kinds) values) :
    report script values = .ok found := by
  obtain ⟨results, given, reported⟩ := reports
  rw [eq_of_goodResults given good]
  exact reported

/-- What analyses keep to in sessions of which something holds. -/
def rules (settings : Settings) (holds : Session → Prop) : Rules Session where
  inv := holds
  allowed := WritesEntries settings

/-- The analyses of a script deliver if each of them does. -/
theorem delivers_analyses {holds : Session → Prop} {first : Machine} {script : Script}
    {selection : Selection} {useCache : Bool}
    (each : ∀ kind ∈ selection.kindsFor script.language,
      Activity.Delivers (rules settings holds)
        (fun r => resultOn settings first script kind = some r) mostPauses
        (analyze kind script useCache)) :
    List.Forall₂ (fun good x => Activity.Delivers (rules settings holds) good mostPauses x)
      (goodResults settings first script (selection.kindsFor script.language))
      (analyses script selection useCache) := by
  rw [goodResults, analyses, List.forall₂_map_left_iff, List.forall₂_map_right_iff]
  exact List.forall₂_same.mpr each

theorem length_kindsFor_le (selection : Selection) (language : Language) :
    (selection.kindsFor language).length ≤ mostParts :=
  List.length_filter_le _ AnalyzerKind.all

section

variable {first : Machine} {right : String → AnalysisResult → Prop} {now : Session}
  {script : Script} {kind : AnalyzerKind} {r : AnalysisResult}

/-- An analysis delivers that may be answered from the cache, if its result can be kept and nothing
else is kept under its key. -/
theorem delivers_analyze_true (steady : Steady settings first inv)
    (regime : Regime settings (Tells settings first.toolbox) inv (Remembers right now.Recalls)
      right)
    (caching : settings.cacheResults) (machine : inv now.machine)
    (admits : Admits settings (Tells settings first.toolbox) inv right script kind)
    (isRight : ∀ {key a}, HasKey settings first.toolbox script kind key → right key a →
      resultOn settings first script kind = some a)
    (content : script.checkContent = .ok ())
    (comes : resultOn settings first script kind = some r)
    (keep : CanKeep settings now script kind)
    (reads : ∀ {m}, inv m → ∀ folder ∈ keptIn settings, ∀ {key},
      HasKey settings first.toolbox script kind key → ¬ now.Recalls key →
      ∃ found, readEntry m.disk (fileFor folder key) = .ok found) :
    Activity.Delivers (rules settings (Holds settings inv (Remembers right now.Recalls)))
      (fun a => resultOn settings first script kind = some a) mostPauses
      (analyze kind script true) := by
  intro s h
  refine ⟨?_, strides_analyze_apply h kind script true⟩
  refine (ensures_analyze_true regime id (fun h => holds_store regime admits h) caching h).mono ?_
  rintro result s' ⟨h', ends⟩
  cases result with
  | error fault => exact (no_obstacle steady machine content comes keep reads ends).elim
  | ok a => exact ⟨h', a, rfl, ends.resultOn steady isRight⟩

/-- So does an analysis that is made without the cache. -/
theorem delivers_analyze_false (steady : Steady settings first inv)
    (regime : Regime settings (Tells settings first.toolbox) inv mem right)
    (comes : resultOn settings first script kind = some r) :
    Activity.Delivers (rules settings (Holds settings inv mem))
      (fun a => resultOn settings first script kind = some a) mostPauses
      (analyze kind script false) := by
  intro s h
  refine ⟨?_, strides_analyze_apply h kind script false⟩
  refine (ensures_analyze_fresh regime h kind script (.inl rfl)).mono ?_
  rintro result s' ⟨h', m, hm, given⟩
  have same := steady.results hm script kind
  rw [resultOn, ← given, comes] at same
  cases result with
  | error fault => cases same
  | ok a => exact ⟨h', a, rfl, comes.trans same.symm⟩

end

/-! ## The analyses of one script -/

section

variable {now : Session} {requests : List Request} {request : Request}

/-- What is known of the job of a request whose analyses deliver. -/
def runPlan (first : Machine) (holds : Session → Prop) (request : Request)
    (each : ∀ kind ∈ request.kinds, Activity.Delivers (rules settings holds)
      (fun r => resultOn settings first request.script kind = some r) mostPauses
      (analyze kind request.script request.useCache)) : Plan Session AnalysisResult where
  toRules := rules settings holds
  jobs := [runJob request.script request.selection request.useCache]
  single := true
  alone _ := rfl
  goods := [goodResults settings first request.script request.kinds]
  parts := .cons (fun _ _ => ⟨_, rfl, delivers_analyses each⟩) .nil
  few good hgood := by
    rw [List.mem_singleton.mp hgood, goodResults, List.length_map]
    exact length_kindsFor_le _ _
  left _ _ := True
  stays _ _ _ := trivial
  finish at' values s h result s' finished := by
    rw [List.mem_singleton.mp (List.mem_of_getElem? at'), run_finish_runJob] at finished
    cases finished
    exact ⟨h, fun _ _ => id, fun _ => trivial⟩

/-- The analyses of a request that is answered deliver, with the cache or without. -/
theorem StartsEmpty.delivers (h : s.StartsEmpty settings)
    (noCollision : NoCollision settings s.machine.toolbox requests)
    (free : ∀ other ∈ requests, other.script.IsFreeOfZeros) (asked : request ∈ requests)
    (holds : HoldsFor settings s.machine requests (fun _ => True) (fun _ => False) now)
    {found : Report} (given : request.answer now = some found) :
    ReportsOn settings s.machine request.script request.kinds found ∧
      ∀ kind ∈ request.kinds, Activity.Delivers
        (rules settings (HoldsFor settings s.machine requests (fun _ => True) now.Recalls))
        (fun r => resultOn settings s.machine request.script kind = some r) mostPauses
        (analyze kind request.script request.useCache) := by
  have regime := h.regime (RightFor settings s.machine requests fun _ => True) now.Recalls
  have steady : Steady settings s.machine (FollowsFor settings s.machine requests fun _ => True) :=
    steady_continues h.ready
  cases cached : request.useCache with
  | true =>
      have may : MayUseCache settings s requests request := ⟨h, noCollision, free, asked, cached⟩
      have reports := (may.answer_cached holds given).1
      have keep := may.canKeep_of_answer holds given
      refine ⟨reports, fun kind applies => ?_⟩
      obtain ⟨r, comes⟩ := reports.each kind applies
      refine delivers_analyze_true steady regime h.caching holds.machine (may.admits applies)
        (fun has isRight => ?_) reports.content comes (keep kind applies) ?_
      · exact isRight.1.resultOn_eq noCollision free asked cached applies has
      · intro m follows folder given key has _
        obtain ⟨found, read, -⟩ := follows.files folder given has.isKey
        exact ⟨found, read⟩
  | false =>
      have same : request.uncached = request := by rw [Request.uncached, ← cached]
      have reports := h.answer_uncached holds request
      rw [same, given] at reports
      refine ⟨reports, fun kind applies => ?_⟩
      obtain ⟨r, comes⟩ := reports.each kind applies
      exact delivers_analyze_false steady regime comes

/-- A request that is answered gets the same answer when its analyses are made side by side, however
many of them at once, and what later requests rely on holds then as well. -/
theorem answer_sideBySide (h : s.StartsEmpty settings) (before : List Request) (request : Request)
    (free : ∀ other ∈ before ++ [request], other.script.IsFreeOfZeros)
    (noCollision : NoCollision settings s.machine.toolbox (before ++ [request])) {found : Report}
    (given : request.answer (afterAll before s) = some found) {places : Nat} (some : 0 < places) :
    let jobs := [runJob request.script request.selection request.useCache]
    let now := afterAll before s
    report request.script ((Turns.played jobs true places now).values 0) = .ok found ∧
      ∃ later, Turns.outcome jobs true places now = (none, later) ∧
        HoldsFor settings s.machine (before ++ [request]) (fun _ => True) now.Recalls later := by
  intro jobs now
  have holds := h.holds_afterAll (List.subset_append_left before [request])
  have asked : request ∈ before ++ [request] := List.mem_append_right _ (List.mem_singleton_self _)
  obtain ⟨reports, each⟩ := h.delivers noCollision free asked holds given
  let plan := runPlan s.machine _ request each
  rcases plan.outcome_or_fails some (HoldsFor.staying holds) with
    ⟨later, outcome, inv, -, good⟩ | fails
  · exact ⟨report_eq_of_goodResults reports (@good 0 _ rfl), later, outcome, inv⟩
  · obtain ⟨fault, _, -, job, found', good, values, s', at', given', isGood, -, failed⟩ := fails
    cases List.mem_singleton.mp (List.mem_of_getElem? at')
    cases List.mem_singleton.mp (List.mem_of_getElem? given')
    rw [run_finish_runJob, report_eq_of_goodResults reports isGood] at failed
    cases failed

end

end ScriptVet.Session
