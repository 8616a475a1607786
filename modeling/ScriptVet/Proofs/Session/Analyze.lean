import ScriptVet.Proofs.CacheFiles
import ScriptVet.Proofs.Tools.Version
import ScriptVet.Session.Basic

/-!
# One analysis in a session

An analysis may be answered from the cache or be made, and in between others work on the session.
It relies on what holds of the machine and of the results that are kept, and says where its result
comes from, or what stood in the way of one.
-/

namespace ScriptVet.Session

open Activity Analyzer ResultCache

/-- Where a cache keeps results in files, if there is a cache and it does. -/
def keptIn (settings : Settings) : Option Path :=
  if settings.cacheResults then cacheFolder settings else none

/-- What holds of a session with the built-in analyzers: of its machine, and of the results that
its cache keeps in memory. -/
structure Holds (settings : Settings) (inv : Machine → Prop)
    (mem : List (String × AnalysisResult) → Prop) (s : Session) : Prop where
  under : s.settings = settings
  analyzers : s.analyzers = builtinAnalyzers settings
  machine : inv s.machine
  caching : s.cache.isSome = settings.cacheResults
  folder : ∀ cache ∈ s.cache, cache.folder = keptIn settings
  memory : ∀ cache ∈ s.cache, mem cache.entries

/-- The tool whose version belongs to the version of an analyzer. -/
def toolOf? (settings : Settings) (script : Script) (kind : AnalyzerKind) : Option String :=
  match (builtin settings kind).basis with
  | .tool toolFor => toolFor script.language
  | .nothing | .vocabulary _ => none

/-- The version of an analyzer for a script, by what tools have told. -/
def HasVersion (settings : Settings) (told : String → String → Prop) (script : Script)
    (kind : AnalyzerKind) (version : String) : Prop :=
  match toolOf? settings script kind with
  | some tool => ∃ v, told tool v ∧
      version = s!"{(builtin settings kind).ownVersion}+{tool}:{v}"
  | none =>
    match (builtin settings kind).basis with
    | .vocabulary words =>
      version = (builtin settings kind).ownVersion ++ "+" ++ ",".intercalate (Shell.sortedSet words)
    | _ => version = (builtin settings kind).ownVersion

/-- What a session relies on: versions stay as they are told, and what is found in memory or in
files is right. -/
structure Regime (settings : Settings) (told : String → String → Prop) (inv : Machine → Prop)
    (mem : List (String × AnalysisResult) → Prop) (right : String → AnalysisResult → Prop) :
    Prop where
  versions : Work.KeepsVersions settings told inv
  kept : ∀ {entries}, mem entries → ∀ {key r}, entries.lookup key = some r → right key r
  remembered : ∀ {entries}, mem entries → ∀ {key r}, right key r → mem (Keyed.put key r entries)
  found : ∀ {m}, inv m → ∀ folder ∈ keptIn settings, ∀ {key r}, IsKey key →
    readEntry m.disk (fileFor folder key) = .ok (some r) → right key r

/-- All results in memory are right, and under the keys that should stay there are some. -/
structure Remembers (right : String → AnalysisResult → Prop) (stays : String → Prop)
    (entries : List (String × AnalysisResult)) : Prop where
  right : ∀ {key r}, entries.lookup key = some r → right key r
  stays : ∀ {key}, stays key → entries.lookup key ≠ none

theorem Remembers.put {right : String → AnalysisResult → Prop} {stays : String → Prop}
    {entries : List (String × AnalysisResult)} (h : Remembers right stays entries) {key : String}
    {r : AnalysisResult} (isRight : right key r) :
    Remembers right stays (Keyed.put key r entries) where
  right {key' r'} found := by
    by_cases same : key' = key
    · rw [same, Keyed.lookup_put_self] at found
      rw [same, ← Option.some.inj found]
      exact isRight
    · rw [Keyed.lookup_put_of_ne same] at found
      exact h.right found
  stays {key'} kept := by
    by_cases same : key' = key
    · rw [same, Keyed.lookup_put_self]
      exact Option.some_ne_none r
    · rw [Keyed.lookup_put_of_ne same]
      exact h.stays kept

section

variable (settings : Settings) (told : String → String → Prop) (inv : Machine → Prop)
  (mem : List (String × AnalysisResult) → Prop) (right : String → AnalysisResult → Prop)
  (script : Script) (kind : AnalyzerKind)

/-- The analysis has been made on some machine and has given the result. -/
def IsFresh (r : AnalysisResult) : Prop :=
  ∃ m, inv m ∧ outcome settings (view settings m) script kind = .ok r

/-- Nothing was found under the key in a file. -/
def HoldsNoEntry (key : String) : Prop :=
  ∀ folder ∈ keptIn settings, ∃ m, inv m ∧ readEntry m.disk (fileFor folder key) = .ok none

/-- Where a result comes from that may be taken from the cache. -/
structure Answers (r : AnalysisResult) : Prop where
  content : script.checkContent = .ok ()
  source : ∃ version key, HasVersion settings told script kind version ∧
    keyFor script (builtin settings kind) version = .ok key ∧
      (right key r ∨ IsFresh settings inv script kind r ∧
        (r.status ≠ .skipped → ∀ folder ∈ keptIn settings, ∃ text, r.compactJson = .ok text) ∧
        (∃ entries, mem entries ∧ entries.lookup key = none) ∧ HoldsNoEntry settings inv key)

/-- What can stand in the way of a result that may be taken from the cache. -/
inductive Obstacle : Fault → Prop where
  | content {e} (h : script.checkContent = .error e) : Obstacle (.unwritable e)
  | version {tool m fault} (asks : toolOf? settings script kind = some tool) (h : inv m)
    (failed : Work.toldVersion settings m.toolbox tool = .error fault) : Obstacle fault
  | key {version fault} (has : HasVersion settings told script kind version)
    (failed : keyFor script (builtin settings kind) version = .error fault) : Obstacle fault
  | file {folder m version key entries fault} (given : folder ∈ keptIn settings) (h : inv m)
    (has : HasVersion settings told script kind version)
    (named : keyFor script (builtin settings kind) version = .ok key)
    (memory : mem entries) (missed : entries.lookup key = none)
    (failed : readEntry m.disk (fileFor folder key) = .error fault) : Obstacle fault
  | analysis {m fault} (h : inv m)
    (failed : outcome settings (view settings m) script kind = .error fault) : Obstacle fault
  | storing {folder m version key entries r fault} (given : folder ∈ keptIn settings) (h : inv m)
    (has : HasVersion settings told script kind version)
    (named : keyFor script (builtin settings kind) version = .ok key)
    (memory : mem entries) (missed : entries.lookup key = none)
    (fresh : IsFresh settings inv script kind r) (made : r.status ≠ .skipped)
    (failed : writeEntry m.disk (fileFor folder key) r = .error fault) : Obstacle fault

end

theorem isKey_key (fingerprint : String) (kind : AnalyzerKind) (version : String) :
    IsKey (ResultCache.key fingerprint kind version) :=
  ⟨_, rfl⟩

theorem keyFor_eq_ok {script : Script} {analyzer : Analyzer} {version key : String}
    (h : keyFor script analyzer version = .ok key) :
    key = ResultCache.key script.fingerprint analyzer.kind version := by
  obtain ⟨_, -, h⟩ := Result.bind_eq_ok.mp h
  exact (Except.ok.inj h).symm

variable {settings : Settings} {told : String → String → Prop} {inv : Machine → Prop}
  {mem : List (String × AnalysisResult) → Prop} {right : String → AnalysisResult → Prop}
  {s : Session}

theorem analyzerOf_bind {α : Type} (h : s.Holds settings inv mem) (kind : AnalyzerKind)
    (next : Analyzer → SessionWork α) :
    (analyzerOf kind >>= next) s = next (builtin settings kind) s := by
  have found : s.analyzers.find? (·.kind == kind) = some (builtin settings kind) := by
    rw [h.analyzers]
    cases kind <;> rfl
  have apply : analyzerOf kind s = .ended (.ok (builtin settings kind)) s := by
    rw [analyzerOf, get_bind_apply, found]
    rfl
  change (analyzerOf kind s).andThen _ = _
  rw [apply]
  rfl

theorem ensures_onMachine {α : Type} {work : Work α} {result : Result α → Prop}
    (h : s.Holds settings inv mem)
    (ends : (work s.machine).Ensures inv fun r m => inv m ∧ result r) :
    (onMachine work s).Ensures (Holds settings inv mem) fun r s' =>
      s'.Holds settings inv mem ∧ result r := by
  have put (m : Machine) {s : Session} (h : s.Holds settings inv mem) (hm : inv m) :
      Holds settings inv mem { s with machine := m } :=
    ⟨h.under, h.analyzers, hm, h.caching, h.folder, h.memory⟩
  exact ends.inPart (fun _ h => h.machine) (fun m _ h hm => put m h hm)
    (fun r m _ h hm => ⟨put m h hm.1, hm.2⟩) h

theorem lookUp_apply (cache : ResultCache) (key : String) (s : Session) :
    lookUp cache key s =
      match cache.get s.machine.disk key with
      | .ok (found, cache) => .ended (.ok found) { s with cache := some cache }
      | .error fault => .ended (.error fault) s := by
  rw [lookUp, get_bind_apply, liftM_bind_apply]
  cases cache.get s.machine.disk key <;> rfl

theorem store_apply (key : String) (r : AnalysisResult) (s : Session) :
    store key r s =
      match s.cache with
      | none => .ended (.ok ()) s
      | some cache =>
        match cache.put s.machine.disk key r with
        | (cache, .ok disk) =>
          .ended (.ok ()) { s with cache := some cache, machine := { s.machine with disk } }
        | (cache, .error fault) => .ended (.error fault) { s with cache := some cache } := by
  rw [store, get_bind_apply]
  cases s.cache with
  | none => rfl
  | some cache =>
      rcases hp : cache.put s.machine.disk key r with ⟨cache', written⟩
      simp only [hp]
      cases written <;> rfl

theorem fullVersion_eq (settings : Settings) (script : Script) (kind : AnalyzerKind) :
    (builtin settings kind).fullVersion script =
      match toolOf? settings script kind with
      | some tool => do
        let version ← Work.toolVersion settings kind tool
        pure s!"{(builtin settings kind).ownVersion}+{tool}:{version}"
      | none =>
        match (builtin settings kind).basis with
        | .vocabulary words =>
          pure ((builtin settings kind).ownVersion ++ "+" ++
            ",".intercalate (Shell.sortedSet words))
        | _ => pure (builtin settings kind).ownVersion := by
  have tools (toolFor : Language → Option String) (analyzer : Analyzer)
      (basis : analyzer.basis = .tool toolFor) :
      analyzer.fullVersion script =
        match toolFor script.language with
        | some tool => do
          let version ← Work.toolVersion analyzer.settings analyzer.kind tool
          pure s!"{analyzer.ownVersion}+{tool}:{version}"
        | none => pure analyzer.ownVersion := by
    simp only [fullVersion, basis]
    cases toolFor script.language <;> rfl
  cases kind with
  | parses => exact tools _ (parses settings) rfl
  | lint => exact tools _ (lint settings) rfl
  | strictMode => exact tools _ (strictMode settings) rfl
  | functionDeps => rfl
  | variableUsage => rfl

theorem ensures_fullVersion (keeps : Work.KeepsVersions settings told inv) {m : Machine}
    (h : inv m) (script : Script) (kind : AnalyzerKind) :
    ((builtin settings kind).fullVersion script m).Ensures inv fun result m' =>
      inv m' ∧
        match result with
        | .ok version => HasVersion settings told script kind version
        | .error fault => ∃ tool m, toolOf? settings script kind = some tool ∧ inv m ∧
          Work.toldVersion settings m.toolbox tool = .error fault := by
  rw [fullVersion_eq]
  simp only [HasVersion]
  cases asks : toolOf? settings script kind with
  | some tool =>
      refine ensures_bind (Work.ensures_toolVersion keeps h kind tool)
        (fun version m' ⟨h', now⟩ => ⟨h', version, now, rfl⟩)
        fun fault m' ⟨h', failed⟩ => ⟨h', tool, m, rfl, h, failed⟩
  | none =>
      cases (builtin settings kind).basis <;> exact ⟨h, rfl⟩

theorem Holds.remember (regime : Regime settings told inv mem right)
    (h : s.Holds settings inv mem) {cache : ResultCache}
    (there : s.cache = some cache) {key : String} {r : AnalysisResult} (isRight : right key r) :
    Holds settings inv mem { s with cache := some (cache.remember key r) } where
  under := h.under
  analyzers := h.analyzers
  machine := h.machine
  caching := by
    rw [← h.caching, there]
    rfl
  folder cache' hc := by
    rw [← Option.some.inj hc]
    exact h.folder cache there
  memory cache' hc := by
    rw [← Option.some.inj hc, ResultCache.remember]
    exact regime.remembered (h.memory cache there) isRight

/-- What is found in the cache is right. -/
theorem ensures_lookUp (regime : Regime settings told inv mem right) (h : s.Holds settings inv mem)
    {cache : ResultCache} (there : s.cache = some cache) {key : String} (isKey : IsKey key) :
    (lookUp cache key s).Ensures (Holds settings inv mem) fun result s' =>
      s'.Holds settings inv mem ∧
        match result with
        | .ok (some r) => right key r
        | .ok none => (∃ entries, mem entries ∧ entries.lookup key = none) ∧
          HoldsNoEntry settings inv key
        | .error fault => (∃ entries, mem entries ∧ entries.lookup key = none) ∧
          ∃ folder ∈ keptIn settings, ∃ m, inv m ∧
            readEntry m.disk (fileFor folder key) = .error fault := by
  have same : { s with cache := some cache } = s := by rw [← there]
  rw [lookUp_apply]
  cases kept : cache.entries.lookup key with
  | some r =>
      rw [get_of_kept kept]
      simp only [same]
      exact ⟨h, regime.kept (h.memory cache there) kept⟩
  | none =>
      have missed : ∃ entries, mem entries ∧ entries.lookup key = none :=
        ⟨cache.entries, h.memory cache there, kept⟩
      have only := h.folder cache there
      rw [get_of_not_kept kept]
      cases given : cache.folder with
      | none =>
          simp only [same]
          refine ⟨h, missed, fun folder keeps => ?_⟩
          rw [← only, given] at keeps
          cases keeps
      | some folder =>
          rw [given] at only
          have given : folder ∈ keptIn settings := only.symm
          simp only
          cases read : readEntry s.machine.disk (fileFor folder key) with
          | error fault => exact ⟨h, missed, folder, given, s.machine, h.machine, read⟩
          | ok found =>
              cases found with
              | none =>
                  simp only [same]
                  refine ⟨h, missed, fun folder' keeps => ⟨s.machine, h.machine, ?_⟩⟩
                  rw [← only] at keeps
                  rw [← Option.some.inj keeps]
                  exact read
              | some r =>
                  have isRight := regime.found h.machine folder given isKey read
                  exact ⟨h.remember regime there isRight, isRight⟩

/-- What an analysis makes of a machine that has been kept as it should be. -/
theorem ensures_onMachine_analyze (regime : Regime settings told inv mem right)
    (h : s.Holds settings inv mem) (kind : AnalyzerKind) (script : Script) :
    (onMachine ((builtin settings kind).analyze script) s).Ensures (Holds settings inv mem)
      fun result s' => s'.Holds settings inv mem ∧
        ∃ m, inv m ∧ result = outcome settings (view settings m) script kind :=
  have ends := Analyzer.ensures_analyze regime.versions.lasting h.machine kind script
  ensures_onMachine h (ends.mono fun _ _ ⟨hm, ended⟩ => ⟨hm, s.machine, h.machine, ended⟩)

/-- An analysis that is made whatever the cache holds, if there is one. -/
theorem ensures_analyze_fresh (regime : Regime settings told inv mem right)
    (h : s.Holds settings inv mem) (kind : AnalyzerKind) (script : Script) {useCache : Bool}
    (unused : useCache = false ∨ settings.cacheResults = false) :
    (analyze kind script useCache s).Ensures (Holds settings inv mem) fun result s' =>
      s'.Holds settings inv mem ∧
        ∃ m, inv m ∧ result = outcome settings (view settings m) script kind := by
  have unused : s.cache.filter (fun _ => useCache) = none := by
    rcases unused with rfl | off
    · cases s.cache <;> rfl
    · have noCache : s.cache = none := by
        rw [← Option.isNone_iff_eq_none, ← Option.isSome_eq_false_iff, h.caching, off]
      rw [noCache, Option.filter_none]
  rw [analyze, analyzerOf_bind h, get_bind_apply, unused]
  exact ensures_onMachine_analyze regime h kind script

/-- Keeping a result does not pause. -/
theorem store_eq_ended (key : String) (r : AnalysisResult) (s : Session) :
    store key r s = .ended ((store key r).run s).1 ((store key r).run s).2 := by
  rw [Activity.run, store_apply]
  cases s.cache with
  | none => rfl
  | some cache =>
      simp only
      rcases cache.put s.machine.disk key r with ⟨cache', written⟩
      cases written <;> rfl

theorem run_store_of_uncached (there : s.cache = none) (key : String) (r : AnalysisResult) :
    (store key r).run s = (.ok (), s) := by
  rw [Activity.run, store_apply, there]
  rfl

theorem run_store_of_skipped {r : AnalysisResult} (skipped : r.status = .skipped) (key : String)
    (s : Session) : (store key r).run s = (.ok (), s) := by
  rw [Activity.run, store_apply]
  cases there : s.cache with
  | none => rfl
  | some cache =>
      simp only [put, if_pos skipped, Course.finish, ← there]

/-- A result that was not skipped is kept in memory, and then in a file if there is a folder. -/
theorem run_store_of_not_skipped {r : AnalysisResult} (made : r.status ≠ .skipped) (key : String)
    {s : Session} {cache : ResultCache} (there : s.cache = some cache) :
    (store key r).run s =
      match cache.folder with
      | none => (.ok (), { s with cache := some (cache.remember key r) })
      | some folder =>
        match writeEntry s.machine.disk (fileFor folder key) r with
        | .ok disk =>
          (.ok (), { s with
            cache := some (cache.remember key r), machine := { s.machine with disk } })
        | .error fault => (.error fault, { s with cache := some (cache.remember key r) }) := by
  rw [Activity.run, store_apply, there]
  simp only [put, if_neg made]
  cases cache.folder with
  | none => rfl
  | some folder =>
      simp only
      cases writeEntry s.machine.disk (fileFor folder key) r <;> rfl

/-- What keeping a result says about it. -/
theorem run_store_fst (h : s.Holds settings inv mem) (key : String) (r : AnalysisResult) :
    match ((store key r).run s).1 with
    | .ok _ => r.status ≠ .skipped → settings.cacheResults → ∀ folder ∈ keptIn settings,
      ∃ text, r.compactJson = .ok text
    | .error fault => r.status ≠ .skipped ∧ ∃ folder ∈ keptIn settings,
      writeEntry s.machine.disk (fileFor folder key) r = .error fault := by
  by_cases skipped : r.status = .skipped
  · rw [run_store_of_skipped skipped]
    exact fun made => absurd skipped made
  · cases there : s.cache with
    | none =>
        rw [run_store_of_uncached there]
        intro _ caching
        rw [← h.caching, there] at caching
        cases caching
    | some cache =>
        rw [run_store_of_not_skipped skipped key there]
        have same := h.folder cache there
        cases given : cache.folder with
        | none =>
            intro _ _ folder hf
            rw [← same, given] at hf
            cases hf
        | some folder =>
            have only : folder ∈ keptIn settings := by
              rw [← same]
              exact given
            simp only
            cases written : writeEntry s.machine.disk (fileFor folder key) r with
            | error fault => exact ⟨skipped, folder, only, written⟩
            | ok disk =>
                intro _ _ _ _
                obtain ⟨text, rendered, -⟩ := compactJson_of_writeEntry written
                exact ⟨text, rendered⟩

/-- An analysis whose result is made and then kept. -/
theorem ensures_make (regime : Regime settings told inv mem right) {script : Script}
    {kind : AnalyzerKind} {after : Session → Prop}
    (kept : ∀ {s}, s.Holds settings inv mem → after s) {version key : String}
    (has : HasVersion settings told script kind version)
    (named : keyFor script (builtin settings kind) version = .ok key)
    (stored : ∀ {s r}, s.Holds settings inv mem → IsFresh settings inv script kind r →
      r.status ≠ .skipped → after ((store key r).run s).2)
    {entries : List (String × AnalysisResult)} (memory : mem entries)
    (missed : entries.lookup key = none) (unfound : HoldsNoEntry settings inv key)
    (content : script.checkContent = .ok ()) (caching : settings.cacheResults)
    (h : s.Holds settings inv mem) :
    ((do
        let result ← onMachine ((builtin settings kind).analyze script)
        store key result
        pure result : SessionWork AnalysisResult) s).Ensures (Holds settings inv mem)
      fun result s' => after s' ∧
        match result with
        | .ok r => Answers settings told inv mem right script kind r
        | .error fault => Obstacle settings told inv mem script kind fault := by
  refine ensures_bind (ensures_onMachine_analyze regime h kind script) ?_
    fun fault s' ⟨h', m, hm, failed⟩ => ⟨kept h', .analysis hm failed.symm⟩
  rintro r s' ⟨h', m, hm, given⟩
  have fresh : IsFresh settings inv script kind r := ⟨m, hm, given.symm⟩
  have now : after ((store key r).run s').2 := by
    by_cases skipped : r.status = .skipped
    · rw [run_store_of_skipped skipped]
      exact kept h'
    · exact stored h' fresh skipped
  have known := run_store_fst h' key r
  change Course.Ensures _ _ ((store key r s').andThen _)
  rw [store_eq_ended]
  cases result : ((store key r).run s').1 with
  | ok _ =>
      rw [result] at known
      exact ⟨now, content, version, key, has, named,
        .inr ⟨fresh, fun made => known made caching, ⟨entries, memory, missed⟩, unfound⟩⟩
  | error fault =>
      rw [result] at known
      obtain ⟨made, folder, given, failed⟩ := known
      exact ⟨now, .storing given h'.machine has named memory missed fresh made failed⟩

/-- An analysis that may be answered from the cache. What holds afterwards is up to the caller, who
has to see to it that it holds when a result has been kept. -/
theorem ensures_analyze_true (regime : Regime settings told inv mem right) {script : Script}
    {kind : AnalyzerKind} {after : Session → Prop}
    (kept : ∀ {s}, s.Holds settings inv mem → after s)
    (stored : ∀ {s version key r}, s.Holds settings inv mem → script.checkContent = .ok () →
      HasVersion settings told script kind version →
      keyFor script (builtin settings kind) version = .ok key →
      IsFresh settings inv script kind r → r.status ≠ .skipped → after ((store key r).run s).2)
    (caching : settings.cacheResults) (h : s.Holds settings inv mem) :
    (analyze kind script true s).Ensures (Holds settings inv mem) fun result s' =>
      after s' ∧
        match result with
        | .ok r => Answers settings told inv mem right script kind r
        | .error fault => Obstacle settings told inv mem script kind fault := by
  have used (cache : Option ResultCache) : cache.filter (fun _ => true) = cache := by
    cases cache <;> rfl
  have isSome {s : Session} (h : s.Holds settings inv mem) : ∃ cache, s.cache = some cache :=
    Option.isSome_iff_exists.mp (h.caching.trans caching)
  obtain ⟨cache, there⟩ := isSome h
  rw [analyze, analyzerOf_bind h, get_bind_apply, used, there]
  simp only [liftM_bind_apply]
  cases content : script.checkContent with
  | error e => exact ⟨kept h, .content content⟩
  | ok _ =>
      simp only [Except.mapError]
      have versions := ensures_onMachine h
        (ensures_fullVersion regime.versions h.machine script kind)
      refine ensures_bind versions ?_ fun fault s' ⟨h', tool, m, asks, hm, failed⟩ =>
        ⟨kept h', .version asks hm failed⟩
      intro version s1 now
      have h1 := now.1
      have has : HasVersion settings told script kind version := now.2
      rw [liftM_bind_apply]
      cases named : keyFor script (builtin settings kind) version with
      | error fault => exact ⟨kept h1, .key has named⟩
      | ok key =>
          have isKey : IsKey key := by
            rw [keyFor_eq_ok named]
            exact isKey_key _ _ _
          obtain ⟨cache, there⟩ := isSome h1
          simp only [get_bind_apply, there]
          refine ensures_bind (ensures_lookUp regime h1 there isKey) ?_
            fun fault s' ⟨h', ⟨entries, memory, missed⟩, folder, given, m, hm, failed⟩ =>
              ⟨kept h', .file given hm has named memory missed failed⟩
          rintro found s2 ⟨h2, isRight⟩
          cases found with
          | some r =>
              have answers : Answers settings told inv mem right script kind r :=
                ⟨content, version, key, has, named, .inl isRight⟩
              exact show after s2 ∧ _ from ⟨kept h2, answers⟩
          | none =>
              obtain ⟨⟨entries, memory, missed⟩, unfound⟩ := isRight
              exact ensures_make regime kept has named (fun h => stored h content has named) memory
                missed unfound content caching h2

end ScriptVet.Session
