import ScriptVet.Proofs.Session.Kinds
import ScriptVet.Proofs.Session.ToolChecks
import ScriptVet.Proofs.Session.Transparency

/-!
# Tools that are missing

An analysis whose tool is missing is meant to be skipped. It is where the analysis is made. But the
cache is asked first, under the version that the tool has if it cannot be asked for one, and so has
a tool that is there but does not answer. What was made with such a tool is found again when the
tool is missing. Nothing else is: the results that are not skipped are those that the cache offers
from the start.
-/

namespace ScriptVet

namespace Session

open Analyzer ResultCache Disk

section

variable {settings : Settings} {script : Script} {kind : AnalyzerKind} {tool : String}

/-- The version of an analyzer gives away its tool, and what the tool has told. -/
theorem HasVersion.tool_of_eq (asks : toolOf? settings script kind = some tool)
    {settings' : Settings} {script' : Script} {told : String → String → Prop} {v : String}
    (has : HasVersion settings' told script' kind
      s!"{(builtin settings kind).ownVersion}+{tool}:{v}") :
    toolOf? settings' script' kind = some tool ∧ told tool v := by
  have own : (builtin settings kind).ownVersion = (builtin settings' kind).ownVersion := by
    cases kind <;> rfl
  rw [own] at has
  rw [HasVersion] at has
  cases asks' : toolOf? settings' script' kind with
  | none =>
      -- Without a tool there is nothing behind the version of the analyzer itself.
      exfalso
      rw [asks'] at has
      obtain ⟨own, bare⟩ : ∃ own : String, own = s!"{own}+{tool}:{v}" := by
        cases kind with
        | parses => exact ⟨_, has.symm⟩
        | lint => exact ⟨_, has.symm⟩
        | strictMode => exact ⟨_, has.symm⟩
        | functionDeps => cases asks
        | variableUsage => cases asks
      have lengths := congrArg (fun text : String => text.toList.length) bare
      simp only [String.toList_append, List.length_append, toString] at lengths
      have one : "+".toList.length = 1 := rfl
      omega
  | some tool' =>
      rw [asks'] at has
      obtain ⟨v', told', same⟩ := has
      have lists := congrArg String.toList same
      simp only [String.toList_append, toString, List.append_assoc, List.append_cancel_left_eq]
        at lists
      have parted := append_cons_inj_of_notMem_left (colon_notMem_of_toolOf? asks)
        (colon_notMem_of_toolOf? asks') lists
      obtain rfl : tool = tool' := String.toList_inj.mp parted.1
      obtain rfl : v = v' := String.toList_inj.mp parted.2
      exact ⟨rfl, told'⟩

end

/-! ## What the cache offers -/

/-- The result is found under the key, in memory or in a file. -/
def Offers (s : Session) (key : String) (r : AnalysisResult) : Prop :=
  (∃ cache ∈ s.cache, cache.entries.lookup key = some r) ∨ s.KeptUnder key r

/-- The key is one that the analysis may look under. -/
def LooksUnder (s : Session) (request : Request) (kind : AnalyzerKind) (key : String) : Prop :=
  ∃ version, HasVersion s.settings s.HasTold request.script kind version ∧
    key = ResultCache.key request.script.fingerprint kind version

/-- The analysis for one of the requests gave the result, with a tool that was there and had told
the version. -/
inductive WasMadeWith (events : List Event) (fingerprint : String) (kind : AnalyzerKind)
    (tool version : String) (r : AnalysisResult) : Prop where
  | made {s request m executable} (asked : (s, request) ∈ events) (cached : request.useCache)
    (applies : kind ∈ request.kinds) (same : request.script.fingerprint = fingerprint)
    (told : s.HasTold tool version) (toolbox : m.toolbox = s.machine.toolbox)
    (there : Work.executableOf s.settings tool m.toolbox = .ok executable)
    (comes : outcome s.settings (view s.settings m) request.script kind = .ok r)
    (made : r.status ≠ .skipped) : WasMadeWith events fingerprint kind tool version r

/-- The same results as before are found in files under the keys. -/
def KeepsEntries (settings : Settings) (keys : String → Prop) (before disk : Disk) : Prop :=
  ∀ folder ∈ keptIn settings, ∀ key, keys key → IsKey key → ∀ r,
    readEntry disk (fileFor folder key) = .ok (some r) ↔
      readEntry before (fileFor folder key) = .ok (some r)

/-- What holds of the machine while a request is answered that puts no results under the keys. -/
structure SparesEntries (events : List Event) (s : Session) (keys : String → Prop) (m : Machine) :
    Prop extends Suits events s m where
  entries : KeepsEntries s.settings keys s.machine.disk m.disk

/-- The result suits the key, and was there from the start if nothing is put under the key. -/
def SuitsSparing (events : List Event) (s : Session) (keys : String → Prop) (key : String)
    (r : AnalysisResult) : Prop :=
  SuitsKey events key r ∧ (keys key → s.Offers key r)

section

variable {settings : Settings} {keys : String → Prop} {events : List Event} {s : Session}
  {request : Request} {kind : AnalyzerKind}

theorem KeepsEntries.made {before disk disk' : Disk} {p : Path}
    (leads : ∀ folder ∈ keptIn settings, disk.LeadsToFolder folder)
    (h : KeepsEntries settings keys before disk) (made : disk.ensureFolders p = .ok disk') :
    KeepsEntries settings keys before disk' := by
  intro folder given key spared isKey r
  have adds := (provides_of_ensureFolders made).adds
  rw [readEntry_eq_some_of_addsFolders (leads folder given) adds isKey]
  exact h folder given key spared isKey r

/-- Results under other keys leave those under the keys. -/
theorem KeepsEntries.written {before disk disk' : Disk} {folder : Path} {key : String}
    {content : List UInt8} (leads : disk.LeadsToFolder folder)
    (h : KeepsEntries settings keys before disk) (given : folder ∈ keptIn settings)
    (isKey : IsKey key) (spared : ¬ keys key)
    (written : disk.write (fileFor folder key) content = .ok disk') :
    KeepsEntries settings keys before disk' := by
  intro folder' given' other sparedOther isKey' r
  have one : folder' = folder := Option.some.inj (given'.symm.trans given)
  subst one
  have apart : other ≠ key := by
    rintro rfl
    exact spared sparedOther
  rw [readEntry_of_write leads isKey isKey' written, if_neg apart]
  exact h folder' given' other sparedOther isKey' r

/-- What a request relies on that puts no results under the keys. -/
theorem regime_sparesEntries (filled : FilledBy events s) (more : List Event)
    (keys : String → Prop) :
    Regime s.settings s.HasTold (SparesEntries more s keys)
      (Remembers (SuitsSparing more s keys) s.Recalls) (SuitsSparing more s keys) where
  kept h := h.right
  remembered h := h.put
  versions :=
    { lasting :=
        { called := fun h _ => ⟨⟨h.toolbox, h.noted, h.files⟩, h.entries⟩
          noted := fun h _ => ⟨⟨h.toolbox, h.noted, h.files⟩, h.entries⟩
          begun := fun h _ => ⟨⟨h.toolbox, h.noted, h.files⟩, h.entries⟩
          made := fun h _ made => ⟨⟨h.toolbox, h.noted, h.files.made made⟩,
            h.entries.made (fun folder given => (h.files folder given).1) made⟩ }
      asked := fun h tells => .inl (h.toolbox ▸ tells)
      noted := fun h noted => h.noted noted
      notes := fun h told kind =>
        ⟨⟨h.toolbox, Work.told_of_noted h.noted told kind, h.files⟩, h.entries⟩ }
  found h folder given key r isKey found := by
    refine ⟨(h.files folder given).2 key isKey r found, fun spared => .inr ?_⟩
    obtain ⟨cache, there, hf⟩ := filled.cache_of_keptIn given
    exact ⟨cache, there, folder, hf, isKey, (h.entries folder given key spared isKey r).mp found⟩

theorem FilledBy.holds_sparesEntries (h : FilledBy events s) {more : List Event}
    (subset : events ⊆ more) (keys : String → Prop) :
    s.Holds s.settings (SparesEntries more s keys)
      (Remembers (SuitsSparing more s keys) s.Recalls) := by
  have suits := h.holds subset
  refine ⟨rfl, suits.analyzers, ⟨suits.machine, fun _ _ _ _ _ _ => Iff.rfl⟩, suits.caching,
    suits.folder, fun cache there => ⟨fun {key r} kept => ⟨?_, fun _ => ?_⟩, ?_⟩⟩
  · exact (suits.memory cache there).right kept
  · exact .inl ⟨cache, there, kept⟩
  · rintro key ⟨cache', there', kept⟩
    rw [Option.some.inj (there.symm.trans there')]
    exact kept

/-- Results of an analysis may be kept if it looks under none of the keys. -/
theorem admits_sparesEntries (asked : (s, request) ∈ events) (cached : request.useCache)
    (applies : kind ∈ request.kinds)
    (apart : ∀ key r, s.LooksUnder request kind key →
      IsFresh s.settings (SparesEntries events s keys) request.script kind r → r.status ≠ .skipped →
      ¬ keys key) :
    Admits s.settings s.HasTold (SparesEntries events s keys) (SuitsSparing events s keys)
      request.script kind := by
  have admits : Admits s.settings s.HasTold (Suits events s) (SuitsKey events) request.script
      kind := admits_suits asked cached applies
  have spared {version key : String} {r : AnalysisResult}
      (has : HasVersion s.settings s.HasTold request.script kind version)
      (named : keyFor request.script (builtin s.settings kind) version = .ok key)
      (fresh : IsFresh s.settings (SparesEntries events s keys) request.script kind r)
      (made : r.status ≠ .skipped) : IsKey key ∧ ¬ keys key := by
    have key_eq := keyFor_eq_ok named
    rw [kind_builtin] at key_eq
    exact ⟨key_eq ▸ isKey_key _ _ _, apart key r ⟨version, has, key_eq⟩ fresh made⟩
  have suits {r : AnalysisResult}
      (fresh : IsFresh s.settings (SparesEntries events s keys) request.script kind r) :
      IsFresh s.settings (Suits events s) request.script kind r := by
    obtain ⟨m, spares, comes⟩ := fresh
    exact ⟨m, spares.toSuits, comes⟩
  refine ⟨fun content has named fresh made => ?_, ?_⟩
  · exact ⟨admits.right content has named (suits fresh) made,
      fun spares => absurd spares (spared has named fresh made).2⟩
  · intro version key r m folder disk content has named fresh made h given written
    obtain ⟨isKey, unspared⟩ := spared has named fresh made
    obtain ⟨text, -, wrote⟩ := compactJson_of_writeEntry written
    exact ⟨admits.written content has named (suits fresh) made h.toSuits given written,
      h.entries.written (h.files folder given).1 given isKey unspared wrote⟩

theorem exists_of_forall₂ {α β : Type} {R : α → β → Prop} {as : List α} {bs : List β}
    (each : List.Forall₂ R as bs) {a : α} (h : a ∈ as) : ∃ b ∈ bs, R a b := by
  induction each with
  | nil => cases h
  | cons first rest ih =>
      rcases List.mem_cons.mp h with rfl | later
      · exact ⟨_, List.mem_cons_self, first⟩
      · obtain ⟨b, hb, related⟩ := ih later
        exact ⟨b, List.mem_cons_of_mem _ hb, related⟩

/-- A result is made, or it may be taken from the cache if there is one and it is asked. -/
def Comes (settings : Settings) (told : String → String → Prop) (inv : Machine → Prop)
    (mem : List (String × AnalysisResult) → Prop) (right : String → AnalysisResult → Prop)
    (request : Request) (kind : AnalyzerKind) (r : AnalysisResult) : Prop :=
  if request.useCache ∧ settings.cacheResults then
    Answers settings told inv mem right request.script kind r
  else IsFresh settings inv request.script kind r

/-- Every result of a request is made or may be taken from the cache. -/
theorem comes_of_answer {told : String → String → Prop} {inv : Machine → Prop}
    {mem : List (String × AnalysisResult) → Prop} {right : String → AnalysisResult → Prop}
    (regime : Regime settings told inv mem right)
    (admits : request.useCache → ∀ kind ∈ request.kinds,
      Admits settings told inv right request.script kind)
    (h : s.Holds settings inv mem) {found : Report} (given : request.answer s = some found) :
    ∃ results, List.Forall₂ (Comes settings told inv mem right request) request.kinds results ∧
      found = Report.aggregate request.script results := by
  have each (kind : AnalyzerKind) (applies : kind ∈ request.kinds) (s : Session)
      (h : s.Holds settings inv mem) :
      (analyze kind request.script request.useCache s).Ensures (Holds settings inv mem)
        fun result s' => Result.Meets
          (fun r => s'.Holds settings inv mem ∧
            Comes settings told inv mem right request kind r)
          (fun _ => True) result := by
    by_cases used : request.useCache ∧ settings.cacheResults
    · have ends := ensures_analyze_answers regime used.2 (.inl (admits used.1 kind applies)) h
      rw [used.1]
      refine ends.mono fun result s' ended => ?_
      cases result with
      | ok r =>
          refine ⟨ended.1, ?_⟩
          rw [Comes, if_pos used]
          exact ended.2
      | error fault => trivial
    · have unused : request.useCache = false ∨ settings.cacheResults = false := by
        rw [← Bool.not_eq_true, ← Bool.not_eq_true]
        exact not_and_or.mp used
      refine (ensures_analyze_fresh regime h kind request.script unused).mono ?_
      rintro result s' ⟨h', m, hm, ended⟩
      cases result with
      | ok r =>
          refine ⟨h', ?_⟩
          rw [Comes, if_neg used]
          exact ⟨m, hm, ended.symm⟩
      | error fault => trivial
  exact exists_results_of_answer _ each h given

/-- An analysis whose tool is missing puts nothing into the cache, and no other analysis for the
request has one of its keys, as long as keys are apart. -/
theorem admits_of_missing (asked : (s, request) ∈ events) (cached : request.useCache)
    (apart : KeysApart events) (applies : kind ∈ request.kinds) {tool reason : String}
    (asks : toolOf? s.settings request.script kind = some tool)
    (missing : Work.executableOf s.settings tool s.machine.toolbox =
      .error (.toolUnavailable tool reason)) {kind' : AnalyzerKind}
    (applies' : kind' ∈ request.kinds) :
    Admits s.settings s.HasTold (SparesEntries events s (s.LooksUnder request kind))
      (SuitsSparing events s (s.LooksUnder request kind)) request.script kind' := by
  refine admits_sparesEntries asked cached applies' ?_
  rintro _ r ⟨version', has', rfl⟩ ⟨m, spares, comes⟩ made ⟨version, has, same⟩
  obtain ⟨-, rfl, -⟩ := apart.inj asked asked cached cached applies' applies has' has same
  rw [eq_skipped_of_missing asks (spares.toolbox ▸ missing) comes] at made
  exact made rfl

theorem WasMadeWith.kind_eq {fingerprint tool version : String} {r : AnalysisResult}
    (h : WasMadeWith events fingerprint kind tool version r) : r.kind = kind := by
  obtain ⟨-, -, -, -, -, -, -, comes, -⟩ := h
  exact (gives_of_outcome comes).kind

/-- What the cache offers to an analysis was made for an earlier request, with a tool that was there
and had told the version. -/
theorem FilledBy.wasMadeWith (filled : FilledBy events s) (cached : request.useCache)
    (apart : KeysApart (events ++ [(s, request)])) (applies : kind ∈ request.kinds) {tool : String}
    (asks : toolOf? s.settings request.script kind = some tool) {version : String}
    (told : s.HasTold tool version) {r : AnalysisResult}
    (offers : s.Offers (ResultCache.key request.script.fingerprint kind
      s!"{(builtin s.settings kind).ownVersion}+{tool}:{version}") r) :
    WasMadeWith events request.script.fingerprint kind tool version r := by
  have suits : SuitsKey events (ResultCache.key request.script.fingerprint kind
      s!"{(builtin s.settings kind).ownVersion}+{tool}:{version}") r := by
    rcases offers with ⟨cache, there, kept⟩ | kept
    · exact (filled.memory cache there).right kept
    · exact filled.suits_of_keptUnder kept
  have has : HasVersion s.settings s.HasTold request.script kind
      s!"{(builtin s.settings kind).ownVersion}+{tool}:{version}" := by
    rw [HasVersion, asks]
    exact ⟨version, told, rfl⟩
  generalize named : ResultCache.key request.script.fingerprint kind
    s!"{(builtin s.settings kind).ownVersion}+{tool}:{version}" = key at suits
  obtain ⟨asked', cached', applies', has', toolbox, comes, made⟩ := suits
  obtain ⟨fingerprints, rfl, rfl⟩ := apart.inj
    (List.mem_append_right _ (List.mem_singleton_self _)) (List.mem_append_left _ asked') cached
    cached' applies applies' has has' named
  obtain ⟨asks', told'⟩ := has'.tool_of_eq asks
  obtain ⟨executable, there⟩ := exists_executable_of_made asks' comes made
  exact .made asked' cached' applies' fingerprints.symm told' toolbox there comes made

/-- A new session on the same files goes on where the last one has ended. -/
theorem ReachedBy.restarted (h : ReachedBy events s) (under : s.settings = settings)
    (caching : settings.cacheResults) {m : Machine} (same : m.disk = s.machine.disk) :
    ReachedBy events ⟨settings, builtinAnalyzers settings, some ⟨cacheFolder settings, []⟩, m⟩ := by
  have filled := filledBy_of_reachedBy h
  rw [FilledBy, under] at filled
  have keeps : keptIn settings = cacheFolder settings := if_pos caching
  have started : start settings (builtinAnalyzers settings) m =
      .ok ⟨settings, builtinAnalyzers settings, some ⟨cacheFolder settings, []⟩, m⟩ := by
    rw [start, if_pos caching]
    cases given : cacheFolder settings with
    | none => rfl
    | some folder =>
        have leads := (filled.machine folder (keeps.trans given)).1
        rw [← same] at leads
        rw [ResultCache.start]
        simp only [ensureFolders_of_leadsToFolder leads]
        rfl
  refine .next h started ?_
  rintro key r ⟨cache, there, folder, hf, isKey, found⟩
  cases there
  obtain ⟨cache', there', hf'⟩ := filled.cache_of_keptIn (keeps.trans hf)
  rw [same] at found
  exact ⟨cache', there', folder, hf', isKey, found⟩

/-- A tool that is missing cannot be asked for a version. -/
theorem hasTold_unavailable {tool reason : String}
    (missing : Work.executableOf s.settings tool s.machine.toolbox =
      .error (.toolUnavailable tool reason)) : s.HasTold tool "unavailable" := by
  refine .inl ?_
  rw [Tells, Work.toldVersion, Work.askedVersion, missing]
  rfl

/-- What an analysis comes to whose tool is missing: it is skipped, and under one of its keys
nothing was offered, or what was offered is given. -/
theorem skipped_or_offers (filled : FilledBy events s) {more : List Event} {tool reason : String}
    (asks : toolOf? s.settings request.script kind = some tool)
    (missing : Work.executableOf s.settings tool s.machine.toolbox =
      .error (.toolUnavailable tool reason)) {r : AnalysisResult}
    (comes : Comes s.settings s.HasTold (SparesEntries more s (s.LooksUnder request kind))
      (Remembers (SuitsSparing more s (s.LooksUnder request kind)) s.Recalls)
      (SuitsSparing more s (s.LooksUnder request kind)) request kind r) :
    let key (version : String) : String := ResultCache.key request.script.fingerprint kind
      s!"{(builtin s.settings kind).ownVersion}+{tool}:{version}"
    (r = .skipped kind s!"{reason}: {tool}" ∧
      (request.useCache → ∃ version, s.HasTold tool version ∧
        ∀ r', ¬ s.Offers (key version) r')) ∨
    (r.status ≠ .skipped ∧ request.useCache ∧ ∃ version, s.HasTold tool version ∧
      s.Offers (key version) r) := by
  intro key
  have skipped (fresh : IsFresh s.settings (SparesEntries more s (s.LooksUnder request kind))
      request.script kind r) : r = .skipped kind s!"{reason}: {tool}" := by
    obtain ⟨m, spares, comes⟩ := fresh
    exact eq_skipped_of_missing asks (spares.toolbox ▸ missing) comes
  rw [Comes] at comes
  by_cases used : request.useCache ∧ s.settings.cacheResults
  · rw [if_pos used] at comes
    obtain ⟨version', _, has, named, source⟩ := comes.source
    obtain rfl := keyFor_eq_ok named
    rw [kind_builtin] at source
    have looks : s.LooksUnder request kind
        (ResultCache.key request.script.fingerprint kind version') := ⟨version', has, rfl⟩
    rw [HasVersion, asks] at has
    obtain ⟨version, told, rfl⟩ := has
    rcases source with ⟨suits, offers⟩ | ⟨fresh, -, ⟨entries, remembers, missed⟩, unfound⟩
    · exact .inr ⟨suits.not_skipped, used.1, version, told, offers looks⟩
    · refine .inl ⟨skipped fresh, fun _ => ⟨version, told, ?_⟩⟩
      rintro r' (⟨cache, there, kept⟩ | ⟨cache, there, folder, hf, isKey, found⟩)
      · refine remembers.stays ⟨cache, there, ?_⟩ missed
        rw [kept]
        exact Option.some_ne_none r'
      · have given : folder ∈ keptIn s.settings := by
          rw [← filled.folder cache there]
          exact hf
        obtain ⟨m, spares, nothing⟩ := unfound folder given
        have still := (spares.entries folder given _ looks isKey r').mpr found
        cases nothing.symm.trans still
  · rw [if_neg used] at comes
    refine .inl ⟨skipped comes, fun cached => ⟨"unavailable", hasTold_unavailable missing, ?_⟩⟩
    have noCache : s.cache = none := by
      rw [← Option.isNone_iff_eq_none, ← Option.isSome_eq_false_iff, filled.caching,
        ← Bool.not_eq_true]
      exact fun caching => used ⟨cached, caching⟩
    rintro r' (⟨cache, there, -⟩ | ⟨cache, there, -⟩)
    all_goals
      rw [noCache] at there
      cases there

/-- In a session whose cache was filled by earlier requests, the result of an analysis whose tool is
missing is skipped, unless the cache offers one under a version that the tool is known by. Then that
one is given, and it was made for an earlier request with a tool that was there. As long as no
version was noted, which is so in a new session, that is the version of a tool that cannot be asked
for one: the result is skipped exactly if nothing is offered under that. -/
theorem skipped_iff_of_missing {events : List Event} {s : Session} (h : ReachedBy events s)
    {request : Request} (apart : request.useCache → KeysApart (events ++ [(s, request)]))
    {kind : AnalyzerKind} (applies : kind ∈ request.kinds) {tool reason : String}
    (asks : toolOf? s.settings request.script kind = some tool)
    (missing : Work.executableOf s.settings tool s.machine.toolbox =
      .error (.toolUnavailable tool reason))
    {found : Report} (given : request.answer s = some found) :
    let key (version : String) : String := ResultCache.key request.script.fingerprint kind
      s!"{(builtin s.settings kind).ownVersion}+{tool}:{version}"
    ∃ r ∈ found.results, r.kind = kind ∧
      (r.status = .skipped → r = .skipped kind s!"{reason}: {tool}" ∧
        (request.useCache → ∃ version, s.HasTold tool version ∧
          ∀ r', ¬ s.Offers (key version) r')) ∧
      (r.status ≠ .skipped → request.useCache ∧ ∃ version, s.HasTold tool version ∧
        s.Offers (key version) r ∧
        WasMadeWith events request.script.fingerprint kind tool version r) ∧
      ((∀ kind' version, s.machine.versions.lookup (kind', tool) = some version →
          version = "unavailable") →
        (r.status = .skipped ↔
          ¬ (request.useCache ∧ ∃ r', s.Offers (key "unavailable") r'))) := by
  intro key
  have asked : (s, request) ∈ events ++ [(s, request)] :=
    List.mem_append_right _ (List.mem_singleton_self _)
  have filled := filledBy_of_reachedBy h
  have holds := filled.holds_sparesEntries (List.subset_append_left events [(s, request)])
    (s.LooksUnder request kind)
  obtain ⟨results, each, rfl⟩ := comes_of_answer (regime_sparesEntries filled _ _)
    (fun cached kind' applies' =>
      admits_of_missing asked cached (apart cached) applies asks missing applies') holds given
  obtain ⟨r, listed, comes⟩ := exists_of_forall₂ each applies
  have source := skipped_or_offers filled asks missing comes
  refine ⟨r, ?_, ?_, ?_, ?_, ?_⟩
  · exact (List.mergeSort_perm results _).mem_iff.mpr listed
  · rcases source with ⟨rfl, -⟩ | ⟨-, cached, version, told, offers⟩
    · rfl
    · exact (filled.wasMadeWith cached (apart cached) applies asks told offers).kind_eq
  · intro skipped
    rcases source with ⟨same, nothing⟩ | ⟨made, -⟩
    · exact ⟨same, nothing⟩
    · exact absurd skipped made
  · intro made
    rcases source with ⟨rfl, -⟩ | ⟨-, cached, version, told, offers⟩
    · exact absurd rfl made
    · exact ⟨cached, version, told, offers,
        filled.wasMadeWith cached (apart cached) applies asks told offers⟩
  · intro new
    have only {version : String} (told : s.HasTold tool version) : version = "unavailable" := by
      rcases told with tells | ⟨kind', noted⟩
      · rw [Tells, Work.toldVersion, Work.askedVersion, missing] at tells
        exact (Except.ok.inj tells).symm
      · exact new kind' version noted
    rcases source with ⟨rfl, nothing⟩ | ⟨made, cached, version, told, offers⟩
    · refine iff_of_true rfl ?_
      rintro ⟨cached, r', offers⟩
      obtain ⟨version, told, none⟩ := nothing cached
      rw [only told] at none
      exact none r' offers
    · refine iff_of_false made fun unoffered => unoffered ⟨cached, r, ?_⟩
      rw [← only told]
      exact offers

end

/-- A new session at the root that keeps results in files. -/
def keepingAtRoot (toolbox : Toolbox) (disk : Disk) (mark : String) : Session :=
  let settings : Settings := { Settings.atRoot with persistCache := true }
  ⟨settings, builtinAnalyzers settings, some ⟨some ⟨1, ["cache"]⟩, []⟩,
    { toolbox, disk, temporaryMark := mark }⟩

/-- A first session at the root, and a second one on its files after a request. -/
theorem reachedBy_keepingAtRoot (toolbox toolbox' : Toolbox) (request : Request) :
    let s := keepingAtRoot toolbox ⟨[], [(["cache"], .folder)]⟩ "0"
    ReachedBy [(s, request)]
      (keepingAtRoot toolbox' (request.after s).machine.disk "1") := by
  intro s
  have empty : s.StartsEmpty s.settings := startsEmpty_atRoot toolbox
  have first : ReachedBy [] s := by
    obtain ⟨m, started, -⟩ := empty.started
    refine .first started fun key r ⟨cache, there, folder, hf, isKey, found⟩ => ?_
    cases there
    cases (empty.empty folder hf key isKey).symm.trans found
  have under := ((filledBy_of_reachedBy first).holds_after request).under
  exact (first.answered request).restarted under rfl rfl

/-- A tool that had told its version and is gone. -/
theorem skipped_of_gone :
    let s := keepingAtRoot ⟨fun name => some ("/bin/" ++ name), fun _ => .finished [] [] 0⟩
      ⟨[], [(["cache"], .folder)]⟩ "0"
    let request : Request := ⟨⟨"s", .python3, none, "pass\n", [], true⟩, .default .python3, true⟩
    let s' := keepingAtRoot .empty (request.after s).machine.disk "1"
    ReachedBy [(s, request)] s' ∧ KeysApart ([(s, request)] ++ [(s', request)]) ∧
      ∃ found, request.answer s' = some found ∧
        .skipped .parses "tool not found: python3" ∈ found.results := by
  intro s request s'
  have reached : ReachedBy [(s, request)] s' := reachedBy_keepingAtRoot _ _ request
  have kinds : request.kinds = [.parses] := by decide
  have known {version : String} (told : s.HasTold "python3" version) : version = "unknown" := by
    rcases told with tells | ⟨kind, noted⟩
    · cases tells
      rfl
    · cases noted
  have open' {version : String} (told : s'.HasTold "python3" version) :
      version = "unavailable" := by
    rcases told with tells | ⟨kind, noted⟩
    · cases tells
      rfl
    · cases noted
  have version_eq {told : String → String → Prop} {settings : Settings} {version : String}
      (has : HasVersion settings told request.script .parses version) :
      ∃ v, told "python3" v ∧ version = "syntax/1+python3:" ++ v := by
    obtain ⟨v, told, rfl⟩ := has
    exact ⟨v, told, rfl⟩
  have digests {input : List UInt8}
      (h : DigestsFor ([(s, request)] ++ [(s', request)]) input) :
      input = keyInput request.script.fingerprint .parses "syntax/1+python3:unknown" ∨
        input = keyInput request.script.fingerprint .parses "syntax/1+python3:unavailable" := by
    cases h with
    | @key s₀ request₀ kind version asked cached applies has =>
        rcases List.mem_append.mp asked with now | later
        · obtain ⟨rfl, rfl⟩ := Prod.mk.inj (List.mem_singleton.mp now)
          obtain rfl := List.mem_singleton.mp (kinds ▸ applies)
          obtain ⟨v, told, rfl⟩ := version_eq has
          exact .inl (by rw [known told]; rfl)
        · obtain ⟨rfl, rfl⟩ := Prod.mk.inj (List.mem_singleton.mp later)
          obtain rfl := List.mem_singleton.mp (kinds ▸ applies)
          obtain ⟨v, told, rfl⟩ := version_eq has
          exact .inr (by rw [open' told]; rfl)
  have differ : Sha256.hexDigest
        (keyInput request.script.fingerprint .parses "syntax/1+python3:unknown") ≠
      Sha256.hexDigest
        (keyInput request.script.fingerprint .parses "syntax/1+python3:unavailable") := by
    decide +kernel
  have apart : KeysApart ([(s, request)] ++ [(s', request)]) :=
    fun _ _ => Sha256.eq_of_pair (fun _ => digests) differ
  refine ⟨reached, apart, ?_⟩
  have answered : (request.answer s').isSome := by decide +kernel
  obtain ⟨found, given⟩ := Option.isSome_iff_exists.mp answered
  have applies : AnalyzerKind.parses ∈ request.kinds := by
    rw [kinds]
    exact List.mem_singleton_self _
  obtain ⟨r, listed, -, skipped, made, -⟩ :=
    skipped_iff_of_missing reached (fun _ => apart) applies rfl rfl given
  refine ⟨found, given, ?_⟩
  by_cases status : r.status = .skipped
  · rw [(skipped status).1] at listed
    exact listed
  · -- A result that was found would have been made with a tool that told no version.
    obtain ⟨-, version, told', -, asked, -, -, -, told, -⟩ := made status
    obtain ⟨rfl, -⟩ := Prod.mk.inj (List.mem_singleton.mp asked)
    rw [open' told'] at told
    exact absurd (known told) (by decide)

/-- A tool that is there but takes too long to tell its version leaves a result. The next session
gives it, though the tool is missing. -/
theorem passes_though_missing :
    let s := keepingAtRoot ⟨fun name => some ("/bin/" ++ name), fun command =>
        if command.purpose = .version then .overran else .finished [] [] 0⟩
      ⟨[], [(["cache"], .folder)]⟩ "0"
    let request : Request := ⟨⟨"s", .python3, none, "pass\n", [], true⟩, .default .python3, true⟩
    let s' := keepingAtRoot .empty (request.after s).machine.disk "1"
    ReachedBy [(s, request)] s' ∧ s'.machine.versions = [] ∧
      Work.executableOf s'.settings "python3" s'.machine.toolbox =
        .error (.toolUnavailable "python3" "tool not found") ∧
      (request.answer s').map (fun found => found.results.map fun r => (r.kind, r.status)) =
        some [(.parses, .pass)] := by
  intro s request s'
  have reached : ReachedBy [(s, request)] s' := reachedBy_keepingAtRoot _ _ request
  exact ⟨reached, rfl, rfl, by decide +kernel⟩

end Session

end ScriptVet
