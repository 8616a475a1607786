import ScriptVet.Proofs.Session.Requests

/-!
# Where the cache is transparent

A request that may be answered from the cache gets the report that it would get without the cache,
or a fault instead of it. There is a fault exactly if the words that an analyzer looks for are not
whole, so that its result has no key, or if a result that is not in memory yet cannot be given out
for its file.
-/

namespace ScriptVet

/-- A tool that is not started because of its name is not started whatever it is asked. -/
def Toolbox.RefusesNames (toolbox : Toolbox) : Prop :=
  ∀ executable cause, toolbox.respond ⟨executable, ["--version"], .version⟩ = .notStarted cause →
    cause.isFromSystem = false → ∀ arguments purpose, ∃ cause',
      toolbox.respond ⟨executable, arguments, purpose⟩ = .notStarted cause'

namespace Session

open Analyzer ResultCache Disk

/-- The same request, to be answered without the cache. -/
def Request.uncached (request : Request) : Request :=
  { request with useCache := false }

/-- The result of the analysis is in memory. -/
def IsInMemory (settings : Settings) (s : Session) (script : Script) (kind : AnalyzerKind) : Prop :=
  ∃ cache ∈ s.cache, ∃ key, HasKey settings s.machine.toolbox script kind key ∧
    cache.entries.lookup key ≠ none

/-- A result is in memory under the key. -/
def Recalls (s : Session) (key : String) : Prop :=
  ∃ cache ∈ s.cache, cache.entries.lookup key ≠ none

/-- The result of the analysis can be given out for a file, unless it is not kept anyway. -/
def IsWritable (settings : Settings) (m : Machine) (script : Script) (kind : AnalyzerKind) : Prop :=
  ∀ r, resultOn settings m script kind = some r → r.status ≠ .skipped →
    ∃ text, r.compactJson = .ok text

theorem isWritable_of_isOk {settings : Settings} {m : Machine} {script : Script}
    {kind : AnalyzerKind}
    (written : (resultOn settings m script kind).map (·.compactJson.isOk) = some true) :
    IsWritable settings m script kind := by
  intro r comes _
  rw [comes] at written
  cases rendered : r.compactJson with
  | ok text => exact ⟨text, rfl⟩
  | error fault =>
      rw [Option.map_some, rendered] at written
      cases written

/-- The result of the analysis has a key, and it is in memory already or can be kept everywhere. -/
structure CanKeep (settings : Settings) (s : Session) (script : Script) (kind : AnalyzerKind) :
    Prop where
  whole : WordsWhole settings kind
  tells : ∀ tool ∈ toolOf? settings script kind, ∃ version,
    Tells settings s.machine.toolbox tool version
  files : ∀ folder ∈ keptIn settings,
    IsInMemory settings s script kind ∨ IsWritable settings s.machine script kind

/-- A tool of an analysis that gives a result tells its version, if it is refused by name only. -/
theorem exists_tells_of_resultOn {settings : Settings} {m : Machine}
    (refuses : m.toolbox.RefusesNames) {script : Script} {kind : AnalyzerKind} {r : AnalysisResult}
    (comes : resultOn settings m script kind = some r) :
    ∀ tool ∈ toolOf? settings script kind, ∃ version, Tells settings m.toolbox tool version := by
  intro tool asks
  cases told : Work.toldVersion settings m.toolbox tool with
  | ok version => exact ⟨version, told⟩
  | error fault =>
      obtain ⟨executable, cause, found, said, byName⟩ := Work.refused_of_toldVersion told
      have nothing : resultOn settings m script kind = none := by
        rw [toolOf?] at asks
        cases basis : (builtin settings kind).basis with
        | nothing =>
            rw [basis] at asks
            cases asks
        | vocabulary words =>
            rw [basis] at asks
            cases asks
        | tool toolFor =>
            rw [basis] at asks
            exact toOption_outcome_of_refused basis asks found (refuses _ _ said byName)
      rw [nothing] at comes
      cases comes

/-- What the analyses for a report come to without the cache. -/
def ReportsOn (settings : Settings) (m : Machine) (script : Script) (kinds : List AnalyzerKind)
    (found : Report) : Prop :=
  ∃ results, List.Forall₂ (fun kind r => resultOn settings m script kind = some r) kinds results ∧
    report script results = .ok found

theorem ReportsOn.content {settings : Settings} {m : Machine} {script : Script}
    {kinds : List AnalyzerKind} {found : Report} (h : ReportsOn settings m script kinds found) :
    script.checkContent = .ok () := by
  obtain ⟨results, -, reported⟩ := h
  cases content : script.checkContent with
  | ok _ => rfl
  | error e =>
      rw [report, content] at reported
      cases reported

theorem ReportsOn.each {settings : Settings} {m : Machine} {script : Script}
    {kinds : List AnalyzerKind} {found : Report} (h : ReportsOn settings m script kinds found) :
    ∀ kind ∈ kinds, ∃ r, resultOn settings m script kind = some r := by
  obtain ⟨results, given, -⟩ := h
  exact ((List.forall₂_and_left _ _).mp (given.imp fun kind r comes => ⟨⟨r, comes⟩, comes⟩)).1

theorem ReportsOn.unique {settings : Settings} {m : Machine} {script : Script}
    {kinds : List AnalyzerKind} {found found' : Report}
    (h : ReportsOn settings m script kinds found) (h' : ReportsOn settings m script kinds found') :
    found = found' := by
  obtain ⟨results, given, reported⟩ := h
  obtain ⟨results', given', reported'⟩ := h'
  have one : Relator.RightUnique fun kind r => resultOn settings m script kind = some r :=
    fun kind r r' hr hr' => Option.some.inj (hr.symm.trans hr')
  rw [one.forall₂ given given', reported'] at reported
  exact (Except.ok.inj reported).symm

/-- A request that may be answered from the cache of a session that starts with an empty one, among
others. -/
structure MayUseCache (settings : Settings) (s : Session) (requests : List Request)
    (request : Request) : Prop where
  empty : s.StartsEmpty settings
  noCollision : NoCollision settings s.machine.toolbox requests
  free : ∀ other ∈ requests, other.script.IsFreeOfZeros
  asked : request ∈ requests
  cached : request.useCache

section

variable {settings : Settings} {first : Machine} {holds : Disk → Prop}
  {mem : List (String × AnalysisResult) → Prop} {right : String → AnalysisResult → Prop}
  {now : Session}

theorem ensures_analyze_uncached (ready : IsReady settings first.disk)
    (regime : Regime settings (Tells settings first.toolbox) (Continues settings first holds) mem
      right)
    (h : now.Holds settings (Continues settings first holds) mem) (script : Script)
    (kind : AnalyzerKind) :
    (analyze kind script false now).Ensures (Holds settings (Continues settings first holds) mem)
      fun result s' => Result.Meets
        (fun r => s'.Holds settings (Continues settings first holds) mem ∧
          resultOn settings first script kind = some r)
        (fun _ => resultOn settings first script kind = none) result := by
  refine (ensures_analyze_fresh regime h kind script (.inl rfl)).mono ?_
  rintro result s' ⟨h', m, continues, given⟩
  have same := continues.resultOn_eq ready script kind
  rw [resultOn, ← given] at same
  cases result with
  | ok r => exact ⟨h', same.symm⟩
  | error fault => exact same.symm

/-- Without the cache a report is what the analyses come to. -/
theorem answer_uncached (ready : IsReady settings first.disk)
    (regime : Regime settings (Tells settings first.toolbox) (Continues settings first holds) mem
      right)
    (h : now.Holds settings (Continues settings first holds) mem) (request : Request) :
    match request.uncached.answer now with
    | some found => ReportsOn settings first request.script request.kinds found
    | none => (∃ kind ∈ request.kinds, resultOn settings first request.script kind = none) ∨
        ∃ e, request.script.checkContent = .error e := by
  have inOrder := Activity.ensures_run (ensures_runInOrder _ _
    (fun kind (_ : kind ∈ request.kinds) _ h' =>
      ensures_analyze_uncached ready regime h' request.script kind) h)
  rw [Request.answer, run_run_fst]
  simp only [Request.uncached]
  cases ran : ((runInOrder request.script request.selection false).run now).1 with
  | ok found =>
      rw [ran] at inOrder
      exact inOrder.2
  | error fault =>
      rw [ran] at inOrder
      exact inOrder

/-- On all these machines analyses come to the same, and entries of the cache can be written. -/
structure Steady (settings : Settings) (first : Machine) (inv : Machine → Prop) : Prop where
  toolbox : ∀ {m}, inv m → m.toolbox = first.toolbox
  results : ∀ {m}, inv m → ∀ script kind,
    resultOn settings m script kind = resultOn settings first script kind
  accepts : ∀ {m}, inv m → ∀ folder ∈ keptIn settings, Accepts m.disk folder

theorem steady_continues (ready : IsReady settings first.disk) :
    Steady settings first (Continues settings first holds) where
  toolbox := Continues.toolbox
  results continues := continues.resultOn_eq ready
  accepts continues folder given := (continues.grows.isReady ready folder given).1

/-- What an analysis gives that may be answered from the cache is what it comes to, if nothing else
is right under its key. -/
theorem Answers.resultOn {inv : Machine → Prop} (steady : Steady settings first inv)
    {script : Script} {kind : AnalyzerKind} {r : AnalysisResult}
    (only : ∀ {key a}, HasKey settings first.toolbox script kind key → right key a →
      Session.resultOn settings first script kind = some a)
    (answers : Answers settings (Tells settings first.toolbox) inv mem right script kind r) :
    Session.resultOn settings first script kind = some r := by
  obtain ⟨version, key, has, named, isRight | ⟨⟨m, hm, given⟩, -⟩⟩ := answers.source
  · exact only ⟨answers.content, version, has, named⟩ isRight
  · rw [← steady.results hm, Session.resultOn, given]
    rfl

/-- Where nothing keeps an analysis from a result, its result can be kept, and what is in its file
can be read, nothing stands in the way of the cache. -/
theorem no_obstacle {inv : Machine → Prop} (steady : Steady settings first inv)
    (machine : inv now.machine) {script : Script} (content : script.checkContent = .ok ())
    {kind : AnalyzerKind} {r : AnalysisResult}
    (comes : resultOn settings first script kind = some r)
    (keep : CanKeep settings now script kind)
    (reads : ∀ {m}, inv m → ∀ folder ∈ keptIn settings, ∀ {key},
      HasKey settings first.toolbox script kind key → ¬ now.Recalls key →
      ∃ found, readEntry m.disk (fileFor folder key) = .ok found)
    {fault : Fault} (obstacle : Obstacle settings (Tells settings first.toolbox) inv
      (Remembers right now.Recalls) script kind fault) : False := by
  obtain ⟨whole, tells, files⟩ := keep
  rw [steady.toolbox machine] at tells
  cases obstacle with
  | content unwritable =>
      rw [content] at unwritable
      cases unwritable
  | version asks hm failed =>
      obtain ⟨version, told⟩ := tells _ asks
      rw [steady.toolbox hm, told] at failed
      cases failed
  | key has failed =>
      have named := (keyFor_isOk_iff has).mpr whole
      rw [failed] at named
      cases named
  | file given hm has named memory missed failed =>
      have unkept : ¬ now.Recalls _ := fun kept => memory.stays kept missed
      obtain ⟨found, read⟩ := reads hm _ given ⟨content, _, has, named⟩ unkept
      rw [failed] at read
      cases read
  | analysis hm failed =>
      have same := steady.results hm script kind
      rw [comes, resultOn, failed] at same
      cases same
  | @storing folder m version key entries r' _ given hm has named memory missed fresh made failed =>
      have hasKey : HasKey settings first.toolbox script kind key := ⟨content, version, has, named⟩
      rcases files folder given with ⟨cache, hc, key', has', kept⟩ | writable
      · rw [steady.toolbox machine] at has'
        rw [has'.unique hasKey] at kept
        exact memory.stays ⟨cache, hc, kept⟩ missed
      · obtain ⟨m', hm', given'⟩ := fresh
        have comes' : resultOn settings now.machine script kind = some r' := by
          rw [steady.results machine, ← steady.results hm', resultOn, given']
          rfl
        obtain ⟨text, rendered⟩ := writable r' comes' made
        obtain ⟨disk, written⟩ :=
          writeEntry_of_accepts (steady.accepts hm folder given) hasKey.isKey rendered
        rw [written] at failed
        cases failed

/-- A request whose results can be kept is answered from the cache if its analyses come to a report
and what is in their files can be read. -/
theorem answer_ne_none (ready : IsReady settings first.disk)
    (regime : Regime settings (Tells settings first.toolbox) (Continues settings first holds)
      (Remembers right now.Recalls) right)
    (caching : settings.cacheResults) {request : Request} (cached : request.useCache)
    (admits : ∀ kind ∈ request.kinds, Admits settings (Tells settings first.toolbox)
      (Continues settings first holds) right request.script kind)
    (h : now.Holds settings (Continues settings first holds) (Remembers right now.Recalls))
    {found : Report} (reports : ReportsOn settings first request.script request.kinds found)
    (keep : ∀ kind ∈ request.kinds, CanKeep settings now request.script kind)
    (reads : ∀ kind ∈ request.kinds, ∀ {disk}, holds disk → ∀ folder ∈ keptIn settings, ∀ {key},
      HasKey settings first.toolbox request.script kind key → ¬ now.Recalls key →
      ∃ found, readEntry disk (fileFor folder key) = .ok found) :
    request.answer now ≠ none := by
  intro nothing
  have ends := answer_of_regime regime caching cached
    (fun kind applies => .inl (admits kind applies)) h
  rw [nothing] at ends
  rcases ends with ⟨kind, applies, fault, obstacle⟩ | ⟨e, unwritable⟩
  · obtain ⟨r, comes⟩ := reports.each kind applies
    exact no_obstacle (steady_continues ready) h.machine reports.content comes
      (keep kind applies) (fun continues => reads kind applies continues.files) obstacle
  · rw [reports.content] at unwritable
    cases unwritable

end

section

variable {settings : Settings} {s now : Session} {right : String → AnalysisResult → Prop}
  {stays : String → Prop} {requests : List Request} {request : Request}

theorem StartsEmpty.answer_uncached (h : s.StartsEmpty settings)
    (holds : now.Holds settings (Follows settings s.machine right) (Remembers right stays))
    (request : Request) :
    match request.uncached.answer now with
    | some found => ReportsOn settings s.machine request.script request.kinds found
    | none => (∃ kind ∈ request.kinds, resultOn settings s.machine request.script kind = none) ∨
        ∃ e, request.script.checkContent = .error e :=
  Session.answer_uncached h.ready (h.regime right stays) holds request

/-- What an analysis for a request gives that may be answered from the cache. -/
theorem MayUseCache.resultOn_of_answers (h : MayUseCache settings s requests request)
    {kind : AnalyzerKind} (applies : kind ∈ request.kinds) {may : String → Prop}
    {mem : List (String × AnalysisResult) → Prop} {r : AnalysisResult}
    (answers : Answers settings (Tells settings s.machine.toolbox)
      (FollowsFor settings s.machine requests may) mem (RightFor settings s.machine requests may)
      request.script kind r) :
    resultOn settings s.machine request.script kind = some r :=
  answers.resultOn (steady_continues h.empty.ready) fun has isRight =>
    isRight.1.resultOn_eq h.noCollision h.free h.asked h.cached applies has

/-- An analysis that was answered has a key. -/
theorem Answers.hasKey {toolbox : Toolbox} {inv : Machine → Prop}
    {mem : List (String × AnalysisResult) → Prop} {script : Script} {kind : AnalyzerKind}
    {r : AnalysisResult}
    (answers : Answers settings (Tells settings toolbox) inv mem right script kind r) :
    WordsWhole settings kind ∧ ∃ key, HasKey settings toolbox script kind key := by
  obtain ⟨version, key, has, named, -⟩ := answers.source
  have whole := (keyFor_isOk_iff has).mp (by rw [named]; rfl)
  exact ⟨whole, key, answers.content, version, has, named⟩

theorem MayUseCache.admits (h : MayUseCache settings s requests request) {kind : AnalyzerKind}
    (applies : kind ∈ request.kinds) :
    Admits settings (Tells settings s.machine.toolbox)
      (FollowsFor settings s.machine requests fun _ => True)
      (RightFor settings s.machine requests fun _ => True) request.script kind :=
  h.empty.admits h.asked h.cached applies fun _ _ => trivial

/-- With the cache a report is what the analyses come to, and each of them has a key. -/
theorem MayUseCache.answer_cached (h : MayUseCache settings s requests request)
    (holds : HoldsFor settings s.machine requests (fun _ => True) stays now) {found : Report}
    (given : request.answer now = some found) :
    ReportsOn settings s.machine request.script request.kinds found ∧
      ∀ kind ∈ request.kinds, WordsWhole settings kind ∧
        ∃ key, HasKey settings s.machine.toolbox request.script kind key := by
  have regime := h.empty.regime (RightFor settings s.machine requests fun _ => True) stays
  have ends := answer_of_regime regime h.empty.caching h.cached
    (fun kind applies => .inl (h.admits applies)) holds
  rw [given] at ends
  obtain ⟨results, answers, reported⟩ := ends
  have among := (List.forall₂_and_left _ _).mpr
    ⟨fun kind (applies : kind ∈ request.kinds) => applies, answers⟩
  have each := (List.forall₂_and_left _ _).mp <| among.imp fun kind r ⟨applies, answers⟩ =>
    And.intro answers.hasKey (h.resultOn_of_answers applies answers)
  exact ⟨⟨results, each.2, reported⟩, each.1⟩

/-- More may be kept, and what stays in memory may be what is there. -/
theorem Holds.relax {first : Machine} {right' : String → AnalysisResult → Prop}
    {stays' : String → Prop}
    (h : now.Holds settings (Follows settings first right) (Remembers right stays))
    (more : ∀ {key r}, right key r → right' key r)
    (stay : ∀ {key}, stays' key → stays key ∨ now.Recalls key) :
    now.Holds settings (Follows settings first right') (Remembers right' stays') where
  under := h.under
  analyzers := h.analyzers
  machine := Follows.mono h.machine more
  caching := h.caching
  folder := h.folder
  memory cache hc := by
    refine ⟨fun kept => more ((h.memory cache hc).right kept), fun kept => ?_⟩
    rcases stay kept with kept | ⟨cache', hc', kept⟩
    · exact (h.memory cache hc).stays kept
    · rw [Option.some.inj (hc.symm.trans hc')]
      exact kept

/-- A session that answers requests, with all keys in memory that are there now. -/
theorem HoldsFor.staying {m : Machine} {requests : List Request} {may : String → Prop}
    (holds : HoldsFor settings m requests may (fun _ => False) now) :
    HoldsFor settings m requests may now.Recalls now :=
  Holds.relax holds id .inr

/-- A request whose results can be kept is answered from the cache if it is answered without. -/
theorem MayUseCache.answer_ne_none (h : MayUseCache settings s requests request)
    (holds : HoldsFor settings s.machine requests (fun _ => True) (fun _ => False) now)
    {found : Report}
    (reports : ReportsOn settings s.machine request.script request.kinds found)
    (keep : ∀ kind ∈ request.kinds, CanKeep settings now request.script kind) :
    request.answer now ≠ none := by
  have regime := h.empty.regime (RightFor settings s.machine requests fun _ => True) now.Recalls
  refine Session.answer_ne_none h.empty.ready regime h.empty.caching h.cached
    (fun _ applies => h.admits applies) (HoldsFor.staying holds) reports keep ?_
  intro kind applies disk files folder given key has _
  obtain ⟨found, read, -⟩ := files folder given has.isKey
  exact ⟨found, read⟩

/-- A result that cannot be given out is in no file. If it is not in memory either then nothing is
kept under its key. -/
theorem MayUseCache.holds_avoiding (h : MayUseCache settings s requests request)
    (holds : HoldsFor settings s.machine requests (fun _ => True) (fun _ => False) now)
    {kind : AnalyzerKind} (applies : kind ∈ request.kinds) {key : String}
    (has : HasKey settings s.machine.toolbox request.script kind key)
    (missing : ¬ IsInMemory settings now request.script kind) {r : AnalysisResult}
    (comes : resultOn settings s.machine request.script kind = some r)
    (unwritable : ¬ ∃ text, r.compactJson = .ok text) :
    HoldsFor settings s.machine requests (· ≠ key) (fun _ => False) now := by
  refine ⟨holds.under, holds.analyzers, ?_, holds.caching, holds.folder, fun cache hc => ?_⟩
  · obtain ⟨toolbox, mark, versions, grows, files⟩ := holds.machine
    refine ⟨toolbox, mark, versions, grows, fun folder given other isKey => ?_⟩
    obtain ⟨found, read, isRight⟩ := files folder given isKey
    refine ⟨found, read, fun r' hr => ⟨⟨(isRight r' hr).1.1, ?_⟩, (isRight r' hr).2⟩⟩
    rintro rfl
    have same := (isRight r' hr).1.1.resultOn_eq h.noCollision h.free h.asked h.cached applies has
    rw [comes] at same
    cases same
    exact unwritable (isRight r hr).2
  · refine ⟨fun {other r'} kept => ⟨((holds.memory cache hc).right kept).1, ?_⟩, False.elim⟩
    rintro rfl
    refine missing ⟨cache, hc, other, ?_, ?_⟩
    · rw [holds.machine.toolbox]
      exact has
    · rw [kept]
      exact Option.some_ne_none r'

/-- An analysis whose result has to be written and cannot be ends in a fault, and so does the
request. -/
theorem MayUseCache.answer_eq_none (h : MayUseCache settings s requests request)
    {kind : AnalyzerKind} (applies : kind ∈ request.kinds) {key : String}
    (has : HasKey settings s.machine.toolbox request.script kind key)
    (holds : HoldsFor settings s.machine requests (· ≠ key) (fun _ => False) now) {folder : Path}
    (given : folder ∈ keptIn settings) {r : AnalysisResult}
    (comes : resultOn settings s.machine request.script kind = some r)
    (made : r.status ≠ .skipped) (unwritable : ¬ ∃ text, r.compactJson = .ok text) :
    request.answer now = none := by
  have regime := h.empty.regime (RightFor settings s.machine requests (· ≠ key)) fun _ => False
  -- The other analyses keep nothing under the key, so this one finds nothing when its turn comes.
  have never (r' : AnalysisResult) : ¬ Answers settings (Tells settings s.machine.toolbox)
      (FollowsFor settings s.machine requests (· ≠ key))
      (RemembersFor settings s.machine requests (· ≠ key) fun _ => False)
      (RightFor settings s.machine requests (· ≠ key)) request.script kind r' := by
    intro answers
    have same := h.resultOn_of_answers applies answers
    rw [comes] at same
    cases same
    obtain ⟨version, other, has', named, isRight | ⟨-, written, -⟩⟩ := answers.source
    · exact absurd (HasKey.unique ⟨answers.content, version, has', named⟩ has) isRight.2
    · exact absurd (written made folder given) unwritable
  refine answer_eq_none_of_never regime h.empty.caching h.cached (fun kind' applies' => ?_) holds
    applies never
  by_cases same : kind' = kind
  · rw [same]
    exact .inr never
  · refine .inl (h.empty.admits h.asked h.cached applies' fun other has' => ?_)
    rintro rfl
    exact same (HasKey.inj h.noCollision h.asked h.asked h.cached h.cached applies' applies has'
      has).2

/-- What is answered from the cache is answered alike without it. -/
theorem MayUseCache.answer_uncached_of_answer (h : MayUseCache settings s requests request)
    (holds : HoldsFor settings s.machine requests (fun _ => True) (fun _ => False) now)
    {found : Report} (given : request.answer now = some found) :
    request.uncached.answer now = some found := by
  have ends := h.answer_cached holds given
  have without := h.empty.answer_uncached holds request
  cases other : request.uncached.answer now with
  | some found' =>
      rw [other] at without
      rw [without.unique ends.1]
  | none =>
      rw [other] at without
      rcases without with ⟨kind, applies, nothing⟩ | ⟨e, unwritable⟩
      · obtain ⟨r, comes⟩ := ends.1.each kind applies
        rw [nothing] at comes
        cases comes
      · rw [ends.1.content] at unwritable
        cases unwritable

/-- What is answered from the cache can be kept. -/
theorem MayUseCache.canKeep_of_answer (h : MayUseCache settings s requests request)
    (holds : HoldsFor settings s.machine requests (fun _ => True) (fun _ => False) now)
    {found : Report} (given : request.answer now = some found) :
    ∀ kind ∈ request.kinds, CanKeep settings now request.script kind := by
  intro kind applies
  have ends := h.answer_cached holds given
  obtain ⟨whole, key, has⟩ := ends.2 kind applies
  refine ⟨whole, ?_, fun folder keeps => ?_⟩
  · rw [holds.machine.toolbox]
    exact has.tells
  by_cases inMemory : IsInMemory settings now request.script kind
  · exact .inl inMemory
  · refine .inr fun r comes made => ?_
    by_contra unwritable
    rw [holds.machine.resultOn_eq h.empty.ready] at comes
    have avoiding := h.holds_avoiding holds applies has inMemory comes unwritable
    have nothing := h.answer_eq_none applies has avoiding keeps comes made unwritable
    rw [given] at nothing
    cases nothing

/-- Whoever can keep the results gets the same answer with the cache and without. -/
theorem MayUseCache.answer_eq_of_canKeep (h : MayUseCache settings s requests request)
    (holds : HoldsFor settings s.machine requests (fun _ => True) (fun _ => False) now)
    (keep : request.uncached.answer now ≠ none →
      ∀ kind ∈ request.kinds, CanKeep settings now request.script kind) :
    request.answer now = request.uncached.answer now := by
  have without := h.empty.answer_uncached holds request
  cases other : request.uncached.answer now with
  | none =>
      cases answered : request.answer now with
      | none => rfl
      | some found =>
          have same := h.answer_uncached_of_answer holds answered
          exact same.symm.trans other
  | some found =>
      rw [other] at without keep
      have kept := keep (Option.some_ne_none found)
      obtain ⟨found', answered⟩ := Option.ne_none_iff_exists'.mp
        (h.answer_ne_none holds without kept)
      have same := h.answer_uncached_of_answer holds answered
      rw [answered, ← other, same]

/-- In memory everything can be kept if the words are whole and tools are refused by name only. -/
theorem StartsEmpty.answer_eq_of_whole (h : s.StartsEmpty settings)
    (refuses : s.machine.toolbox.RefusesNames) (unkept : keptIn settings = none)
    (whole : ∀ kind, WordsWhole settings kind) {before : List Request} {request : Request}
    (free : ∀ other ∈ before ++ [request], other.script.IsFreeOfZeros)
    (noCollision : NoCollision settings s.machine.toolbox (before ++ [request]))
    (cached : request.useCache) :
    request.answer (afterAll before s) = request.uncached.answer (afterAll before s) := by
  have holds := h.holds_afterAll (List.subset_append_left before [request])
  have asked : request ∈ before ++ [request] := List.mem_append_right _ (List.mem_singleton_self _)
  have may : MayUseCache settings s (before ++ [request]) request :=
    ⟨h, noCollision, free, asked, cached⟩
  refine may.answer_eq_of_canKeep holds fun given kind applies => ?_
  have without := h.answer_uncached holds request
  obtain ⟨found, given⟩ := Option.ne_none_iff_exists'.mp given
  rw [given] at without
  obtain ⟨r, comes⟩ := without.each kind applies
  refine ⟨whole kind, ?_, fun folder kept => ?_⟩
  · rw [holds.machine.toolbox]
    exact exists_tells_of_resultOn refuses comes
  · rw [unkept] at kept
    cases kept

/-- A request that may be answered from the cache never gets another report than it would get
without the cache. It gets the same answer exactly if there is no report without the cache, or if
the results of all its analyses can be kept. -/
theorem answer_eq_answer_uncached_iff (h : s.StartsEmpty settings) (before : List Request)
    (request : Request)
    (free : ∀ other ∈ before ++ [request], other.script.IsFreeOfZeros)
    (noCollision : NoCollision settings s.machine.toolbox (before ++ [request])) :
    (∀ found, request.answer (afterAll before s) = some found →
      request.uncached.answer (afterAll before s) = some found) ∧
    (request.answer (afterAll before s) = request.uncached.answer (afterAll before s) ↔
      (request.useCache → request.uncached.answer (afterAll before s) ≠ none →
        ∀ kind ∈ request.kinds, CanKeep settings (afterAll before s) request.script kind)) := by
  have holds := h.holds_afterAll (List.subset_append_left before [request])
  have asked : request ∈ before ++ [request] := List.mem_append_right _ (List.mem_singleton_self _)
  cases cached : request.useCache with
  | false =>
      have same : request.uncached = request := by
        rw [Request.uncached, ← cached]
      rw [same]
      exact ⟨fun _ given => given, iff_of_true rfl fun used => nomatch used⟩
  | true =>
      have may : MayUseCache settings s (before ++ [request]) request :=
        ⟨h, noCollision, free, asked, cached⟩
      refine ⟨fun found given => ?_, fun same _ given => ?_, fun keep => ?_⟩
      · exact may.answer_uncached_of_answer holds given
      · obtain ⟨found, given⟩ := Option.ne_none_iff_exists'.mp given
        exact may.canKeep_of_answer holds (same.trans given)
      · exact may.answer_eq_of_canKeep holds (keep rfl)

end

/-- A script that is asked for again where results are kept in files. -/
theorem answer_eq_answer_uncached_again :
    let settings : Settings := { Settings.atRoot with persistCache := true }
    let toolbox : Toolbox := ⟨fun name => some ("/bin/" ++ name), fun _ => .finished [] [] 0⟩
    let s : Session :=
      ⟨settings, builtinAnalyzers settings, some ⟨some ⟨1, ["cache"]⟩, []⟩,
        { toolbox, disk := ⟨[], [(["cache"], .folder)]⟩, temporaryMark := "0" }⟩
    let request : Request := ⟨⟨"s", .python3, none, "pass\n", [], true⟩, .default .python3, true⟩
    s.StartsEmpty settings ∧ request.script.IsFreeOfZeros ∧
      NoCollision settings toolbox [request, request] ∧
      request.answer (afterAll [request] s) = request.uncached.answer (afterAll [request] s) := by
  intro settings toolbox s request
  have empty : s.StartsEmpty settings := startsEmpty_atRoot toolbox
  have free : request.script.IsFreeOfZeros := by
    simp [request, Script.IsFreeOfZeros, Script.parts, Script.distinguishingName]
  have kinds : request.kinds = [.parses] := by decide
  have noCollision : NoCollision settings toolbox [request, request] := by
    have asks {other : Request} (asked : other ∈ [request, request]) : other = request := by
      simpa using asked
    refine noCollision_of_one request.script.content
      (keyInput request.script.fingerprint .parses "syntax/1+python3:unknown")
      (fun other asked => by rw [asks asked]) (fun other asked kind applies version has _ => ?_)
      (by decide +kernel)
    cases asks asked
    rw [kinds, List.mem_singleton] at applies
    subst applies
    obtain ⟨v, tells, rfl⟩ := has
    cases tells
    rfl
  refine ⟨empty, free, noCollision, ?_⟩
  have holds := empty.holds_afterAll (List.Subset.refl [request])
  have transparent :=
    answer_eq_answer_uncached_iff empty [request] request (by simpa using free) noCollision
  refine transparent.2.mpr fun _ _ kind applies => ?_
  rw [kinds, List.mem_singleton] at applies
  subst applies
  refine ⟨fun words basis => (by cases basis), fun tool asks => ⟨"unknown", ?_⟩,
    fun _ _ => .inr ?_⟩
  · cases asks
    rw [holds.machine.toolbox]
    rfl
  · intro r comes due
    rw [holds.machine.resultOn_eq empty.ready] at comes
    exact isWritable_of_isOk (by decide +kernel) r comes due

/-- A vocabulary with half of a surrogate pair keeps a request from its report. -/
theorem answer_ne_answer_uncached_of_half :
    let settings : Settings :=
      { Settings.atRoot with commandAllowlist := [String.singleton (Text.ofHalf 0xD800)] }
    let m : Machine := { toolbox := .empty, disk := .empty [], temporaryMark := "0" }
    let s : Session := ⟨settings, builtinAnalyzers settings, some ⟨none, []⟩, m⟩
    let request : Request :=
      ⟨⟨"s", .bash, none, "x\n", [], true⟩, .forLanguage .bash (some [.functionDeps]) [], true⟩
    s.StartsEmpty settings ∧ request.script.IsFreeOfZeros ∧
      NoCollision settings m.toolbox [request] ∧ request.answer s = none ∧
      request.uncached.answer s ≠ none := by
  intro settings m s request
  have started : start settings (builtinAnalyzers settings) m = .ok s := rfl
  have empty : s.StartsEmpty settings := by
    refine startsEmpty_of_apart started rfl rfl fun folder given => ?_
    cases given
  have free : request.script.IsFreeOfZeros := by
    simp [request, Script.IsFreeOfZeros, Script.parts, Script.distinguishingName]
  have halved : ¬ WordsWhole settings .functionDeps := by
    intro whole
    have absent := whole [String.singleton (Text.ofHalf 0xD800)] rfl
    revert absent
    decide
  have noCollision : NoCollision settings m.toolbox [request] := by
    refine noCollision_of_one request.script.content
      (keyInput request.script.fingerprint .parses "syntax/1+bash:unavailable")
      (fun other asked => by rw [List.mem_singleton.mp asked])
      (fun other asked kind applies version has named => ?_) (by decide +kernel)
    cases List.mem_singleton.mp asked
    have kinds : request.kinds = [.parses, .functionDeps] := by decide
    rw [kinds] at applies
    rcases List.mem_pair.mp applies with rfl | rfl
    · obtain ⟨v, tells, rfl⟩ := has
      cases tells
      rfl
    · exact absurd ((keyFor_isOk_iff has).mp named) halved
  refine ⟨empty, free, noCollision, ?_, ?_⟩
  · have may : MayUseCache settings s [request] request :=
      ⟨empty, noCollision, by simpa using free, List.mem_singleton_self _, rfl⟩
    cases given : request.answer s with
    | none => rfl
    | some found =>
        have ends := may.answer_cached (empty.holds_afterAll (List.nil_subset _)) given
        exact absurd (ends.2 .functionDeps (by decide)).1 halved
  · have given : (request.uncached.answer s).isSome := by decide +kernel
    exact Option.isSome_iff_ne_none.mp given

end Session

end ScriptVet
