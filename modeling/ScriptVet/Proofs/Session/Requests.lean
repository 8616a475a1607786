import ScriptVet.Proofs.Session.Keys
import ScriptVet.Proofs.Session.Run

/-!
# Sequences of requests

A session that starts with an empty cache answers requests one after another. All that changes on
its machine in the meantime are records of what was done, the folder for temporary ones and the
entries of the cache. Every result that is kept is what an analysis for an earlier request has come
to.
-/

namespace ScriptVet.Session

open Analyzer ResultCache Disk

/-- A request for the report on a script. -/
structure Request where
  script : Script
  selection : Selection
  useCache : Bool := true

namespace Request

/-- The analyses that are asked for. -/
def kinds (request : Request) : List AnalyzerKind :=
  request.selection.kindsFor request.script.language

/-- The report, unless the run ends in a fault. -/
def answer (request : Request) (s : Session) : Option Report :=
  ((run request.script request.selection request.useCache).run s).1.toOption

/-- The session after the run. -/
def after (request : Request) (s : Session) : Session :=
  ((run request.script request.selection request.useCache).run s).2

end Request

/-- The session after requests one after another. -/
def afterAll (requests : List Request) (s : Session) : Session :=
  requests.foldl (fun s request => request.after s) s

/-- The tool tells the version. -/
def Tells (settings : Settings) (toolbox : Toolbox) (tool version : String) : Prop :=
  Work.toldVersion settings toolbox tool = .ok version

/-- The result that an analysis on the machine gives, if any. -/
def resultOn (settings : Settings) (m : Machine) (script : Script) (kind : AnalyzerKind) :
    Option AnalysisResult :=
  (outcome settings (view settings m) script kind).toOption

/-- The key under which the result of an analysis is kept. -/
structure HasKey (settings : Settings) (toolbox : Toolbox) (script : Script) (kind : AnalyzerKind)
    (key : String) : Prop where
  content : script.checkContent = .ok ()
  named : ∃ version, HasVersion settings (Tells settings toolbox) script kind version ∧
    keyFor script (builtin settings kind) version = .ok key

/-! ## What is digested -/

/-- What is digested for requests: the content of the scripts, and what keys are made of. -/
inductive Digests (settings : Settings) (toolbox : Toolbox) (requests : List Request) :
    List UInt8 → Prop where
  | content {request} (asked : request ∈ requests)
    (content : request.script.checkContent = .ok ()) :
    Digests settings toolbox requests request.script.content
  | key {request kind version} (asked : request ∈ requests) (cached : request.useCache)
    (applies : kind ∈ request.kinds) (content : request.script.checkContent = .ok ())
    (has : HasVersion settings (Tells settings toolbox) request.script kind version)
    (named : (keyFor request.script (builtin settings kind) version).isOk) :
    Digests settings toolbox requests (keyInput request.script.fingerprint kind version)

/-- No two of the things that are digested for requests have the same digest. -/
def NoCollision (settings : Settings) (toolbox : Toolbox) (requests : List Request) : Prop :=
  ∀ a b, Digests settings toolbox requests a → Digests settings toolbox requests b →
    Sha256.hexDigest a = Sha256.hexDigest b → a = b

/-- Requests for scripts of one content whose keys are made of the same do not collide if the
digests of the two differ. -/
theorem noCollision_of_one {settings : Settings} {toolbox : Toolbox} {requests : List Request}
    (content input : List UInt8)
    (contents : ∀ request ∈ requests, request.script.content = content)
    (inputs : ∀ request ∈ requests, ∀ kind ∈ request.kinds, ∀ version,
      HasVersion settings (Tells settings toolbox) request.script kind version →
      (keyFor request.script (builtin settings kind) version).isOk →
      keyInput request.script.fingerprint kind version = input)
    (differ : Sha256.hexDigest content ≠ Sha256.hexDigest input) :
    NoCollision settings toolbox requests := by
  refine fun _ _ => Sha256.eq_of_pair (fun c digests => ?_) differ
  cases digests with
  | content asked => exact .inl (contents _ asked)
  | key asked _ applies _ has named => exact .inr (inputs _ asked _ applies _ has named)

/-- The analysis for one of the requests gives the result, which is then kept under the key. -/
structure IsKept (settings : Settings) (m : Machine) (requests : List Request) (key : String)
    (r : AnalysisResult) : Prop where
  asked : ∃ request ∈ requests, request.useCache ∧ ∃ kind ∈ request.kinds,
    HasKey settings m.toolbox request.script kind key ∧
      resultOn settings m request.script kind = some r
  made : r.status ≠ .skipped

section

variable {settings : Settings} {m : Machine} {requests : List Request}

/-- Without collisions a key belongs to one content and one kind. -/
theorem HasKey.inj (noCollision : NoCollision settings m.toolbox requests) {a b : Request}
    (askedA : a ∈ requests) (askedB : b ∈ requests) (cachedA : a.useCache) (cachedB : b.useCache)
    {kindA kindB : AnalyzerKind} (appliesA : kindA ∈ a.kinds) (appliesB : kindB ∈ b.kinds)
    {key : String} (hasA : HasKey settings m.toolbox a.script kindA key)
    (hasB : HasKey settings m.toolbox b.script kindB key) :
    a.script.content = b.script.content ∧ kindA = kindB := by
  obtain ⟨contentA, versionA, hasA, namedA⟩ := hasA
  obtain ⟨contentB, versionB, hasB, namedB⟩ := hasB
  have keyA := keyFor_eq_ok namedA
  have keyB := keyFor_eq_ok namedB
  rw [kind_builtin, key_eq] at keyA keyB
  have inputs := noCollision _ _
    (.key askedA cachedA appliesA contentA hasA (by rw [namedA]; rfl))
    (.key askedB cachedB appliesB contentB hasB (by rw [namedB]; rfl)) (keyA.symm.trans keyB)
  obtain ⟨fingerprints, kinds, -⟩ :=
    keyInput_inj (Sha256.zero_notMem_hexDigest _) (Sha256.zero_notMem_hexDigest _) inputs
  exact ⟨noCollision _ _ (.content askedA contentA) (.content askedB contentB) fingerprints, kinds⟩

theorem HasKey.unique {toolbox : Toolbox} {script : Script} {kind : AnalyzerKind}
    {key key' : String} (has : HasKey settings toolbox script kind key)
    (has' : HasKey settings toolbox script kind key') : key = key' := by
  obtain ⟨-, version, has, named⟩ := has
  obtain ⟨-, version', has', named'⟩ := has'
  have one (tool v v' : String) (tells : Tells settings toolbox tool v)
      (tells' : Tells settings toolbox tool v') : v = v' :=
    Except.ok.inj (tells.symm.trans tells')
  have same := HasVersion.unique one has has'
  rw [same, named'] at named
  exact (Except.ok.inj named).symm

theorem HasKey.isKey {toolbox : Toolbox} {script : Script} {kind : AnalyzerKind} {key : String}
    (has : HasKey settings toolbox script kind key) : IsKey key := by
  obtain ⟨-, version, -, named⟩ := has
  rw [keyFor_eq_ok named]
  exact isKey_key _ _ _

/-- There is a key once the version is known, if the words that are looked for are whole. -/
theorem hasKey_of_hasVersion {toolbox : Toolbox} {script : Script} {kind : AnalyzerKind}
    {version : String} (content : script.checkContent = .ok ())
    (has : HasVersion settings (Tells settings toolbox) script kind version)
    (whole : WordsWhole settings kind) :
    HasKey settings toolbox script kind (ResultCache.key script.fingerprint kind version) := by
  have named := (keyFor_isOk_iff has).mpr whole
  cases given : keyFor script (builtin settings kind) version with
  | error fault =>
      rw [given] at named
      cases named
  | ok key =>
      have same := keyFor_eq_ok given
      rw [kind_builtin] at same
      exact ⟨content, version, has, same ▸ given⟩

/-- Where there is a key, the tool has told its version. -/
theorem HasKey.tells {toolbox : Toolbox} {script : Script} {kind : AnalyzerKind} {key : String}
    (has : HasKey settings toolbox script kind key) :
    ∀ tool ∈ toolOf? settings script kind, ∃ version, Tells settings toolbox tool version := by
  intro tool asks
  obtain ⟨-, version, has, -⟩ := has
  rw [HasVersion, asks] at has
  obtain ⟨told, tells, -⟩ := has
  exact ⟨told, tells⟩

/-- A result that is kept under the key of an analysis is what that analysis gives. -/
theorem IsKept.resultOn_eq (noCollision : NoCollision settings m.toolbox requests)
    (free : ∀ request ∈ requests, request.script.IsFreeOfZeros) {request : Request}
    (asked : request ∈ requests) (cached : request.useCache) {kind : AnalyzerKind}
    (applies : kind ∈ request.kinds) {key : String} {r : AnalysisResult}
    (has : HasKey settings m.toolbox request.script kind key)
    (kept : IsKept settings m requests key r) :
    resultOn settings m request.script kind = some r := by
  obtain ⟨⟨other, asked', cached', kind', applies', has', gives⟩, made⟩ := kept
  obtain ⟨contents, rfl⟩ :=
    HasKey.inj noCollision asked' asked cached' cached applies' applies has' has
  have same := (Script.content_eq_iff_of_isFreeOfZeros (free other asked') (free request asked)).mp
    contents
  rw [resultOn] at gives ⊢
  cases comes : outcome settings (view settings m) other.script kind' with
  | error fault =>
      rw [comes] at gives
      cases gives
  | ok r' =>
      rw [comes] at gives
      cases gives
      rw [outcome_of_sameContent same comes made]
      rfl

end

/-! ## What is answered -/

section

variable {settings : Settings} {told : String → String → Prop} {inv : Machine → Prop}
  {mem : List (String × AnalysisResult) → Prop} {right : String → AnalysisResult → Prop}
  {request : Request} {s : Session}

/-- What an analysis comes to that may be answered from the cache, if its results may be kept or it
never gives any. -/
theorem ensures_analyze_answers (regime : Regime settings told inv mem right)
    (caching : settings.cacheResults) {script : Script} {kind : AnalyzerKind}
    (each : Admits settings told inv right script kind ∨
      ∀ r, ¬ Answers settings told inv mem right script kind r)
    (h : s.Holds settings inv mem) :
    (analyze kind script true s).Ensures (Holds settings inv mem) fun result s' =>
      Result.Meets
        (fun r => s'.Holds settings inv mem ∧ Answers settings told inv mem right script kind r)
        (Obstacle settings told inv mem script kind) result := by
  rcases each with admits | never
  · refine (ensures_analyze_true regime id (fun h' => holds_store regime admits h')
      caching h).mono fun result s' ends => ?_
    cases result with
    | ok r => exact ends
    | error fault => exact ends.2
  · refine (ensures_analyze_true regime (fun _ => trivial) (fun _ _ _ _ _ _ => trivial)
      caching h).mono fun result s' ends => ?_
    cases result with
    | ok r => exact absurd ends.2 (never r)
    | error fault => exact ends.2

/-- A report that is given is the one on results of the analyses, one for each kind. -/
theorem exists_results_of_answer {holds : Session → Prop}
    (good : AnalyzerKind → AnalysisResult → Prop)
    (each : ∀ kind ∈ request.kinds, ∀ s, holds s →
      (analyze kind request.script request.useCache s).Ensures holds fun result s' =>
        Result.Meets (fun r => holds s' ∧ good kind r) (fun _ => True) result)
    (h : holds s) {found : Report} (given : request.answer s = some found) :
    ∃ results, List.Forall₂ good request.kinds results ∧
      found = Report.aggregate request.script results := by
  have inOrder := Activity.ensures_run (ensures_runInOrder _ _ each h)
  rw [Request.answer, run_run_fst] at given
  cases ran : ((runInOrder request.script request.selection request.useCache).run s).1 with
  | error fault =>
      rw [ran] at given
      cases given
  | ok found' =>
      rw [ran] at inOrder given
      cases given
      obtain ⟨-, results, comes, reported⟩ := inOrder
      obtain ⟨_, -, reported⟩ := Result.bind_eq_ok.mp reported
      exact ⟨results, comes, (Except.ok.inj reported).symm⟩

/-- What comes of a request that may be answered from the cache: a report on what the analyses give,
or one of them has met an obstacle, or the script has no content. -/
theorem answer_of_regime (regime : Regime settings told inv mem right)
    (caching : settings.cacheResults) (cached : request.useCache)
    (each : ∀ kind ∈ request.kinds, Admits settings told inv right request.script kind ∨
      ∀ r, ¬ Answers settings told inv mem right request.script kind r)
    (h : s.Holds settings inv mem) :
    match request.answer s with
    | some found => ∃ results,
        List.Forall₂ (Answers settings told inv mem right request.script) request.kinds results ∧
          report request.script results = .ok found
    | none => (∃ kind ∈ request.kinds, ∃ fault,
          Obstacle settings told inv mem request.script kind fault) ∨
        ∃ e, request.script.checkContent = .error e := by
  have inOrder := Activity.ensures_run (ensures_runInOrder _ _
    (fun kind (applies : kind ∈ request.kinds) _ h' =>
      ensures_analyze_answers regime caching (each kind applies) h') h)
  rw [Request.answer, run_run_fst, cached]
  cases ran : ((runInOrder request.script request.selection true).run s).1 with
  | ok found =>
      rw [ran] at inOrder
      exact inOrder.2
  | error fault =>
      rw [ran] at inOrder
      exact inOrder.imp (fun ⟨kind, applies, obstacle⟩ => ⟨kind, applies, fault, obstacle⟩) id

/-- A request is not answered if one of its analyses never gives a result. -/
theorem answer_eq_none_of_never (regime : Regime settings told inv mem right)
    (caching : settings.cacheResults) (cached : request.useCache)
    (each : ∀ kind ∈ request.kinds, Admits settings told inv right request.script kind ∨
      ∀ r, ¬ Answers settings told inv mem right request.script kind r)
    (h : s.Holds settings inv mem) {kind : AnalyzerKind} (applies : kind ∈ request.kinds)
    (never : ∀ r, ¬ Answers settings told inv mem right request.script kind r) :
    request.answer s = none := by
  have ends := answer_of_regime regime caching cached each h
  cases answered : request.answer s with
  | none => rfl
  | some found =>
      rw [answered] at ends
      obtain ⟨results, given, -⟩ := ends
      have some := (List.forall₂_and_left _ _).mp
        (given.imp fun kind r answers => And.intro (Exists.intro r answers) trivial)
      obtain ⟨r, answers⟩ := some.1 kind applies
      exact absurd answers (never r)

end

/-! ## What happens to the files -/

/-- What can become of the files: the folder for temporary ones is made, and entries of the cache
are written. -/
inductive Grows (settings : Settings) (disk : Disk) : Disk → Prop where
  | refl : Grows settings disk disk
  | made {middle disk'} (h : Grows settings disk middle)
    (made : middle.ensureFolders settings.tempDir = .ok disk') : Grows settings disk disk'
  | written {middle disk' folder key content} (h : Grows settings disk middle)
    (given : folder ∈ keptIn settings) (isKey : IsKey key)
    (written : middle.write (fileFor folder key) content = .ok disk') : Grows settings disk disk'

/-- Entries of the cache can be written, also once there is the folder for temporary ones. -/
def IsReady (settings : Settings) (disk : Disk) : Prop :=
  ∀ folder ∈ keptIn settings, Accepts disk folder ∧
    ∀ made, disk.ensureFolders settings.tempDir = .ok made → Accepts made folder

section

variable {settings : Settings} {disk disk' : Disk}

theorem Grows.keepsFolders (h : Grows settings disk disk') : disk.KeepsFolders disk' := by
  induction h with
  | refl => exact ⟨rfl, fun _ folder => folder⟩
  | made h made ih =>
      have adds := (provides_of_ensureFolders made).adds.keepsFolders
      exact ⟨adds.working.trans ih.working, fun q folder => adds.folders q (ih.folders q folder)⟩
  | written h given isKey written ih =>
      have keeps := keepsFolders_of_write written
      exact ⟨keeps.working.trans ih.working, fun q folder => keeps.folders q (ih.folders q folder)⟩

theorem IsReady.made (ready : IsReady settings disk)
    (made : disk.ensureFolders settings.tempDir = .ok disk') : IsReady settings disk' := by
  intro folder given
  have leads := (provides_of_ensureFolders made).leads
  have accepts := (ready folder given).2 disk' made
  refine ⟨accepts, fun disk'' again => ?_⟩
  have provides := provides_of_ensureFolders again
  refine accepts.mono provides.adds.keepsFolders fun key isKey place resolved noFolder => ?_
  by_cases visited : place ∈ disk'.visitsOf settings.tempDir
  · exact absurd (leads.folders place visited) noFolder
  · rw [provides.elsewhere place visited]
    exact noFolder

theorem IsReady.written (ready : IsReady settings disk) {folder : Path}
    (given : folder ∈ keptIn settings) {key : String} {content : List UInt8}
    (written : disk.write (fileFor folder key) content = .ok disk') : IsReady settings disk' := by
  intro folder' given'
  have one : folder' = folder := Option.some.inj (given'.symm.trans given)
  subst one
  have keeps := keepsFolders_of_write written
  have accepts : Accepts disk' folder' := by
    refine (ready folder' given).1.mono keeps fun key' isKey' place resolved noFolder => ?_
    obtain ⟨there, executable, -, before, rfl⟩ := put_of_write written
    rw [entry?_put disk (ne_nil_of_not_folder before)]
    split
    · simp
    · exact noFolder
  refine ⟨accepts, fun disk'' made => ?_⟩
  have provides := provides_of_ensureFolders made
  refine accepts.mono provides.adds.keepsFolders fun key' isKey' place resolved noFolder => ?_
  by_cases visited : place ∈ disk'.visitsOf settings.tempDir
  · -- Had the folder been made before the entry was written, there would be a folder in its place.
    cases earlier : disk.ensureFolders settings.tempDir with
    | error e =>
        have possible := ensureFolders_isOk_iff.mpr (provides.isFree.of_write written)
        rw [earlier] at possible
        cases possible
    | ok disk₁ =>
        have provides₁ := provides_of_ensureFolders earlier
        obtain ⟨place₀, resolved₀, -⟩ := accepts_iff.mp (ready folder' given).1 key' isKey'
        obtain ⟨place₁, resolved₁, noFolder₁⟩ :=
          accepts_iff.mp ((ready folder' given).2 disk₁ earlier) key' isKey'
        have same : place₀ = place :=
          Except.ok.inj ((keeps.resolve resolved₀).symm.trans resolved)
        have same₁ : place₀ = place₁ :=
          Except.ok.inj ((provides₁.adds.keepsFolders.resolve resolved₀).symm.trans resolved₁)
        rw [visitsOf_congr keeps.working, ← visitsOf_congr provides₁.adds.working] at visited
        rw [← same₁, same] at noFolder₁
        exact absurd (provides₁.leads.folders place visited) noFolder₁
  · rw [provides.elsewhere place visited]
    exact noFolder

theorem Grows.isReady (h : Grows settings disk disk') (ready : IsReady settings disk) :
    IsReady settings disk' := by
  induction h with
  | refl => exact ready
  | made h made ih => exact ih.made made
  | written h given isKey written ih => exact ih.written given written

/-- The folder for temporary ones can be made if it could be made at first, and only then. -/
theorem Grows.isFree_iff (h : Grows settings disk disk') (ready : IsReady settings disk) :
    disk'.IsFree settings.tempDir ↔ disk.IsFree settings.tempDir := by
  induction h with
  | refl => exact Iff.rfl
  | made h made ih =>
      have provides := provides_of_ensureFolders made
      exact (iff_of_true (Provides.refl provides.leads).isFree provides.isFree).trans ih
  | @written middle disk' folder key content h given isKey written ih =>
      refine Iff.trans ⟨IsFree.of_write written, fun free => ?_⟩ ih
      cases made : middle.ensureFolders settings.tempDir with
      | error e =>
          have possible := ensureFolders_isOk_iff.mpr free
          rw [made] at possible
          cases possible
      | ok disk'' =>
          have accepts := ((h.isReady ready) folder given).2 disk'' made
          obtain ⟨place, resolved, noFolder⟩ := accepts_iff.mp accepts key isKey
          exact free.write (provides_of_ensureFolders made) resolved noFolder written

end

/-! ## What stays as it is -/

/-- A machine on which nothing has happened since the first one but work for requests. Of its disk
something more holds. -/
structure Continues (settings : Settings) (first : Machine) (holds : Disk → Prop) (m : Machine) :
    Prop where
  toolbox : m.toolbox = first.toolbox
  mark : m.temporaryMark = first.temporaryMark
  versions : ∀ {kind tool version}, m.versions.lookup (kind, tool) = some version →
    Tells settings first.toolbox tool version
  grows : Grows settings first.disk m.disk
  files : holds m.disk

/-- What is found in files is right and can be written again. -/
def RightFiles (settings : Settings) (right : String → AnalysisResult → Prop) (disk : Disk) :
    Prop :=
  ∀ folder ∈ keptIn settings, ∀ {key}, IsKey key →
    ∃ found, readEntry disk (fileFor folder key) = .ok found ∧
      ∀ r ∈ found, right key r ∧ ∃ text, r.compactJson = .ok text

/-- A machine on which nothing has happened since the first one but work for requests, so that all
results in its files are right. -/
abbrev Follows (settings : Settings) (first : Machine)
    (right : String → AnalysisResult → Prop) : Machine → Prop :=
  Continues settings first (RightFiles settings right)

/-- A session that has just been started, with an empty cache into which results can be put. -/
structure StartsEmpty (settings : Settings) (s : Session) : Prop where
  started : ∃ m, start settings (builtinAnalyzers settings) m = .ok s ∧ m.versions = []
  caching : settings.cacheResults
  empty : ∀ folder ∈ keptIn settings, ∀ key, IsKey key →
    readEntry s.machine.disk (fileFor folder key) = .ok none
  ready : IsReady settings s.machine.disk

section

variable {settings : Settings} {first : Machine} {holds : Disk → Prop}
  {right : String → AnalysisResult → Prop} {m : Machine}

/-- Analyses give the same results on all these machines. -/
theorem Continues.resultOn_eq (ready : IsReady settings first.disk)
    (h : Continues settings first holds m) (script : Script) (kind : AnalyzerKind) :
    resultOn settings m script kind = resultOn settings first script kind := by
  refine toOption_outcome_view h.toolbox h.mark ?_ script kind
  rw [Bool.eq_iff_iff, ensureFolders_isOk_iff, ensureFolders_isOk_iff]
  exact h.grows.isFree_iff ready

theorem Continues.resultOn_of_isFresh (ready : IsReady settings first.disk) {script : Script}
    {kind : AnalyzerKind} {r : AnalysisResult}
    (fresh : IsFresh settings (Continues settings first holds) script kind r) :
    resultOn settings first script kind = some r := by
  obtain ⟨m, continues, given⟩ := fresh
  rw [← continues.resultOn_eq ready, resultOn, given]
  rfl

/-- What requests rely on, if it still holds of the disk once there is the folder for temporary
ones, and what is found in files is right. -/
theorem regime_continues (stays : String → Prop)
    (made : ∀ {middle disk}, Grows settings first.disk middle → holds middle →
      middle.ensureFolders settings.tempDir = .ok disk → holds disk)
    (found : ∀ {disk}, holds disk → ∀ folder ∈ keptIn settings, ∀ {key r}, IsKey key →
      readEntry disk (fileFor folder key) = .ok (some r) → right key r) :
    Regime settings (Tells settings first.toolbox) (Continues settings first holds)
      (Remembers right stays) right where
  kept h := h.right
  remembered h := h.put
  versions :=
    { lasting :=
        { called := fun h _ => ⟨h.toolbox, h.mark, h.versions, h.grows, h.files⟩
          noted := fun h _ => ⟨h.toolbox, h.mark, h.versions, h.grows, h.files⟩
          begun := fun h _ => ⟨h.toolbox, h.mark, h.versions, h.grows, h.files⟩
          made := fun h _ provided =>
            ⟨h.toolbox, h.mark, h.versions, .made h.grows provided,
              made h.grows h.files provided⟩ }
      asked := fun h told => h.toolbox ▸ told
      noted := fun h noted => h.versions noted
      notes := fun h told kind =>
        ⟨h.toolbox, h.mark, Work.told_of_noted h.versions told kind, h.grows, h.files⟩ }
  found h := found h.files

theorem StartsEmpty.leads {s : Session} (h : s.StartsEmpty settings) {folder : Path}
    (given : folder ∈ keptIn settings) : s.machine.disk.LeadsToFolder folder := by
  obtain ⟨m, started, -⟩ := h.started
  exact leadsToFolder_of_start started given

theorem RightFiles.made {disk disk' : Disk}
    (leads : ∀ folder ∈ keptIn settings, disk.LeadsToFolder folder)
    (h : RightFiles settings right disk)
    (made : disk.ensureFolders settings.tempDir = .ok disk') : RightFiles settings right disk' := by
  intro folder given key isKey
  have adds := (provides_of_ensureFolders made).adds
  rcases readEntry_of_addsFolders (leads folder given) adds isKey with same | nothing
  · obtain ⟨found, read, isRight⟩ := h folder given isKey
    exact ⟨found, same.trans read, isRight⟩
  · exact ⟨none, nothing, fun r hr => nomatch hr⟩

theorem Follows.mono {right' : String → AnalysisResult → Prop}
    (h : Follows settings first right m) (more : ∀ {key r}, right key r → right' key r) :
    Follows settings first right' m where
  toolbox := h.toolbox
  mark := h.mark
  versions := h.versions
  grows := h.grows
  files folder given _ isKey := by
    obtain ⟨found, read, isRight⟩ := h.files folder given isKey
    exact ⟨found, read, fun r hr => ⟨more (isRight r hr).1, (isRight r hr).2⟩⟩

/-- A result that is written can be found afterwards. -/
theorem RightFiles.written {disk disk' : Disk} {folder : Path} {key : String} {r : AnalysisResult}
    (leads : ∀ folder ∈ keptIn settings, disk.LeadsToFolder folder)
    (h : RightFiles settings right disk) (given : folder ∈ keptIn settings) (isKey : IsKey key)
    (isRight : right key r) (portable : r.IsPortable)
    (written : writeEntry disk (fileFor folder key) r = .ok disk') :
    RightFiles settings right disk' := by
  obtain ⟨text, rendered, wrote⟩ := compactJson_of_writeEntry written
  intro folder' given' other isKey'
  have one : folder' = folder := Option.some.inj (given'.symm.trans given)
  subst one
  rw [readEntry_of_write (leads folder' given) isKey isKey' wrote]
  split
  · next same =>
    refine ⟨_, readResult_compactJson portable rendered, fun r' hr' => ?_⟩
    cases long : r.toJson.longNumeral? (some numeralLimit) with
    | some digits =>
        rw [long] at hr'
        cases hr'
    | none =>
        rw [long] at hr'
        cases hr'
        exact ⟨same ▸ isRight, text, rendered⟩
  · exact h folder' given isKey'

theorem Follows.written {disk : Disk} {folder : Path} {key : String} {r : AnalysisResult}
    (leads : ∀ folder ∈ keptIn settings, first.disk.LeadsToFolder folder)
    (h : Follows settings first right m) (given : folder ∈ keptIn settings) (isKey : IsKey key)
    (isRight : right key r) (portable : r.IsPortable)
    (written : writeEntry m.disk (fileFor folder key) r = .ok disk) :
    Follows settings first right { m with disk } := by
  obtain ⟨text, -, wrote⟩ := compactJson_of_writeEntry written
  refine ⟨h.toolbox, h.mark, h.versions, .written h.grows given isKey wrote, ?_⟩
  exact h.files.written (fun folder given => (leads folder given).mono h.grows.keepsFolders) given
    isKey isRight portable written

end

section

variable {settings : Settings} {s : Session} {right : String → AnalysisResult → Prop}
  {stays : String → Prop}

/-- Entries can be written in a folder whose path is not too long if no folder is in their places
and the path for temporary folders does not lead there. -/
theorem isReady_of_apart {disk : Disk}
    (apart : ∀ folder ∈ keptIn settings, disk.LeadsToFolder folder ∧ folder.parts ≠ [] ∧
      folder.toString.utf8ByteSize + 70 ≤ pathLimit ∧ ∀ key,
        disk.entry? (placeFor disk folder key) ≠ some .folder ∧
          placeFor disk folder key ∉ disk.visitsOf settings.tempDir) : IsReady settings disk := by
  intro folder given
  obtain ⟨leads, named, short, entries⟩ := apart folder given
  refine ⟨accepts_of_leadsToFolder leads named short fun key _ => (entries key).1, ?_⟩
  intro made provided
  have provides := provides_of_ensureFolders provided
  refine accepts_of_leadsToFolder (leads.mono provides.adds.keepsFolders) named short
    fun key _ => ?_
  rw [placeFor_congr provides.adds.working, provides.elsewhere _ (entries key).2]
  exact (entries key).1

/-- A new session keeps results in files if the path of their folder is not too long, there is
nothing in the places of the files and the path for temporary folders does not lead there. -/
theorem startsEmpty_of_apart {m : Machine}
    (started : start settings (builtinAnalyzers settings) m = .ok s) (untold : m.versions = [])
    (caching : settings.cacheResults)
    (apart : ∀ folder ∈ keptIn settings, folder.parts ≠ [] ∧
      folder.toString.utf8ByteSize + 70 ≤ pathLimit ∧ ∀ key,
        s.machine.disk.entry? (placeFor s.machine.disk folder key) = none ∧
          placeFor s.machine.disk folder key ∉ s.machine.disk.visitsOf settings.tempDir) :
    s.StartsEmpty settings := by
  have ready : IsReady settings s.machine.disk := by
    refine isReady_of_apart fun folder given => ?_
    obtain ⟨named, short, entries⟩ := apart folder given
    refine ⟨leadsToFolder_of_start started given, named, short, fun key => ⟨?_, (entries key).2⟩⟩
    rw [(entries key).1]
    exact (Option.some_ne_none _).symm
  refine ⟨⟨m, started, untold⟩, caching, fun folder given key isKey => ?_, ready⟩
  obtain ⟨-, -, entries⟩ := apart folder given
  obtain ⟨place, resolved, -⟩ := accepts_iff.mp (ready folder given).1 key isKey
  have same := placeFor_of_resolve (leadsToFolder_of_start started given) isKey resolved
  rw [readEntry_of_resolve resolved, readAt, same, (entries key).1]

/-- A new session that keeps results in a folder where there were no files. -/
theorem startsEmpty_atRoot (toolbox : Toolbox) :
    let settings : Settings := { Settings.atRoot with persistCache := true }
    StartsEmpty settings
      ⟨settings, builtinAnalyzers settings, some ⟨some ⟨1, ["cache"]⟩, []⟩,
        { toolbox, disk := ⟨[], [(["cache"], .folder)]⟩, temporaryMark := "0" }⟩ := by
  intro settings
  have made : (Disk.empty []).ensureFolders ⟨1, ["cache"]⟩ = .ok ⟨[], [(["cache"], .folder)]⟩ := by
    with_unfolding_all rfl
  have started : start settings (builtinAnalyzers settings)
      { toolbox, disk := .empty [], temporaryMark := "0" } =
      .ok ⟨settings, builtinAnalyzers settings, some ⟨some ⟨1, ["cache"]⟩, []⟩,
        { toolbox, disk := ⟨[], [(["cache"], .folder)]⟩, temporaryMark := "0" }⟩ := by
    have caching : settings.cacheResults := rfl
    have folder : cacheFolder settings = some ⟨1, ["cache"]⟩ := rfl
    rw [start, if_pos caching, folder, ResultCache.start]
    simp only [made]
    rfl
  refine startsEmpty_of_apart started rfl rfl fun folder given => ?_
  cases given
  have visited : (Disk.mk [] [(["cache"], .folder)]).visitsOf settings.tempDir = [[], ["tmp"]] := by
    decide
  refine ⟨by decide, by decide, fun key => ⟨rfl, ?_⟩⟩
  rw [visited]
  change ["cache", entryName key] ∉ _
  simp

/-- What requests to such a session rely on. -/
theorem StartsEmpty.regime (h : s.StartsEmpty settings) (right : String → AnalysisResult → Prop)
    (stays : String → Prop) :
    Regime settings (Tells settings s.machine.toolbox) (Follows settings s.machine right)
      (Remembers right stays) right := by
  refine regime_continues stays (fun grows files made => ?_) ?_
  · exact files.made (fun _ given => (h.leads given).mono grows.keepsFolders) made
  · intro disk files folder given key r isKey read
    obtain ⟨found, read', isRight⟩ := files folder given isKey
    rw [read] at read'
    cases read'
    exact (isRight r rfl).1

theorem StartsEmpty.holds (h : s.StartsEmpty settings) (right : String → AnalysisResult → Prop) :
    s.Holds settings (Follows settings s.machine right) (Remembers right fun _ => False) := by
  obtain ⟨m, started, untold⟩ := h.started
  have versions : s.machine.versions = [] := by
    obtain ⟨disk, rfl, -⟩ := start_eq_ok started
    exact untold
  refine holds_of_start started ⟨rfl, rfl, ?_, .refl, ?_⟩ (remembers_nil right)
  · intro kind tool version noted
    rw [versions] at noted
    cases noted
  · exact fun folder given key isKey =>
      ⟨none, h.empty folder given key isKey, fun r hr => nomatch hr⟩

/-- Results that are kept for one of the requests, under keys that may be used. -/
def RightFor (settings : Settings) (m : Machine) (requests : List Request) (may : String → Prop)
    (key : String) (r : AnalysisResult) : Prop :=
  IsKept settings m requests key r ∧ may key

/-- What holds of the machine while requests are answered. -/
abbrev FollowsFor (settings : Settings) (first : Machine) (requests : List Request)
    (may : String → Prop) : Machine → Prop :=
  Follows settings first (RightFor settings first requests may)

/-- What holds of the memory while requests are answered. -/
abbrev RemembersFor (settings : Settings) (first : Machine) (requests : List Request)
    (may stays : String → Prop) : List (String × AnalysisResult) → Prop :=
  Remembers (RightFor settings first requests may) stays

/-- What holds of the session while requests are answered. -/
abbrev HoldsFor (settings : Settings) (first : Machine) (requests : List Request)
    (may stays : String → Prop) : Session → Prop :=
  Holds settings (FollowsFor settings first requests may)
    (RemembersFor settings first requests may stays)

/-- Results of an analysis may be kept if what it gives is right under its key. -/
theorem StartsEmpty.admits_of_right (h : s.StartsEmpty settings) {script : Script}
    {kind : AnalyzerKind}
    (isRight : ∀ {key r}, HasKey settings s.machine.toolbox script kind key →
      resultOn settings s.machine script kind = some r → r.status ≠ .skipped → right key r) :
    Admits settings (Tells settings s.machine.toolbox) (Follows settings s.machine right) right
      script kind where
  right content has named fresh made :=
    isRight ⟨content, _, has, named⟩ (Continues.resultOn_of_isFresh h.ready fresh) made
  written {version key r m folder disk} content has named fresh made follows given written := by
    have hasKey : HasKey settings s.machine.toolbox script kind key :=
      ⟨content, version, has, named⟩
    have comes := Continues.resultOn_of_isFresh h.ready fresh
    have portable : r.IsPortable := by
      obtain ⟨_, -, comes⟩ := fresh
      exact (gives_of_outcome comes).portable
    exact follows.written (fun _ => h.leads) given hasKey.isKey (isRight hasKey comes made)
      portable written

/-- Results for one of the requests may be kept. -/
theorem StartsEmpty.admits (h : s.StartsEmpty settings) {requests : List Request}
    {request : Request} (asked : request ∈ requests) (cached : request.useCache)
    {kind : AnalyzerKind} (applies : kind ∈ request.kinds) {may : String → Prop}
    (allowed : ∀ key, HasKey settings s.machine.toolbox request.script kind key → may key) :
    Admits settings (Tells settings s.machine.toolbox)
      (FollowsFor settings s.machine requests may) (RightFor settings s.machine requests may)
      request.script kind :=
  h.admits_of_right fun {key _} has comes made =>
    ⟨⟨⟨request, asked, cached, kind, applies, has, comes⟩, made⟩, allowed key has⟩

/-- What is known of the session after some of the requests. -/
theorem StartsEmpty.holds_afterAll (h : s.StartsEmpty settings) {requests before : List Request}
    (among : before ⊆ requests) :
    HoldsFor settings s.machine requests (fun _ => True) (fun _ => False) (afterAll before s) := by
  refine List.foldlRecOn before _ (h.holds _) fun s' h' request asked => ?_
  refine holds_run (h.regime _ _) (fun cached kind applies => ?_) h'
  exact h.admits (among asked) cached applies fun _ _ => trivial

end

end ScriptVet.Session
