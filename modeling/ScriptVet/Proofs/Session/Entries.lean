import ScriptVet.Proofs.ResultData
import ScriptVet.Proofs.Session.Transparency

/-!
# Files of a cache that may hold anything

Whatever is in the file for a key, a cache that looks there is meant to find a result or nothing.
This holds for text, whatever it says. But octets that are no text end the search in a fault, which
nobody handles. So a request that could be answered, and whose results could be kept, is answered
exactly if there is text in all the files that its analyses look at, which are those for keys that
are not in memory.
-/

namespace ScriptVet

namespace ResultCache

open Disk

/-- The octets are those of a text. -/
def IsText (content : List UInt8) : Prop :=
  ∃ text, content = Text.Utf8.encode text

variable {disk : Disk} {file : Path} {content : List UInt8}

theorem readResult_of_isText (h : IsText content) : ∃ found, readResult content = .ok found := by
  obtain ⟨text, rfl⟩ := h
  rw [readResult, Text.Utf8.decode?_encode]
  simp only
  cases Json.Reader.read .strict (Text.readNewlines text) with
  | error fault => exact ⟨none, rfl⟩
  | ok value => exact ⟨(AnalysisResult.ofJson value).toOption, rfl⟩

theorem readResult_of_not_isText (h : ¬ IsText content) :
    readResult content = .error .notText := by
  rw [readResult]
  cases decoded : Text.Utf8.decode? content with
  | none => rfl
  | some text => exact absurd ⟨text, Text.Utf8.decode?_eq_some_iff.mp decoded⟩ h

/-- What was written for a result is text. -/
theorem isText_encodeString (text : String) : IsText (Text.Utf8.encodeString text) :=
  ⟨text.toList, rfl⟩

theorem readEntry_of_read (given : disk.read file = .ok content) :
    readEntry disk file = readResult content := by
  obtain ⟨place, executable, resolved, there⟩ := read_eq_ok_iff.mp given
  rw [readEntry_of_resolve resolved, readAt, there]

/-- There are octets in the file that are those of no text. -/
def IsSpoilt (disk : Disk) (file : Path) : Prop :=
  ∃ content, disk.read file = .ok content ∧ ¬ IsText content

theorem IsSpoilt.readEntry_eq (h : IsSpoilt disk file) :
    readEntry disk file = .error .notText := by
  obtain ⟨content, read, spoilt⟩ := h
  rw [readEntry_of_read read, readResult_of_not_isText spoilt]

/-- Where the path leads somewhere, a result or nothing is found unless the file is spoilt. -/
theorem exists_readEntry {place : Place} (resolved : disk.resolve file = .ok place)
    (legible : ¬ IsSpoilt disk file) : ∃ found, readEntry disk file = .ok found := by
  cases there : disk.entry? place with
  | none => exact ⟨none, by rw [readEntry_of_resolve resolved, readAt, there]⟩
  | some entry =>
      cases entry with
      | folder => exact ⟨none, by rw [readEntry_of_resolve resolved, readAt, there]⟩
      | file content executable =>
          have given := read_eq_ok_iff.mpr ⟨place, executable, resolved, there⟩
          rw [readEntry_of_read given]
          exact readResult_of_isText (by_contra fun spoilt => legible ⟨content, given, spoilt⟩)

/-- A cache that looks in a file finds a result or nothing if there is text in it. It remembers what
it finds, and changes nothing otherwise. -/
theorem get_of_read {cache : ResultCache} {folder : Path} {key : String}
    (given : cache.folder = some folder) (missing : cache.entries.lookup key = none)
    (read : disk.read (fileFor folder key) = .ok content) :
    (IsText content → ∃ found cache', cache.get disk key = .ok (found, cache') ∧
      (found = none ∧ cache' = cache ∨
        ∃ r, found = some r ∧ cache' = cache.remember key r)) ∧
    (¬ IsText content → cache.get disk key = .error .notText) := by
  rw [get_of_not_kept missing, given]
  simp only [readEntry_of_read read]
  constructor
  · intro text
    obtain ⟨found, result⟩ := readResult_of_isText text
    rw [result]
    cases found with
    | none => exact ⟨none, cache, rfl, .inl ⟨rfl, rfl⟩⟩
    | some r => exact ⟨some r, cache.remember key r, rfl, .inr ⟨r, rfl, rfl⟩⟩
  · intro spoilt
    rw [readResult_of_not_isText spoilt]

end ResultCache

namespace Session

open Analyzer ResultCache Disk

/-- A session with the built-in analyzers whose cache may hold anything, in memory and in files.
Versions that were noted are those that tools tell, and results can be put into the files. -/
structure IsOpen (settings : Settings) (s : Session) : Prop where
  under : s.settings = settings
  analyzers : s.analyzers = builtinAnalyzers settings
  caching : settings.cacheResults
  cache : ∃ entries, s.cache = some ⟨keptIn settings, entries⟩
  versions : ∀ {kind tool version}, s.machine.versions.lookup (kind, tool) = some version →
    Tells settings s.machine.toolbox tool version
  leads : ∀ folder ∈ keptIn settings, s.machine.disk.LeadsToFolder folder
  ready : IsReady settings s.machine.disk

/-- If the result of the analysis is not in memory, its file is not spoilt. -/
def IsLegible (settings : Settings) (s : Session) (script : Script) (kind : AnalyzerKind) : Prop :=
  ∀ key, HasKey settings s.machine.toolbox script kind key → ¬ s.Recalls key →
    ∀ folder ∈ keptIn settings, ¬ IsSpoilt s.machine.disk (fileFor folder key)

/-- Entries in which something or nothing was found do not become faults. -/
def StaysReadable (settings : Settings) (before disk : Disk) : Prop :=
  ∀ folder ∈ keptIn settings, ∀ {key}, IsKey key →
    (∃ found, readEntry before (fileFor folder key) = .ok found) →
    ∃ found, readEntry disk (fileFor folder key) = .ok found

section

variable {settings : Settings} {s : Session} {request : Request}

theorem IsOpen.holds (h : s.IsOpen settings) {holds : Disk → Prop} (files : holds s.machine.disk)
    {mem : List (String × AnalysisResult) → Prop}
    (memory : ∀ cache ∈ s.cache, mem cache.entries) :
    s.Holds settings (Continues settings s.machine holds) mem := by
  obtain ⟨entries, there⟩ := h.cache
  refine ⟨h.under, h.analyzers, ⟨rfl, rfl, h.versions, .refl, files⟩, ?_, ?_, memory⟩
  · rw [there, h.caching]
    rfl
  · intro cache hc
    rw [there] at hc
    rw [← Option.some.inj hc]

theorem IsOpen.leads_of_grows (h : s.IsOpen settings) {disk : Disk}
    (grows : Grows settings s.machine.disk disk) {folder : Path}
    (given : folder ∈ keptIn settings) : disk.LeadsToFolder folder :=
  (h.leads folder given).mono grows.keepsFolders

theorem IsOpen.readable_made (h : s.IsOpen settings) {before disk disk' : Disk}
    (grows : Grows settings s.machine.disk disk) (readable : StaysReadable settings before disk)
    (made : disk.ensureFolders settings.tempDir = .ok disk') :
    StaysReadable settings before disk' := by
  intro folder given key isKey first
  have adds := (provides_of_ensureFolders made).adds
  rcases readEntry_of_addsFolders (h.leads_of_grows grows given) adds isKey with same | nothing
  · rw [same]
    exact readable folder given isKey first
  · exact ⟨none, nothing⟩

/-- What is written can be read. -/
theorem IsOpen.readable_written (h : s.IsOpen settings) {before disk disk' : Disk}
    (grows : Grows settings s.machine.disk disk) (readable : StaysReadable settings before disk)
    {folder : Path} (given : folder ∈ keptIn settings) {key text : String} (isKey : IsKey key)
    (wrote : disk.write (fileFor folder key) (Text.Utf8.encodeString text) = .ok disk') :
    StaysReadable settings before disk' := by
  intro folder' given' other isKey' first
  have one : folder' = folder := Option.some.inj (given'.symm.trans given)
  subst one
  rw [readEntry_of_write (h.leads_of_grows grows given) isKey isKey' wrote]
  split
  · exact readResult_of_isText (isText_encodeString text)
  · exact readable folder' given isKey' first

/-- Any results may be kept. -/
theorem IsOpen.admits_readable (h : s.IsOpen settings) (before : Disk) (script : Script)
    (kind : AnalyzerKind) :
    Admits settings (Tells settings s.machine.toolbox)
      (Continues settings s.machine (StaysReadable settings before)) (fun _ _ => True) script
      kind where
  right _ _ _ _ _ := trivial
  written {version key r m folder disk} content has named _ _ continues given written := by
    have isKey : IsKey key := HasKey.isKey ⟨content, version, has, named⟩
    obtain ⟨text, -, wrote⟩ := compactJson_of_writeEntry written
    exact ⟨continues.toolbox, continues.mark, continues.versions,
      .written continues.grows given isKey wrote,
      h.readable_written continues.grows continues.files given isKey wrote⟩

/-- A request that is answered without the cache is answered from it, if its results can be kept
and none of their files is spoilt. -/
theorem IsOpen.answer_ne_none (h : s.IsOpen settings) (cached : request.useCache)
    (without : request.uncached.answer s ≠ none)
    (keep : ∀ kind ∈ request.kinds, CanKeep settings s request.script kind)
    (legible : ∀ kind ∈ request.kinds, IsLegible settings s request.script kind) :
    request.answer s ≠ none := by
  have regime : Regime settings (Tells settings s.machine.toolbox)
      (Continues settings s.machine (StaysReadable settings s.machine.disk))
      (Remembers (fun _ _ => True) s.Recalls) fun _ _ => True :=
    regime_continues _ (fun grows readable made => h.readable_made grows readable made)
      fun _ _ _ _ _ _ _ => trivial
  have holds : s.Holds settings
      (Continues settings s.machine (StaysReadable settings s.machine.disk))
      (Remembers (fun _ _ => True) s.Recalls) := by
    refine h.holds (fun _ _ _ _ first => first) fun cache hc => ⟨fun _ => trivial, ?_⟩
    rintro key ⟨cache', hc', kept⟩
    rw [Option.some.inj (hc.symm.trans hc')]
    exact kept
  obtain ⟨found, given⟩ := Option.ne_none_iff_exists'.mp without
  have reports := answer_uncached h.ready regime holds request
  rw [given] at reports
  refine Session.answer_ne_none h.ready regime h.caching cached
    (fun kind _ => h.admits_readable _ request.script kind) holds reports keep ?_
  intro kind applies disk readable folder keeps key has missing
  obtain ⟨place, resolved, -⟩ := accepts_iff.mp (h.ready folder keeps).1 key has.isKey
  exact readable folder keeps has.isKey
    (exists_readEntry resolved (legible kind applies key has missing folder keeps))

/-! ## A file that is spoilt -/

/-- The result is kept under another key. -/
def Avoids (key other : String) (_ : AnalysisResult) : Prop :=
  other ≠ key

variable {first : Machine} {folder : Path} {key : String} {script : Script} {kind : AnalyzerKind}

/-- A file stays spoilt, and nothing is found in it. -/
theorem regime_spoilt (given : folder ∈ keptIn settings) :
    Regime settings (Tells settings first.toolbox)
      (Continues settings first (IsSpoilt · (fileFor folder key)))
      (Remembers (Avoids key) fun _ => False) (Avoids key) := by
  refine regime_continues _ (fun _ before made => ?_) ?_
  · obtain ⟨content, read, spoilt⟩ := before
    have adds := (provides_of_ensureFolders made).adds
    exact ⟨content, read_of_addsFolders adds read, spoilt⟩
  · rintro disk spoilt folder' given' other r - found rfl
    rw [Option.some.inj (given'.symm.trans given), spoilt.readEntry_eq] at found
    cases found

/-- An analysis that has to look in the file never gives a result. -/
theorem not_answers_of_spoilt (given : folder ∈ keptIn settings)
    (has : HasKey settings first.toolbox script kind key)
    {mem : List (String × AnalysisResult) → Prop} (r : AnalysisResult) :
    ¬ Answers settings (Tells settings first.toolbox)
      (Continues settings first (IsSpoilt · (fileFor folder key))) mem (Avoids key) script kind
      r := by
  intro answers
  obtain ⟨version, other, has', named, isRight⟩ := answers.source
  have same : other = key := HasKey.unique ⟨answers.content, version, has', named⟩ has
  subst same
  rcases isRight with apart | ⟨-, -, -, unfound⟩
  · exact apart rfl
  · obtain ⟨m, continues, nothing⟩ := unfound folder given
    rw [continues.files.readEntry_eq] at nothing
    cases nothing

/-- An analysis with another key writes another file. -/
theorem admits_spoilt (given : folder ∈ keptIn settings) (isKey : IsKey key)
    (other : ¬ HasKey settings first.toolbox script kind key) :
    Admits settings (Tells settings first.toolbox)
      (Continues settings first (IsSpoilt · (fileFor folder key))) (Avoids key) script kind := by
  have apart {version key' : String} (content : script.checkContent = .ok ())
      (has : HasVersion settings (Tells settings first.toolbox) script kind version)
      (named : keyFor script (builtin settings kind) version = .ok key') :
      IsKey key' ∧ key' ≠ key := by
    have has' : HasKey settings first.toolbox script kind key' := ⟨content, version, has, named⟩
    exact ⟨has'.isKey, fun same => other (same ▸ has')⟩
  refine ⟨fun content has named _ _ => (apart content has named).2, ?_⟩
  intro version key' r m folder' disk content has named _ _ continues given' written
  obtain ⟨isKey', key_ne⟩ := apart content has named
  obtain ⟨text, -, wrote⟩ := compactJson_of_writeEntry written
  rw [Option.some.inj (given'.symm.trans given)] at wrote
  obtain ⟨octets, read, spoilt⟩ := continues.files
  have stays := read_of_write_other (isStepName_entryName isKey) (isStepName_entryName isKey')
    (fun names => key_ne (entryName_inj names)) read wrote
  exact ⟨continues.toolbox, continues.mark, continues.versions,
    .written continues.grows given isKey' wrote, octets, stays, spoilt⟩

/-- A request is not answered if one of its analyses has to look in a file that is spoilt. -/
theorem IsOpen.answer_eq_none (h : s.IsOpen settings) (cached : request.useCache)
    (applies : kind ∈ request.kinds)
    (has : HasKey settings s.machine.toolbox request.script kind key) (missing : ¬ s.Recalls key)
    (given : folder ∈ keptIn settings) (spoilt : IsSpoilt s.machine.disk (fileFor folder key)) :
    request.answer s = none := by
  have holds : s.Holds settings
      (Continues settings s.machine (IsSpoilt · (fileFor folder key)))
      (Remembers (Avoids key) fun _ => False) := by
    refine h.holds spoilt fun cache hc => ⟨?_, False.elim⟩
    rintro other r kept rfl
    exact missing ⟨cache, hc, by rw [kept]; exact Option.some_ne_none r⟩
  refine answer_eq_none_of_never (regime_spoilt given) h.caching cached (fun kind' _ => ?_) holds
    applies (not_answers_of_spoilt given has)
  by_cases same : HasKey settings s.machine.toolbox request.script kind' key
  · exact .inr (not_answers_of_spoilt given same)
  · exact .inl (admits_spoilt given has.isKey same)

end

/-- A cache that looks in a file finds a result or nothing if there is text in it, and ends in a
fault otherwise. So a request that is answered without the cache, and whose results can be kept, is
answered from the cache exactly if no file is spoilt that belongs to an analysis whose result is not
in memory. -/
theorem answer_ne_none_iff_isLegible (settings : Settings) :
    (∀ (cache : ResultCache) (disk : Disk) (folder : Path) (key : String) (content : List UInt8),
      cache.folder = some folder → cache.entries.lookup key = none →
      disk.read (fileFor folder key) = .ok content →
      (IsText content → ∃ found cache', cache.get disk key = .ok (found, cache') ∧
        (found = none ∧ cache' = cache ∨
          ∃ r, found = some r ∧ cache' = cache.remember key r)) ∧
      (¬ IsText content → cache.get disk key = .error .notText)) ∧
    ∀ (s : Session) (request : Request), s.IsOpen settings →
      request.useCache → request.uncached.answer s ≠ none →
      (∀ kind ∈ request.kinds, CanKeep settings s request.script kind) →
      (request.answer s ≠ none ↔
        ∀ kind ∈ request.kinds, IsLegible settings s request.script kind) := by
  refine ⟨fun _ _ _ _ _ given missing read => get_of_read given missing read, ?_⟩
  intro s request h cached without keep
  refine ⟨?_, h.answer_ne_none cached without keep⟩
  intro answered kind applies key has missing folder given spoilt
  exact answered (h.answer_eq_none cached applies has missing given spoilt)

/-- A session that keeps results in files at the root, with a file for one key. -/
def withEntry (toolbox : Toolbox) (key : String) (content : List UInt8) : Session :=
  let settings : Settings := { Settings.atRoot with persistCache := true }
  let disk := Disk.put ⟨[], [(["cache"], .folder)]⟩ ["cache", entryName key] (.file content false)
  ⟨settings, builtinAnalyzers settings, some ⟨some ⟨1, ["cache"]⟩, []⟩,
    { toolbox, disk, temporaryMark := "0" }⟩

section

variable (toolbox : Toolbox) (key : String) (content : List UInt8)

theorem leads_withEntry :
    (withEntry toolbox key content).machine.disk.LeadsToFolder ⟨1, ["cache"]⟩ := by
  have missing : Disk.entry? ⟨[], [(["cache"], .folder)]⟩ ["cache", entryName key] = none := rfl
  exact ((startsEmpty_atRoot toolbox).leads rfl).mono (keepsFolders_put (by simp [missing]) _)

theorem isOpen_withEntry :
    IsOpen { Settings.atRoot with persistCache := true } (withEntry toolbox key content) := by
  have leads := leads_withEntry toolbox key content
  refine ⟨rfl, rfl, rfl, ⟨[], rfl⟩, fun noted => (nomatch noted), ?_,
    isReady_of_apart fun folder given => ?_⟩
  · rintro folder ⟨⟩
    exact leads
  cases given
  refine ⟨leads, by decide, by decide, fun other => ⟨?_, ?_⟩⟩
  · change Disk.entry? (Disk.put _ _ _) ["cache", entryName other] ≠ _
    rw [entry?_put _ (by simp)]
    split <;> nofun
  · change ["cache", entryName other] ∉ [[], ["tmp"]]
    simp

theorem read_withEntry (isKey : IsKey key) :
    (withEntry toolbox key content).machine.disk.read (fileFor ⟨1, ["cache"]⟩ key) =
      .ok content := by
  have start := startsEmpty_atRoot toolbox
  obtain ⟨place, resolved, noFolder⟩ := accepts_iff.mp (start.ready _ rfl).1 key isKey
  have placed : place = ["cache", entryName key] :=
    placeFor_of_resolve (start.leads rfl) isKey resolved
  subst placed
  exact read_put noFolder resolved

end

/-- The key for the check of a script by a tool that tells nothing about its version. -/
theorem hasKey_pass :
    let script : Script := ⟨"s", .python3, none, "pass\n", [], true⟩
    HasKey { Settings.atRoot with persistCache := true }
      ⟨fun name => some ("/bin/" ++ name), fun _ => .finished [] [] 0⟩ script .parses
      (ResultCache.key script.fingerprint .parses "syntax/1+python3:unknown") := by
  have content : (⟨"s", .python3, none, "pass\n", [], true⟩ : Script).checkContent = .ok () := by
    with_unfolding_all rfl
  exact hasKey_of_hasVersion content ⟨"unknown", rfl, rfl⟩ fun words basis => (nomatch basis)

/-- A file with text that is no result does not keep a script from its report. -/
theorem answer_ne_none_of_text :
    let toolbox : Toolbox := ⟨fun name => some ("/bin/" ++ name), fun _ => .finished [] [] 0⟩
    let settings : Settings := { Settings.atRoot with persistCache := true }
    let request : Request := ⟨⟨"s", .python3, none, "pass\n", [], true⟩, .default .python3, true⟩
    let key := ResultCache.key request.script.fingerprint .parses "syntax/1+python3:unknown"
    let content := Text.Utf8.encodeString "nothing"
    let s := withEntry toolbox key content
    s.IsOpen settings ∧ request.uncached.answer s ≠ none ∧
      (∀ kind ∈ request.kinds, CanKeep settings s request.script kind) ∧
      s.machine.disk.read (fileFor ⟨1, ["cache"]⟩ key) = .ok content ∧
      request.answer s ≠ none := by
  intro toolbox settings request key content s
  have isOpen : s.IsOpen settings := isOpen_withEntry _ _ _
  have without : request.uncached.answer s ≠ none := by
    rw [← Option.isSome_iff_ne_none]
    decide +kernel
  have kinds : request.kinds = [.parses] := by decide
  have has : HasKey settings toolbox request.script .parses key := hasKey_pass
  have read := read_withEntry toolbox key content has.isKey
  have keep : ∀ kind ∈ request.kinds, CanKeep settings s request.script kind := by
    intro kind applies
    rw [kinds, List.mem_singleton] at applies
    subst applies
    refine ⟨fun words basis => (nomatch basis), fun tool asks => ⟨"unknown", ?_⟩,
      fun _ _ => .inr (isWritable_of_isOk (by decide +kernel))⟩
    cases asks
    rfl
  refine ⟨isOpen, without, keep, read, ?_⟩
  refine ((answer_ne_none_iff_isLegible settings).2 s request isOpen rfl without keep).mpr ?_
  rintro kind applies key' has' - folder given ⟨content', read', spoilt⟩
  rw [kinds, List.mem_singleton] at applies
  subst applies
  cases given
  rw [← has.unique has'] at read'
  rw [Except.ok.inj (read'.symm.trans read)] at spoilt
  exact spoilt (isText_encodeString "nothing")

/-- A file with octets that are no text keeps a script from its report, which it would get without
the cache. -/
theorem answer_eq_none_of_octet :
    let toolbox : Toolbox := ⟨fun name => some ("/bin/" ++ name), fun _ => .finished [] [] 0⟩
    let settings : Settings := { Settings.atRoot with persistCache := true }
    let request : Request := ⟨⟨"s", .python3, none, "pass\n", [], true⟩, .default .python3, true⟩
    let key := ResultCache.key request.script.fingerprint .parses "syntax/1+python3:unknown"
    let s := withEntry toolbox key [0xFF]
    let cache : ResultCache := ⟨some ⟨1, ["cache"]⟩, []⟩
    s.cache = some cache ∧
      s.machine.disk.read (fileFor ⟨1, ["cache"]⟩ key) = .ok [0xFF] ∧
      cache.get s.machine.disk key = .error .notText ∧
      s.IsOpen settings ∧ request.uncached.answer s ≠ none ∧ request.answer s = none := by
  intro toolbox settings request key s cache
  have isOpen : s.IsOpen settings := isOpen_withEntry _ _ _
  have has : HasKey settings toolbox request.script .parses key := hasKey_pass
  have read := read_withEntry toolbox key [0xFF] has.isKey
  have spoilt : ¬ IsText [0xFF] := by
    rintro ⟨text, octets⟩
    have decoded := Text.Utf8.decode?_eq_some_iff.mpr octets
    cases decoded
  have without : (request.uncached.answer s).isSome := by decide +kernel
  refine ⟨rfl, read, (get_of_read rfl rfl read).2 spoilt, isOpen,
    Option.isSome_iff_ne_none.mp without, ?_⟩
  refine isOpen.answer_eq_none rfl (by decide) has ?_ rfl ⟨[0xFF], read, spoilt⟩
  rintro ⟨cache', hc, kept⟩
  cases hc
  exact kept rfl

end Session

end ScriptVet
