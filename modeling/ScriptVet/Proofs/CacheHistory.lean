import Mathlib.Data.List.Induction
import ScriptVet.Proofs.CacheFiles
import ScriptVet.Proofs.Files.Entries
import ScriptVet.Proofs.ResultData

/-!
# What a cache answers after a history

A cache with a folder of its own is meant to be a finite map that outlives the program: under a key
there is what was put last since the cache was cleared, unless that was skipped. This holds as far
as memory reaches. Once the cache was opened again it only knows what it can read from its files,
and results whose text the strict reader refuses are written all the same. Those are lost then, and
nothing else is.
-/

namespace ScriptVet.ResultCache

open Disk

/-- What is done with a cache. -/
inductive Operation where
  | put (key : String) (result : AnalysisResult)
  | get (key : String)
  | clear
  /-- A new cache begins in the same folder. -/
  | reopen

namespace Operation

/-- Does it, on the disk that the cache works on. -/
def take : Operation → ResultCache × Disk → Result (ResultCache × Disk)
  | .put key r, (cache, disk) =>
    let (cache, written) := cache.put disk key r
    written.map (cache, ·)
  | .get key, (cache, disk) => (cache.get disk key).map fun (_, cache) => (cache, disk)
  | .clear, (cache, disk) =>
    let (cache, cleared) := cache.clear disk
    (cleared.mapError .disk).map (cache, ·)
  | .reopen, (cache, disk) => (start cache.folder disk).mapError .disk

/-- What a map holds under a key afterwards. -/
def update (key : String) : Operation → Option AnalysisResult → Option AnalysisResult
  | .put key' r, held => if key' = key ∧ r.status ≠ .skipped then some r else held
  | .clear, _ => none
  | .get _, held | .reopen, held => held

/-- What is held under a key afterwards by a map that begins anew with every cache. -/
def updateRecent (key : String) : Operation → Option AnalysisResult → Option AnalysisResult
  | .reopen, _ => none
  | operation, held => operation.update key held

/-- Keys are digests, and results that are kept hold plain metadata and can be written. -/
def IsAllowed : Operation → Prop
  | .put key r =>
    IsKey key ∧ (r.status ≠ .skipped → r.IsPlain ∧ ∃ text, r.compactJson = .ok text)
  | .get key => IsKey key
  | .clear | .reopen => True

end Operation

/-- Does one thing after the other. -/
def takeAll (history : List Operation) (state : ResultCache × Disk) :
    Result (ResultCache × Disk) :=
  history.foldlM (fun state operation => operation.take state) state

/-- The result last put under a key since the cache was cleared. -/
def lastPut (history : List Operation) (key : String) : Option AnalysisResult :=
  history.foldl (fun held operation => operation.update key held) none

/-- The same, if it was put into the cache that is open. -/
def recentPut (history : List Operation) (key : String) : Option AnalysisResult :=
  history.foldl (fun held operation => operation.updateRecent key held) none

theorem lastPut_append (history : List Operation) (operation : Operation) (key : String) :
    lastPut (history ++ [operation]) key = operation.update key (lastPut history key) := by
  rw [lastPut, List.foldl_append]
  rfl

theorem recentPut_append (history : List Operation) (operation : Operation) (key : String) :
    recentPut (history ++ [operation]) key =
      operation.updateRecent key (recentPut history key) := by
  rw [recentPut, List.foldl_append]
  rfl

/-- Skipped results are never held. -/
theorem not_skipped_of_lastPut {history : List Operation} {key : String} {r : AnalysisResult}
    (held : lastPut history key = some r) : r.status ≠ .skipped := by
  induction history using List.reverseRecOn with
  | nil => cases held
  | append_singleton history operation ih =>
      rw [lastPut_append] at held
      cases operation with
      | put key' r' =>
          rw [Operation.update] at held
          split at held
          · next stored =>
            cases held
            exact stored.2
          · exact ih held
      | get key' => exact ih held
      | clear => cases held
      | reopen => exact ih held

/-- A cache was opened in a folder that holds nothing and takes every entry. -/
structure OpensEmpty (folder : Path) (cache : ResultCache) (disk : Disk) : Prop where
  opened : ∃ before, start (some folder) before = .ok (cache, disk)
  empty : ∀ place, disk.resolve folder = .ok place → disk.entriesIn place = []
  accepts : Accepts disk folder

/-- The place of the folder of a cache. -/
def folderPlace (disk : Disk) (folder : Path) : Place :=
  target (disk.start folder) folder.parts

theorem resolve_folderPlace {disk : Disk} {folder : Path} (leads : disk.LeadsToFolder folder) :
    disk.resolve folder = .ok (folderPlace disk folder) := by
  obtain ⟨place, resolved⟩ := leads.resolves
  obtain ⟨-, walked⟩ := resolve_eq_ok_iff.mp resolved
  rw [resolved, (walk_eq_ok_iff.mp walked).1]
  rfl

theorem folderPlace_congr {disk disk' : Disk} (working : disk'.working = disk.working)
    (folder : Path) : folderPlace disk' folder = folderPlace disk folder := by
  rw [folderPlace, folderPlace, Disk.start, Disk.start, working]

/-- Where every entry can be written, what is found under a key is what is at its place. -/
theorem readEntry_of_accepts {disk : Disk} {folder : Path} (leads : disk.LeadsToFolder folder)
    (accepts : Accepts disk folder) {key : String} (isKey : IsKey key) :
    readEntry disk (fileFor folder key) = readAt disk (placeFor disk folder key) := by
  obtain ⟨place, resolved, -⟩ := accepts_iff.mp accepts key isKey
  rw [readEntry_of_resolve resolved, placeFor_of_resolve leads isKey resolved]

/-- Where every entry can be written, it still can after one was. -/
theorem Accepts.write {disk disk' : Disk} {folder : Path} (accepts : Accepts disk folder) {p : Path}
    {content : List UInt8} (written : disk.write p content = .ok disk') : Accepts disk' folder := by
  refine accepts.mono (keepsFolders_of_write written) fun key isKey place _ noFolder => ?_
  obtain ⟨there, executable, -, proper, rfl⟩ := put_of_write written
  rw [entry?_put disk (ne_nil_of_not_folder proper)]
  split
  · simp
  · exact noFolder

/-- A cache and its files after a history. What is in memory is what was put last, and all that was
put recently is there. In the files there is what can be read of what was put last. -/
structure Mirrors (folder : Path) (history : List Operation) (cache : ResultCache) (disk : Disk) :
    Prop where
  given : cache.folder = some folder
  leads : disk.LeadsToFolder folder
  accepts : Accepts disk folder
  files : disk.HoldsFiles (folderPlace disk folder)
  memory : ∀ {key r}, cache.entries.lookup key = some r →
    lastPut history key = some r ∧ (recentPut history key = some r ∨ r.IsReadable)
  recent : ∀ {key r}, recentPut history key = some r → cache.entries.lookup key = some r
  stored : ∀ {key}, IsKey key → readEntry disk (fileFor folder key) =
    .ok ((lastPut history key).filter (decide ·.IsReadable))

theorem mirrors_of_opensEmpty {folder : Path} {cache : ResultCache} {disk : Disk}
    (h : OpensEmpty folder cache disk) : Mirrors folder [] cache disk := by
  obtain ⟨before, opened⟩ := h.opened
  obtain ⟨disk', made, same⟩ := Result.map_eq_ok.mp opened
  cases same
  have leads := (provides_of_ensureFolders made).leads
  have empty := h.empty _ (resolve_folderPlace leads)
  refine ⟨rfl, leads, h.accepts, ?_, nofun, nofun, ?_⟩
  · intro name listed
    rw [empty] at listed
    cases listed
  · intro key isKey
    have missing : disk.entry? (placeFor disk folder key) = none := by
      cases there : disk.entry? (placeFor disk folder key) with
      | none => rfl
      | some entry =>
          have listed := mem_entriesIn_of_found there
          rw [← folderPlace, empty] at listed
          cases listed
    rw [readEntry_of_accepts leads h.accepts isKey, readAt, missing]
    rfl

variable {folder : Path} {history : List Operation} {cache : ResultCache} {disk : Disk}

/-- Of a history only that matters which was put. -/
theorem Mirrors.congr (h : Mirrors folder history cache disk) {history' : List Operation}
    (last : ∀ key, lastPut history' key = lastPut history key)
    (recent : ∀ key, recentPut history' key = recentPut history key) :
    Mirrors folder history' cache disk where
  given := h.given
  leads := h.leads
  accepts := h.accepts
  files := h.files
  memory found := by
    rw [last, recent]
    exact h.memory found
  recent put := h.recent ((recent _).symm.trans put)
  stored isKey := by
    rw [last]
    exact h.stored isKey

/-- A skipped result changes nothing. -/
theorem Mirrors.put_skipped (h : Mirrors folder history cache disk) (key : String)
    {r : AnalysisResult} (skipped : r.status = .skipped) :
    Mirrors folder (history ++ [.put key r]) cache disk := by
  refine h.congr (fun key' => ?_) fun key' => ?_
  · rw [lastPut_append, Operation.update, if_neg (by simp [skipped])]
  · rw [recentPut_append, Operation.updateRecent, Operation.update, if_neg (by simp [skipped])]
    exact fun reopened => by cases reopened

/-- A result that is written is in memory, and in its file as far as it can be read. -/
theorem Mirrors.put (h : Mirrors folder history cache disk) {key : String} (isKey : IsKey key)
    {r : AnalysisResult} (made : r.status ≠ .skipped) (plain : r.IsPlain) {text : String}
    (rendered : r.compactJson = .ok text) {disk' : Disk}
    (written : disk.write (fileFor folder key) (Text.Utf8.encodeString text) = .ok disk') :
    Mirrors folder (history ++ [.put key r]) (cache.remember key r) disk' := by
  have last (key' : String) : lastPut (history ++ [.put key r]) key' =
      if key' = key then some r else lastPut history key' := by
    rw [lastPut_append, Operation.update]
    simp only [made, ne_eq, not_false_eq_true, and_true, eq_comm]
  have recent (key' : String) : recentPut (history ++ [.put key r]) key' =
      if key' = key then some r else recentPut history key' := by
    rw [recentPut_append, Operation.updateRecent, Operation.update]
    · simp only [made, ne_eq, not_false_eq_true, and_true, eq_comm]
    · exact nofun
  have keeps := keepsFolders_of_write written
  refine ⟨h.given, h.leads.mono keeps, h.accepts.write written, ?_, ?_, ?_, ?_⟩
  · rw [folderPlace_congr keeps.working]
    exact h.files.write written
  · intro key' r' found
    rw [last, recent]
    by_cases same : key' = key
    · rw [same, remember, Keyed.lookup_put_self] at found
      rw [if_pos same, if_pos same]
      exact ⟨found, .inl found⟩
    · rw [remember, Keyed.lookup_put_of_ne same] at found
      rw [if_neg same, if_neg same]
      exact h.memory found
  · intro key' r' put
    rw [recent] at put
    by_cases same : key' = key
    · rw [if_pos same] at put
      rw [same, remember, Keyed.lookup_put_self]
      exact put
    · rw [if_neg same] at put
      rw [remember, Keyed.lookup_put_of_ne same]
      exact h.recent put
  · intro key' isKey'
    rw [last, readEntry_of_write h.leads isKey isKey' written]
    by_cases same : key' = key
    · rw [if_pos same, if_pos same, readResult_eq_of_isPlain plain rendered, Option.filter_some]
      simp only [decide_eq_true_eq]
    · rw [if_neg same, if_neg same]
      exact h.stored isKey'

/-- A result that was read from its file is kept in memory as well. -/
theorem Mirrors.remember (h : Mirrors folder history cache disk) {key : String}
    {r : AnalysisResult} (last : lastPut history key = some r) (readable : r.IsReadable)
    (notRecent : recentPut history key = none) :
    Mirrors folder history (cache.remember key r) disk := by
  refine ⟨h.given, h.leads, h.accepts, h.files, ?_, ?_, h.stored⟩
  · intro key' r' found
    by_cases same : key' = key
    · rw [same, ResultCache.remember, Keyed.lookup_put_self] at found
      cases found
      rw [same]
      exact ⟨last, .inr readable⟩
    · rw [ResultCache.remember, Keyed.lookup_put_of_ne same] at found
      exact h.memory found
  · intro key' r' put
    have other : key' ≠ key := by
      intro same
      rw [same, notRecent] at put
      cases put
    rw [ResultCache.remember, Keyed.lookup_put_of_ne other]
    exact h.recent put

/-- What is found is what was put last, unless it was put before the cache was opened and cannot be
read. -/
structure Answers (history : List Operation) (key : String) (found : Option AnalysisResult) :
    Prop where
  last : found = lastPut history key ∨ found = none
  whole : found = lastPut history key ↔
    ∀ r, lastPut history key = some r → recentPut history key = some r ∨ r.IsReadable

theorem answers_of_lastPut {key : String} {r : AnalysisResult}
    (last : lastPut history key = some r)
    (held : recentPut history key = some r ∨ r.IsReadable) : Answers history key (some r) where
  last := .inl last.symm
  whole := by
    refine iff_of_true last.symm fun r' last' => ?_
    rw [last] at last'
    cases last'
    exact held

theorem answers_of_never {key : String} (last : lastPut history key = none) :
    Answers history key none where
  last := .inr rfl
  whole := iff_of_true last.symm (by rw [last]; nofun)

/-- Nothing is found of what can neither be remembered nor read. -/
theorem answers_of_lost {key : String} {r : AnalysisResult} (last : lastPut history key = some r)
    (notRecent : recentPut history key = none) (unreadable : ¬ r.IsReadable) :
    Answers history key none where
  last := .inr rfl
  whole := by
    refine iff_of_false (by rw [last]; nofun) fun all => ?_
    rcases all r last with put | readable
    · rw [notRecent] at put
      cases put
    · exact unreadable readable

/-- Looking a key up gives the answer and changes memory at most to what is right. -/
theorem Mirrors.get (h : Mirrors folder history cache disk) {key : String} (isKey : IsKey key) :
    ∃ found cache', cache.get disk key = .ok (found, cache') ∧ Answers history key found ∧
      Mirrors folder (history ++ [.get key]) cache' disk := by
  have unchanged : Mirrors folder (history ++ [.get key]) cache disk :=
    h.congr (lastPut_append history _) (recentPut_append history _)
  cases kept : cache.entries.lookup key with
  | some r =>
      obtain ⟨last, held⟩ := h.memory kept
      exact ⟨some r, cache, get_of_kept kept disk, answers_of_lastPut last held, unchanged⟩
  | none =>
      have notRecent : recentPut history key = none := by
        cases put : recentPut history key with
        | none => rfl
        | some r => cases kept.symm.trans (h.recent put)
      have got := get_of_not_kept kept disk
      rw [h.given] at got
      simp only [h.stored isKey] at got
      cases last : lastPut history key with
      | none =>
          rw [last] at got
          exact ⟨none, cache, got, answers_of_never last, unchanged⟩
      | some r =>
          by_cases readable : r.IsReadable
          · simp only [last, Option.filter_some, readable, decide_true, if_true] at got
            exact ⟨some r, _, got, answers_of_lastPut last (.inr readable),
              unchanged.remember ((lastPut_append history _ key).trans last) readable
                ((recentPut_append history _ key).trans notRecent)⟩
          · simp only [last, Option.filter_some, readable, decide_false, Bool.false_eq_true,
              if_false] at got
            exact ⟨none, cache, got, answers_of_lost last notRecent readable, unchanged⟩

/-- The places of the files that are removed when a cache is cleared. -/
def clearedPlaces (disk : Disk) (place : Place) : List Place :=
  ((disk.entriesIn place).filter (isEntryName ·.1)).map fun (name, _) => place ++ [name]

/-- The disk without them. -/
def cleared (disk : Disk) (place : Place) : Disk :=
  disk.dropAll (clearedPlaces disk place)

/-- A folder that holds nothing but files is cleared of the entries. -/
theorem clearFolder_of_holdsFiles (leads : disk.LeadsToFolder folder)
    (files : disk.HoldsFiles (folderPlace disk folder)) :
    clearFolder disk folder = .ok (cleared disk (folderPlace disk folder)) := by
  have noFolder : ((disk.entriesIn (folderPlace disk folder)).filter (isEntryName ·.1)).find?
      (·.2 == .folder) = none := by
    rw [List.find?_eq_none]
    rintro ⟨name, entry⟩ listed folder
    have same : entry = .folder := eq_of_beq folder
    exact files name (same ▸ (List.mem_filter.mp listed).1)
  rw [clearFolder, resolve_folderPlace leads]
  simp only [noFolder, cleared, clearedPlaces, dropAll, List.foldl_map]

theorem entry?_cleared (disk : Disk) (place q : Place) :
    entry? (cleared disk place) q =
      if q ∈ clearedPlaces disk place then none else disk.entry? q :=
  entry?_dropAll disk (by simp [clearedPlaces]) q

/-- Every entry that is there is removed. -/
theorem mem_clearedPlaces {key : String} {entry : Entry}
    (there : disk.entry? (placeFor disk folder key) = some entry) :
    placeFor disk folder key ∈ clearedPlaces disk (folderPlace disk folder) := by
  refine List.mem_map.mpr ⟨(entryName key, entry), List.mem_filter.mpr ⟨?_, ?_⟩, rfl⟩
  · exact mem_entriesIn_of_found there
  · rw [isEntryName, entryName, String.toList_append, List.isSuffixOf_iff_suffix]
    exact List.suffix_append _ _

theorem entry?_cleared_placeFor (disk : Disk) (folder : Path) (key : String) :
    entry? (cleared disk (folderPlace disk folder)) (placeFor disk folder key) = none := by
  rw [entry?_cleared]
  cases there : disk.entry? (placeFor disk folder key) with
  | none => exact ite_self none
  | some entry => rw [if_pos (mem_clearedPlaces there)]

/-- Only files are removed. -/
theorem keepsFolders_cleared (files : disk.HoldsFiles (folderPlace disk folder)) :
    disk.KeepsFolders (cleared disk (folderPlace disk folder)) where
  working := working_dropAll disk _
  folders q there := by
    rw [entry?_cleared, if_neg]
    · exact there
    · intro removed
      obtain ⟨⟨name, entry⟩, -, rfl⟩ := List.mem_map.mp removed
      exact files.not_folder name there

/-- Clearing leaves nothing, in memory and in files. -/
theorem Mirrors.clear (h : Mirrors folder history cache disk) :
    Mirrors folder (history ++ [.clear]) { cache with entries := [] }
      (cleared disk (folderPlace disk folder)) := by
  have keeps := keepsFolders_cleared h.files
  have accepts : Accepts (cleared disk (folderPlace disk folder)) folder := by
    refine h.accepts.mono keeps fun key isKey q _ noFolder => ?_
    rw [entry?_cleared]
    split
    · nofun
    · exact noFolder
  have last (key : String) : lastPut (history ++ [.clear]) key = none := lastPut_append _ _ _
  have recent (key : String) : recentPut (history ++ [.clear]) key = none :=
    recentPut_append _ _ _
  refine ⟨h.given, h.leads.mono keeps, accepts, ?_, nofun, ?_, ?_⟩
  · rw [folderPlace_congr keeps.working]
    intro name there
    exact h.files name (mem_entriesIn_iff.mpr
      (entries_dropAll_subset disk _ (mem_entriesIn_iff.mp there)))
  · intro key r put
    rw [recent] at put
    cases put
  · intro key isKey
    rw [last, readEntry_of_accepts (h.leads.mono keeps) accepts isKey, readAt,
      placeFor_congr keeps.working, entry?_cleared_placeFor]
    rfl

/-- A new cache has forgotten what could not be read. -/
theorem Mirrors.reopen (h : Mirrors folder history cache disk) :
    Mirrors folder (history ++ [.reopen]) ⟨some folder, []⟩ disk := by
  have last (key : String) : lastPut (history ++ [.reopen]) key = lastPut history key :=
    lastPut_append _ _ _
  have recent (key : String) : recentPut (history ++ [.reopen]) key = none :=
    recentPut_append _ _ _
  refine ⟨rfl, h.leads, h.accepts, h.files, nofun, ?_, ?_⟩
  · intro key r put
    rw [recent] at put
    cases put
  · intro key isKey
    rw [last]
    exact h.stored isKey

/-- Whatever is done with a cache, it can be done, and memory and files go on to agree with the
history. -/
theorem Mirrors.take (h : Mirrors folder history cache disk) {operation : Operation}
    (allowed : operation.IsAllowed) :
    ∃ cache' disk', operation.take (cache, disk) = .ok (cache', disk') ∧
      Mirrors folder (history ++ [operation]) cache' disk' := by
  cases operation with
  | put key r =>
      obtain ⟨isKey, writable⟩ := allowed
      by_cases skipped : r.status = .skipped
      · refine ⟨cache, disk, ?_, h.put_skipped key skipped⟩
        rw [Operation.take, ResultCache.put, if_pos skipped]
        rfl
      · obtain ⟨plain, text, rendered⟩ := writable skipped
        obtain ⟨disk', written⟩ := writeEntry_of_accepts h.accepts isKey rendered
        obtain ⟨text', rendered', wrote⟩ := compactJson_of_writeEntry written
        refine ⟨cache.remember key r, disk', ?_, h.put isKey skipped plain rendered' wrote⟩
        rw [Operation.take, ResultCache.put, if_neg skipped, h.given]
        simp only [written]
        rfl
  | get key =>
      obtain ⟨found, cache', got, -, mirrors⟩ := h.get allowed
      refine ⟨cache', disk, ?_, mirrors⟩
      rw [Operation.take, got]
      rfl
  | clear =>
      refine ⟨_, _, ?_, h.clear⟩
      rw [Operation.take, ResultCache.clear, h.given]
      simp only [Option.elim, clearFolder_of_holdsFiles h.leads h.files]
      rfl
  | reopen =>
      refine ⟨_, disk, ?_, h.reopen⟩
      rw [Operation.take, h.given, start]
      simp only [ensureFolders_of_leadsToFolder h.leads]
      rfl

theorem Mirrors.takeAll (h : Mirrors folder history cache disk) {more : List Operation}
    (allowed : ∀ operation ∈ more, operation.IsAllowed) :
    ∃ cache' disk', takeAll more (cache, disk) = .ok (cache', disk') ∧
      Mirrors folder (history ++ more) cache' disk' := by
  induction more generalizing history cache disk with
  | nil => exact ⟨cache, disk, rfl, by rwa [List.append_nil]⟩
  | cons operation more ih =>
      rw [List.forall_mem_cons] at allowed
      obtain ⟨cache', disk', took, mirrors⟩ := h.take allowed.1
      obtain ⟨cache'', disk'', tookAll, mirrors'⟩ := ih mirrors allowed.2
      refine ⟨cache'', disk'', ?_, by rwa [List.append_assoc] at mirrors'⟩
      rw [ResultCache.takeAll, List.foldlM_cons, took]
      exact tookAll

/-- A folder whose path is not too long takes every entry when it holds nothing. -/
theorem opensEmpty_of_short {before : Disk}
    (opened : start (some folder) before = .ok (cache, disk))
    (empty : ∀ place, disk.resolve folder = .ok place → disk.entriesIn place = [])
    (named : folder.parts ≠ []) (short : folder.toString.utf8ByteSize + 70 ≤ pathLimit) :
    OpensEmpty folder cache disk := by
  refine ⟨⟨before, opened⟩, empty, ?_⟩
  obtain ⟨disk', made, same⟩ := Result.map_eq_ok.mp opened
  cases same
  have leads := (provides_of_ensureFolders made).leads
  refine accepts_of_leadsToFolder leads named short fun key _ there => ?_
  have listed := mem_entriesIn_of_found there
  rw [← folderPlace, empty _ (resolve_folderPlace leads)] at listed
  cases listed

/-- After any history a key can be looked up. What is found is never a result that was skipped. It
is what was put last since the cache was cleared, or nothing, and it is what was put last exactly if
that was put into the cache that is open or can be read from its file. -/
theorem get_after_history (h : OpensEmpty folder cache disk) {history : List Operation}
    (allowed : ∀ operation ∈ history, operation.IsAllowed) :
    ∃ cache' disk', takeAll history (cache, disk) = .ok (cache', disk') ∧
      ∀ key, IsKey key → ∃ found cache'', cache'.get disk' key = .ok (found, cache'') ∧
        (∀ r, found = some r → r.status ≠ .skipped) ∧
        (found = lastPut history key ∨ found = none) ∧
        (found = lastPut history key ↔ ∀ r, lastPut history key = some r →
          recentPut history key = some r ∨ r.IsReadable) := by
  obtain ⟨cache', disk', took, mirrors⟩ := (mirrors_of_opensEmpty h).takeAll allowed
  refine ⟨cache', disk', took, fun key isKey => ?_⟩
  obtain ⟨found, cache'', got, answers, -⟩ := mirrors.get isKey
  refine ⟨found, cache'', got, fun r given => ?_, answers.last, answers.whole⟩
  rcases answers.last with last | nothing
  · exact not_skipped_of_lastPut (last.symm.trans given)
  · rw [given] at nothing
    cases nothing

/-- A cache that begins in a new folder at the root. -/
theorem opensEmpty_atRoot :
    OpensEmpty ⟨1, ["cache"]⟩ ⟨some ⟨1, ["cache"]⟩, []⟩ ⟨[], [(["cache"], .folder)]⟩ := by
  have opened : start (some ⟨1, ["cache"]⟩) (Disk.empty []) =
      .ok (⟨some ⟨1, ["cache"]⟩, []⟩, ⟨[], [(["cache"], .folder)]⟩) := by
    with_unfolding_all rfl
  refine opensEmpty_of_short opened (fun place resolved => ?_) (by decide) (by decide)
  have place_eq : place = ["cache"] := by
    rw [resolve_folderPlace ⟨⟨_, resolved⟩, by decide⟩] at resolved
    exact (Except.ok.inj resolved).symm
  rw [place_eq]
  rfl

/-- A result is found again by a cache that is opened later, and a cleared one is not. -/
theorem get_after_reopen :
    let folder : Path := ⟨1, ["cache"]⟩
    let state : ResultCache × Disk := (⟨some folder, []⟩, ⟨[], [(["cache"], .folder)]⟩)
    let found := AnalysisResult.ofFindings .lint [⟨.lintError, "unused", none, some "SC2034"⟩]
      [("tool", .str "shellcheck")]
    let lost := AnalysisResult.ofFindings .parses [] []
    let history : List Operation :=
      [.put (key "a" .parses "1") lost, .clear, .put (key "b" .lint "1") found,
        .put (key "b" .lint "1") (.skipped .lint "tool not found: shellcheck"), .reopen]
    OpensEmpty folder state.1 state.2 ∧ (∀ operation ∈ history, operation.IsAllowed) ∧
      lastPut history (key "b" .lint "1") = some found ∧
      ∃ cache' disk', takeAll history state = .ok (cache', disk') ∧
        ∃ cache'', cache'.get disk' (key "b" .lint "1") = .ok (some found, cache'') := by
  intro folder state found lost history
  have allowed : ∀ operation ∈ history, operation.IsAllowed := by
    simp only [history, List.forall_mem_cons, Operation.IsAllowed]
    have written : ∀ r ∈ [lost, found], ∃ text, r.compactJson = .ok text := by
      simp only [List.forall_mem_cons]
      exact ⟨AnalysisResult.exists_compactJson (by decide) (by decide),
        AnalysisResult.exists_compactJson (by decide) (by decide), nofun⟩
    refine ⟨⟨⟨_, rfl⟩, fun _ => ⟨⟨trivial, .nil⟩, written lost (by simp)⟩⟩, trivial,
      ⟨⟨_, rfl⟩, fun _ => ⟨⟨⟨trivial, trivial⟩, by decide⟩, written found (by simp)⟩⟩,
      ⟨⟨_, rfl⟩, fun made => absurd rfl made⟩, trivial, nofun⟩
  have last : lastPut history (key "b" .lint "1") = some found := by
    have made : found.status ≠ .skipped := by decide
    simp [lastPut, history, Operation.update, made, AnalysisResult.skipped]
  refine ⟨opensEmpty_atRoot, allowed, last, ?_⟩
  obtain ⟨cache', disk', took, answers⟩ := get_after_history opensEmpty_atRoot allowed
  obtain ⟨answer, cache'', got, -, -, whole⟩ := answers (key "b" .lint "1") ⟨_, rfl⟩
  have readable : found.IsReadable := by decide
  have same : answer = some found := by
    rw [← last, whole]
    intro r put
    rw [last] at put
    cases put
    exact .inr readable
  exact ⟨cache', disk', took, cache'', same ▸ got⟩

/-- Arrays around nothing, one in another. -/
def nested : Nat → Json
  | 0 => .null
  | depth + 1 => .arr [nested depth]

theorem isPlain_nested (depth : Nat) : (nested depth).IsPlain := by
  induction depth with
  | zero => trivial
  | succ depth ih => exact ⟨ih, trivial⟩

theorem height_nested (depth : Nat) : (nested depth).height = depth + 1 := by
  induction depth with
  | zero => rfl
  | succ depth ih => rw [nested, Json.height, Json.itemsHeight, Json.itemsHeight, ih, Nat.max_zero]

theorem brokenText?_nested (depth : Nat) : (nested depth).brokenText? = none := by
  induction depth with
  | zero => rfl
  | succ depth ih => rw [nested, Json.brokenText?, Json.brokenItem?, Json.brokenItem?, ih]; rfl

/-- A result that tells something nested. -/
def nestedResult (depth : Nat) : AnalysisResult :=
  .ofFindings .lint [] [("deep", nested depth)]

theorem isPlain_nestedResult (depth : Nat) : (nestedResult depth).IsPlain :=
  ⟨⟨isPlain_nested depth, trivial⟩, by simp [nestedResult, AnalysisResult.ofFindings]⟩

theorem fieldsHeight_nestedResult (depth : Nat) :
    Json.fieldsHeight (nestedResult depth).metadata = depth + 1 := by
  rw [nestedResult, AnalysisResult.ofFindings, Json.fieldsHeight, Json.fieldsHeight, height_nested,
    Nat.max_zero]

/-- The writer goes as deep as 255. -/
theorem compactJson_nestedResult {depth : Nat} (low : depth < 255) :
    ∃ text, (nestedResult depth).compactJson = .ok text := by
  have heights : Json.fieldsHeight (nestedResult depth).metadata ≤ Json.heightLimit := by
    rw [fieldsHeight_nestedResult, Json.heightLimit]
    omega
  have whole : (nestedResult depth).toJson.brokenText? = none := by
    rw [AnalysisResult.toJson,
      Json.finiteFields_of_fieldsPlain _ (isPlain_nestedResult depth).plain]
    simp [nestedResult, AnalysisResult.ofFindings, Json.brokenText?, Json.brokenField?,
      Json.brokenItem?, brokenText?_nested, Json.ofOption]
    decide
  exact AnalysisResult.exists_compactJson heights whole

/-- A result that is written is lost when the cache is opened again, if it is nested deeper than the
reader goes. -/
theorem get_loses_nested :
    let folder : Path := ⟨1, ["cache"]⟩
    let state : ResultCache × Disk := (⟨some folder, []⟩, ⟨[], [(["cache"], .folder)]⟩)
    let history : List Operation := [.put (key "a" .lint "1") (nestedResult 230), .reopen]
    OpensEmpty folder state.1 state.2 ∧ (∀ operation ∈ history, operation.IsAllowed) ∧
      lastPut history (key "a" .lint "1") = some (nestedResult 230) ∧
      ∃ cache' disk', takeAll history state = .ok (cache', disk') ∧
        ∃ cache'', cache'.get disk' (key "a" .lint "1") = .ok (none, cache'') := by
  intro folder state history
  have allowed : ∀ operation ∈ history, operation.IsAllowed := by
    simp only [history, List.forall_mem_cons, Operation.IsAllowed]
    exact ⟨⟨⟨_, rfl⟩, fun _ => ⟨isPlain_nestedResult 230, compactJson_nestedResult (by decide)⟩⟩,
      trivial, nofun⟩
  have made : (nestedResult 230).status ≠ .skipped := by
    simp [nestedResult, AnalysisResult.ofFindings]
  have last : lastPut history (key "a" .lint "1") = some (nestedResult 230) := by
    simp [lastPut, history, Operation.update, made]
  refine ⟨opensEmpty_atRoot, allowed, last, ?_⟩
  obtain ⟨cache', disk', took, mirrors⟩ :=
    (mirrors_of_opensEmpty opensEmpty_atRoot).takeAll allowed
  have isKey : IsKey (key "a" .lint "1") := ⟨_, rfl⟩
  obtain ⟨found, cache'', got, answers, -⟩ := mirrors.get isKey
  rw [List.nil_append] at answers
  have nothing : found = none := by
    rcases answers.last with same | nothing
    · rcases answers.whole.mp same _ last with put | readable
      · cases put
      · have low := readable.1
        rw [fieldsHeight_nestedResult] at low
        omega
    · exact nothing
  exact ⟨cache', disk', took, cache'', nothing ▸ got⟩

end ScriptVet.ResultCache
