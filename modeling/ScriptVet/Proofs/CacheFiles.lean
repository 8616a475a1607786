import ScriptVet.Proofs.Files.Contents
import ScriptVet.Proofs.Files.Folders
import ScriptVet.ResultCache

/-!
# The files of a cache

Every key has a file of its own directly in the folder of the cache. What is found there changes
only when a result is written under the key, or when a folder is made in the place of a missing
file; then nothing is found.
-/

namespace ScriptVet

namespace Text

/-- The digits that numbers in base sixteen are written with. -/
def hexDigits : List Char := "0123456789abcdef".toList

theorem hexDigit_mem {n : Nat} (h : n < 16) : hexDigit n ∈ hexDigits := by
  have all : ∀ n, n < 16 → hexDigit n ∈ hexDigits := by decide
  exact all n h

theorem hexPlaces_subset (places n : Nat) : hexPlaces places n ⊆ hexDigits := by
  induction places generalizing n with
  | zero => exact List.nil_subset _
  | succ places ih =>
      rw [hexPlaces, List.append_subset]
      refine ⟨ih (n / 16), fun c hc => ?_⟩
      rw [List.mem_singleton.mp hc]
      exact hexDigit_mem (Nat.mod_lt n (by decide))

end Text

theorem Sha256.hexDigest_subset (message : List UInt8) :
    (hexDigest message).toList ⊆ Text.hexDigits := by
  rw [hexDigest, String.toList_ofList]
  intro c hc
  obtain ⟨w, -, hw⟩ := List.mem_flatMap.mp hc
  exact Text.hexPlaces_subset 8 w.toNat hw

namespace ResultCache

open Disk

/-- Keys are digests. -/
def IsKey (key : String) : Prop :=
  ∃ message, key = Sha256.hexDigest message

/-- The name of the file for a key. -/
def entryName (key : String) : String :=
  key ++ ".json"

theorem entryName_inj {key other : String} (h : entryName key = entryName other) :
    key = other := by
  rw [entryName, entryName, ← String.toList_inj, String.toList_append, String.toList_append] at h
  exact String.toList_inj.mp (List.append_cancel_right h)

theorem length_entryName {key : String} (h : IsKey key) : (entryName key).length = 69 := by
  obtain ⟨message, rfl⟩ := h
  rw [entryName, String.length_append, Sha256.length_hexDigest]
  rfl

theorem isStepName_entryName {key : String} (h : IsKey key) : IsStepName (entryName key) := by
  have long := length_entryName h
  have other (special : String) (short : special.length ≠ 69) : entryName key ≠ special := by
    intro he
    rw [he] at long
    exact short long
  refine ⟨?_, other "" (by decide), other "." (by decide), other ".." (by decide)⟩
  obtain ⟨message, rfl⟩ := h
  rw [entryName, String.toList_append, List.mem_append, not_or]
  refine ⟨fun hc => ?_, by decide⟩
  exact absurd (Sha256.hexDigest_subset message hc) (by decide)

/-- The file for a key is named directly below the folder. -/
theorem fileFor_eq (folder : Path) {key : String} (h : IsKey key) :
    fileFor folder key = ⟨folder.slashes, folder.parts ++ [entryName key]⟩ :=
  Path.child_of_isStepName folder (isStepName_entryName h)

/-- The place of the file for a key. -/
def placeFor (disk : Disk) (folder : Path) (key : String) : Place :=
  target (disk.start folder) folder.parts ++ [entryName key]

/-- Different keys have different places. -/
theorem placeFor_inj {disk : Disk} {folder : Path} {key other : String}
    (h : placeFor disk folder key = placeFor disk folder other) : key = other := by
  refine entryName_inj ?_
  simpa [placeFor] using h

/-- From the folder it is one step to the file, unless the name is too long. -/
theorem walk_fileFor {disk : Disk} {folder : Path} (leads : disk.LeadsToFolder folder)
    {key : String} (h : IsKey key) :
    disk.walk (disk.start (fileFor folder key)) (fileFor folder key).parts =
      if nameLimit < (entryName key).utf8ByteSize then .error .nameTooLong
      else .ok (placeFor disk folder key) := by
  obtain ⟨place, resolved, there⟩ := leadsToFolder_iff.mp leads
  obtain ⟨-, walked⟩ := resolve_eq_ok_iff.mp resolved
  have arrived := (walk_eq_ok_iff.mp walked).1
  have start : disk.start (fileFor folder key) = disk.start folder := by
    rw [fileFor_eq folder h]
    rfl
  rw [start, fileFor_eq folder h, walk_append, walked, placeFor, ← arrived,
    ← stepTo_of_isStepName place (isStepName_entryName h)]
  simp only [walk_cons, there, walk_nil]

theorem placeFor_of_resolve {disk : Disk} {folder : Path} (leads : disk.LeadsToFolder folder)
    {key : String} (h : IsKey key) {place : Place}
    (resolved : disk.resolve (fileFor folder key) = .ok place) :
    place = placeFor disk folder key := by
  obtain ⟨-, walked⟩ := resolve_eq_ok_iff.mp resolved
  rw [walk_fileFor leads h] at walked
  split at walked
  · cases walked
  · exact (Except.ok.inj walked).symm

theorem placeFor_congr {disk disk' : Disk} (working : disk'.working = disk.working)
    (folder : Path) (key : String) : placeFor disk' folder key = placeFor disk folder key := by
  rw [placeFor, placeFor, Disk.start, Disk.start, working]

/-- The path of the file leads to the same place as long as there is the folder. -/
theorem resolve_fileFor_congr {disk disk' : Disk} {folder : Path}
    (leads : disk.LeadsToFolder folder) (keeps : disk.KeepsFolders disk') {key : String}
    (h : IsKey key) :
    disk'.resolve (fileFor folder key) = disk.resolve (fileFor folder key) := by
  simp only [resolve]
  rw [walk_fileFor leads h, walk_fileFor (leads.mono keeps) h, placeFor_congr keeps.working]

/-- What is found at the place of a file. -/
def readAt (disk : Disk) (place : Place) : Result (Option AnalysisResult) :=
  match disk.entry? place with
  | some (.file content _) => readResult content
  | _ => .ok none

theorem readEntry_of_resolve {disk : Disk} {file : Path} {place : Place}
    (resolved : disk.resolve file = .ok place) : readEntry disk file = readAt disk place := by
  rw [readEntry, look, find, readAt, resolved, Result.ok_bind]
  cases there : disk.entry? place with
  | none => rfl
  | some entry =>
      cases entry <;> simp [Disk.read, find, resolved, there]

theorem readEntry_of_not_resolve {disk disk' : Disk} {file : Path} {e : DiskError}
    (resolved : disk.resolve file = .error e) (resolved' : disk'.resolve file = .error e) :
    readEntry disk' file = readEntry disk file := by
  have look : disk'.look file = disk.look file := by
    rw [look, look, find, find, resolved, resolved']
    rfl
  rw [readEntry, readEntry, look, Disk.read, Disk.read, find, find, resolved, resolved']
  rfl

/-- Making folders changes what is found at most to nothing. -/
theorem readEntry_of_addsFolders {disk disk' : Disk} {folder : Path}
    (leads : disk.LeadsToFolder folder) (adds : disk.AddsFolders disk') {key : String}
    (h : IsKey key) :
    readEntry disk' (fileFor folder key) = readEntry disk (fileFor folder key) ∨
      readEntry disk' (fileFor folder key) = .ok none := by
  have same := resolve_fileFor_congr leads adds.keepsFolders h
  cases resolved : disk.resolve (fileFor folder key) with
  | error e => exact .inl (readEntry_of_not_resolve resolved (same.trans resolved))
  | ok place =>
      rw [readEntry_of_resolve resolved, readEntry_of_resolve (same.trans resolved), readAt, readAt]
      rcases adds.entries place with unchanged | ⟨missing, added⟩
      · exact .inl (by rw [unchanged])
      · exact .inr (by rw [added])

/-- A result is found exactly if it was found before folders were made. -/
theorem readEntry_eq_some_of_addsFolders {disk disk' : Disk} {folder : Path}
    (leads : disk.LeadsToFolder folder) (adds : disk.AddsFolders disk') {key : String}
    (h : IsKey key) {r : AnalysisResult} :
    readEntry disk' (fileFor folder key) = .ok (some r) ↔
      readEntry disk (fileFor folder key) = .ok (some r) := by
  have same := resolve_fileFor_congr leads adds.keepsFolders h
  cases resolved : disk.resolve (fileFor folder key) with
  | error e => rw [readEntry_of_not_resolve resolved (same.trans resolved)]
  | ok place =>
      rw [readEntry_of_resolve resolved, readEntry_of_resolve (same.trans resolved), readAt, readAt]
      rcases adds.entries place with unchanged | ⟨missing, added⟩
      · rw [unchanged]
      · rw [missing, added]

/-- What is found under a key after a file was written under another, or the same. -/
theorem readEntry_of_write {disk disk' : Disk} {folder : Path} (leads : disk.LeadsToFolder folder)
    {key other : String} (h : IsKey key) (h' : IsKey other) {content : List UInt8}
    (written : disk.write (fileFor folder key) content = .ok disk') :
    readEntry disk' (fileFor folder other) =
      if other = key then readResult content else readEntry disk (fileFor folder other) := by
  have same := resolve_fileFor_congr leads (keepsFolders_of_write written) h'
  obtain ⟨place, executable, resolved, noFolder, rfl⟩ := put_of_write written
  have put := entry?_put disk (ne_nil_of_not_folder noFolder) (.file content executable)
  have placed := placeFor_of_resolve leads h resolved
  cases resolved' : disk.resolve (fileFor folder other) with
  | error e =>
      have ne : other ≠ key := by
        intro he
        rw [he, resolved] at resolved'
        cases resolved'
      rw [if_neg ne, readEntry_of_not_resolve resolved' (same.trans resolved')]
  | ok place' =>
      have placed' := placeFor_of_resolve leads h' resolved'
      rw [readEntry_of_resolve (same.trans resolved'), readAt, put]
      by_cases he : other = key
      · rw [if_pos he, if_pos (by rw [placed', placed, he])]
      · have ne : place' ≠ place := by
          intro hp
          exact he (placeFor_inj (placed'.symm.trans (hp.trans placed)))
        rw [if_neg he, if_neg ne, readEntry_of_resolve resolved', readAt]

/-- Every entry can be written. -/
def Accepts (disk : Disk) (folder : Path) : Prop :=
  ∀ key, IsKey key → ∀ content, (disk.write (fileFor folder key) content).isOk

theorem accepts_iff {disk : Disk} {folder : Path} :
    Accepts disk folder ↔ ∀ key, IsKey key → ∃ place,
      disk.resolve (fileFor folder key) = .ok place ∧ disk.entry? place ≠ some .folder := by
  simp only [Accepts, write_isOk_iff, forall_const]

/-- As long as no folder is made in the place of an entry, entries can be written. -/
theorem Accepts.mono {disk disk' : Disk} {folder : Path} (h : Accepts disk folder)
    (keeps : disk.KeepsFolders disk')
    (entries : ∀ key, IsKey key → ∀ place, disk.resolve (fileFor folder key) = .ok place →
      disk.entry? place ≠ some .folder → disk'.entry? place ≠ some .folder) :
    Accepts disk' folder := by
  rw [accepts_iff] at h ⊢
  intro key isKey
  obtain ⟨place, resolved, noFolder⟩ := h key isKey
  exact ⟨place, keeps.resolve resolved, entries key isKey place resolved noFolder⟩

theorem utf8ByteSize_hexDigits {digits : List Char} (h : digits ⊆ Text.hexDigits) :
    (String.ofList digits).utf8ByteSize = digits.length := by
  have single : Text.hexDigits.all (·.utf8Size == 1) := by decide
  rw [List.all_eq_true] at single
  induction digits with
  | nil => rfl
  | cons c digits ih =>
      rw [List.cons_subset] at h
      rw [String.ofList_cons, String.utf8ByteSize_append, String.utf8ByteSize_singleton, ih h.2,
        eq_of_beq (single c h.1), List.length_cons, Nat.add_comm]

theorem utf8ByteSize_entryName {key : String} (h : IsKey key) :
    (entryName key).utf8ByteSize = 69 := by
  obtain ⟨message, rfl⟩ := h
  have digits := utf8ByteSize_hexDigits (Sha256.hexDigest_subset message)
  rw [String.ofList_toList, String.length_toList, Sha256.length_hexDigest] at digits
  rw [entryName, String.utf8ByteSize_append, digits]
  rfl

/-- The path of an entry is the path of the folder with more behind it. -/
theorem toString_fileFor {folder : Path} (named : folder.parts ≠ []) {key : String}
    (h : IsKey key) :
    (fileFor folder key).toString = folder.toString ++ "/" ++ entryName key := by
  rw [fileFor_eq folder h, toString_of_parts_ne_nil named, toString_of_parts_ne_nil (by simp),
    String.intercalate_append_of_ne_nil named (by simp), String.intercalate_singleton]
  simp only [String.append_assoc]

theorem canAsk_fileFor {folder : Path} (ask : CanAsk folder) (named : folder.parts ≠ [])
    (short : folder.toString.utf8ByteSize + 70 ≤ pathLimit) {key : String} (h : IsKey key) :
    CanAsk (fileFor folder key) := by
  have text := toString_fileFor named h
  have size := utf8ByteSize_entryName h
  have usual {c : Char} (hc : c ∈ (entryName key).toList) : Text.isHalf c = false ∧ c ≠ '\x00' := by
    have all : (Text.hexDigits ++ ".json".toList).all fun c => !Text.isHalf c && c != '\x00' := by
      decide
    obtain ⟨message, rfl⟩ := h
    rw [entryName, String.toList_append, List.mem_append] at hc
    have listed : c ∈ Text.hexDigits ++ ".json".toList :=
      List.mem_append.mpr (hc.imp (fun hc => Sha256.hexDigest_subset message hc) id)
    simpa using List.all_eq_true.mp all c listed
  constructor
  · have noHalf := ask.noHalf
    rw [holdsHalf] at noHalf
    rw [text, holdsHalf, String.toList_append, String.toList_append, List.any_append,
      List.any_append, noHalf, Bool.false_or, Bool.or_eq_false_iff]
    refine ⟨by decide, List.any_eq_false.mpr fun c hc => ?_⟩
    simp [(usual hc).1]
  · rw [text, String.toList_append, String.toList_append, List.contains_append,
      List.contains_append, ask.noNul, Bool.false_or, Bool.or_eq_false_iff]
    refine ⟨by decide, ?_⟩
    rw [← Bool.not_eq_true, List.contains_iff_mem]
    exact fun hc => (usual hc).2 rfl
  · rw [text, String.utf8ByteSize_append, String.utf8ByteSize_append, size]
    exact short

/-- Entries can be written in a folder whose path is not too long, unless there are folders in their
places. -/
theorem accepts_of_leadsToFolder {disk : Disk} {folder : Path} (leads : disk.LeadsToFolder folder)
    (named : folder.parts ≠ []) (short : folder.toString.utf8ByteSize + 70 ≤ pathLimit)
    (entries : ∀ key, IsKey key → disk.entry? (placeFor disk folder key) ≠ some .folder) :
    Accepts disk folder := by
  rw [accepts_iff]
  intro key isKey
  obtain ⟨place, resolved⟩ := leads.resolves
  have ask := canAsk_fileFor (resolve_eq_ok_iff.mp resolved).1 named short isKey
  have brief : ¬ nameLimit < (entryName key).utf8ByteSize := by
    rw [utf8ByteSize_entryName isKey]
    decide
  have walked := walk_fileFor leads isKey
  rw [if_neg brief] at walked
  exact ⟨placeFor disk folder key, resolve_eq_ok_iff.mpr ⟨ask, walked⟩, entries key isKey⟩

/-- A result that can be given out is written where a file can be. -/
theorem writeEntry_of_accepts {disk : Disk} {folder : Path} (accepts : Accepts disk folder)
    {key : String} (h : IsKey key) {r : AnalysisResult} {text : String}
    (rendered : r.compactJson = .ok text) :
    ∃ disk', writeEntry disk (fileFor folder key) r = .ok disk' := by
  have possible := accepts key h (Text.Utf8.encodeString text)
  rw [writeEntry, rendered, Result.ok_bind]
  cases wrote : disk.write (fileFor folder key) (Text.Utf8.encodeString text) with
  | ok disk' => exact ⟨disk', rfl⟩
  | error e =>
      rw [wrote] at possible
      cases possible

theorem compactJson_of_writeEntry {disk disk' : Disk} {file : Path} {r : AnalysisResult}
    (written : writeEntry disk file r = .ok disk') :
    ∃ text, r.compactJson = .ok text ∧
      disk.write file (Text.Utf8.encodeString text) = .ok disk' := by
  rw [writeEntry] at written
  obtain ⟨text, rendered, written⟩ := Result.bind_eq_ok.mp written
  refine ⟨text, rendered, ?_⟩
  cases wrote : disk.write file (Text.Utf8.encodeString text) with
  | ok disk'' =>
      rw [wrote] at written
      exact congrArg Except.ok (Except.ok.inj written)
  | error e =>
      rw [wrote] at written
      cases written

theorem get_of_kept {cache : ResultCache} {key : String} {r : AnalysisResult}
    (kept : cache.entries.lookup key = some r) (disk : Disk) :
    cache.get disk key = .ok (some r, cache) := by
  rw [get, kept]

theorem get_of_not_kept {cache : ResultCache} {key : String}
    (missing : cache.entries.lookup key = none) (disk : Disk) :
    cache.get disk key =
      match cache.folder with
      | none => .ok (none, cache)
      | some folder =>
        match readEntry disk (fileFor folder key) with
        | .error fault => .error fault
        | .ok none => .ok (none, cache)
        | .ok (some r) => .ok (some r, cache.remember key r) := by
  rw [get, missing]
  cases cache.folder with
  | none => rfl
  | some folder =>
      cases read : readEntry disk (fileFor folder key) with
      | error fault => simp [read]
      | ok found => cases found <;> simp [read]

end ResultCache

end ScriptVet
