import ScriptVet.AnalysisResult
import ScriptVet.Fault
import ScriptVet.Sha256
import ScriptVet.Text.Lines

/-!
# The cache of results

Results are kept in memory under keys, and if the cache has a folder also in files there, where a
later cache finds them. A result that was skipped is not kept, because the missing tool may be there
the next time. A file that holds no result counts as no entry.
-/

namespace ScriptVet

structure ResultCache where
  /-- Where results are kept in files. -/
  folder : Option Path
  entries : List (String × AnalysisResult) := []
  deriving Repr, BEq

namespace ResultCache

/-- The key for the content of a script, a kind of analyzer and the analyzer's version. -/
def key (fingerprint : String) (kind : AnalyzerKind) (version : String) : String :=
  Sha256.hexDigest <|
    Text.Utf8.encodeString fingerprint ++ 0 :: Text.Utf8.encodeString kind.word ++
      0 :: Text.Utf8.encodeString version

/-- A cache in a folder, which is made if it is missing. -/
def start (folder : Option Path) (disk : Disk) : Except DiskError (ResultCache × Disk) :=
  match folder with
  | none => .ok (⟨none, []⟩, disk)
  | some p => (disk.ensureFolders p).map fun disk => (⟨some p, []⟩, disk)

/-- The number of results in memory. -/
def size (cache : ResultCache) : Nat :=
  cache.entries.length

/-- Keeps a result in memory, in the place of the one before. -/
def remember (cache : ResultCache) (key : String) (result : AnalysisResult) : ResultCache :=
  { cache with entries := Keyed.put key result cache.entries }

/-- The file for a key. -/
def fileFor (folder : Path) (key : String) : Path :=
  folder.child (key ++ ".json")

/-- The result that the octets of a file hold, if they hold one. -/
def readResult (content : List UInt8) : Result (Option AnalysisResult) :=
  match Text.Utf8.decode? content with
  | none => .error .notText
  | some text =>
    match Json.Reader.read .strict (Text.readNewlines text) with
    | .error _ => .ok none
    | .ok value => .ok (AnalysisResult.ofJson value).toOption

/-- Looks in the file for a key. -/
def readEntry (disk : Disk) (file : Path) : Result (Option AnalysisResult) :=
  match disk.look file with
  | .error e => .error (.disk e)
  | .ok none => .ok none
  | .ok (some _) =>
    match disk.read file with
    | .error _ => .ok none
    | .ok content => readResult content

/-- The result kept under a key, if there is one; one found in a file is then kept in memory as
well. -/
def get (cache : ResultCache) (disk : Disk) (key : String) :
    Result (Option AnalysisResult × ResultCache) :=
  match cache.entries.lookup key, cache.folder with
  | some result, _ => .ok (some result, cache)
  | none, none => .ok (none, cache)
  | none, some folder => do
    match ← readEntry disk (fileFor folder key) with
    | none => .ok (none, cache)
    | some result => .ok (some result, cache.remember key result)

/-- Writes the file for a result. -/
def writeEntry (disk : Disk) (file : Path) (result : AnalysisResult) : Result Disk := do
  (disk.write file (Text.Utf8.encodeString (← result.compactJson))).mapError .disk

/-- Keeps a result under a key, unless it was skipped. It is kept in memory even if its file cannot
be written. -/
def put (cache : ResultCache) (disk : Disk) (key : String) (result : AnalysisResult) :
    ResultCache × Result Disk :=
  if result.status = .skipped then (cache, .ok disk)
  else
    (cache.remember key result,
      match cache.folder with
      | none => .ok disk
      | some folder => writeEntry disk (fileFor folder key) result)

/-- The names of the files that belong to a cache. -/
def isEntryName (name : String) : Bool :=
  ".json".toList.isSuffixOf name.toList

/-- Removes the files of a folder that belong to a cache. -/
def clearFolder (disk : Disk) (folder : Path) : Except DiskError Disk :=
  match disk.resolve folder with
  | .error _ => .ok disk
  | .ok place =>
    let found := (disk.entriesIn place).filter (isEntryName ·.1)
    match found.find? (·.2 == .folder) with
    | some (name, _) => .error ⟨.isAFolder, (folder.child name).toString⟩
    | none => .ok (found.foldl (fun disk (name, _) => disk.drop (place ++ [name])) disk)

/-- Forgets all results, in memory and in files. -/
def clear (cache : ResultCache) (disk : Disk) : ResultCache × Except DiskError Disk :=
  ({ cache with entries := [] }, cache.folder.elim (.ok disk) (clearFolder disk))

end ResultCache

end ScriptVet
