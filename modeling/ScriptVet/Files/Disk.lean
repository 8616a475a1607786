import ScriptVet.Files.Path
import ScriptVet.Keyed
import ScriptVet.Text.Quoted
import ScriptVet.Text.Utf8

/-!
# Files and folders

The files that a run can reach are a value: a list of entries, each at the names that lead to it
from the root. The root itself is always a folder. A path is followed name by name, so that a double
dot leads to the folder above the one reached, and every name but the last has to be a folder.

What can go wrong is what an operating system reports: the `DiskError` tells the cause and the path
as it was given.
-/

namespace ScriptVet

/-- Why an operation on files fails. -/
inductive DiskCause where
  | notFound
  | denied
  | alreadyThere
  | notAFolder
  | isAFolder
  | nameTooLong
  /-- The path holds a character that no path can hold. -/
  | embeddedNul
  /-- The path holds half of a surrogate pair, so that it has no octets. -/
  | noOctets
  deriving Repr, DecidableEq

/-- The number of an error of the operating system, and its text. -/
def DiskCause.numberAndText : DiskCause → Nat × String
  | .notFound => (2, "No such file or directory")
  | .denied => (13, "Permission denied")
  | .alreadyThere => (17, "File exists")
  | .notAFolder => (20, "Not a directory")
  | .isAFolder => (21, "Is a directory")
  | .nameTooLong => (36, "File name too long")
  | .embeddedNul | .noOctets => (22, "Invalid argument")

/-- The operating system has found the error; the others are found before it is asked. -/
def DiskCause.isFromSystem : DiskCause → Bool
  | .embeddedNul | .noOctets => false
  | _ => true

/-- A failed operation and the path it was given. -/
structure DiskError where
  cause : DiskCause
  path : String
  deriving Repr, DecidableEq

/-- The text of a failure. -/
def DiskError.message (e : DiskError) : String :=
  match e.cause with
  | .embeddedNul => "embedded null byte"
  | .noOctets => Text.noOctetsMessage e.path
  | cause =>
    let (number, text) := cause.numberAndText
    s!"[Errno {number}] {text}: " ++ Text.quoted e.path

/-- The names that lead from the root to an entry. -/
abbrev Place := List String

/-- What there can be at a place. -/
inductive Entry where
  | folder
  | file (content : List UInt8) (executable : Bool)
  deriving Repr, DecidableEq

/-- The files and folders, and the folder in which relative paths begin. -/
structure Disk where
  working : Place
  entries : List (Place × Entry)
  deriving Repr

namespace Disk

/-- What there is at a place. -/
def entry? (disk : Disk) (place : Place) : Option Entry :=
  if place.isEmpty then some .folder else disk.entries.lookup place

def isFolderAt (disk : Disk) (place : Place) : Bool :=
  disk.entry? place == some .folder

/-- Puts an entry in the place of the one before. -/
def put (disk : Disk) (place : Place) (entry : Entry) : Disk :=
  { disk with entries := Keyed.put place entry disk.entries }

/-- Takes an entry away. -/
def drop (disk : Disk) (place : Place) : Disk :=
  { disk with entries := disk.entries.filter (·.1 != place) }

/-- The most octets in one name and in a whole path. -/
def nameLimit : Nat := 255

def pathLimit : Nat := 4095

/-- Follows names from a place. -/
def walk (disk : Disk) : Place → List String → Except DiskCause Place
  | place, [] => .ok place
  | place, name :: names =>
    match disk.entry? place with
    | none => .error .notFound
    | some (.file _ _) => .error .notAFolder
    | some .folder =>
      if nameLimit < name.utf8ByteSize then .error .nameTooLong
      else if name = ".." then disk.walk place.dropLast names
      else if name = "." || name = "" then disk.walk place names
      else disk.walk (place ++ [name]) names

/-- The place where a path begins. -/
def start (disk : Disk) (p : Path) : Place :=
  if p.isAbsolute then [] else disk.working

/-- A path cannot hold a half of a surrogate pair, unless the half stands for an octet. -/
def holdsHalf (text : String) : Bool :=
  text.toList.any fun c =>
    Text.isHalf c && !(0xDC80 ≤ Text.codePoint c && Text.codePoint c ≤ 0xDCFF)

/-- The place that a path leads to, whether or not there is anything. -/
def resolve (disk : Disk) (p : Path) : Except DiskError Place :=
  let text := p.toString
  let failed (cause : DiskCause) : DiskError := ⟨cause, text⟩
  if holdsHalf text then .error (failed .noOctets)
  else if text.toList.contains '\x00' then .error (failed .embeddedNul)
  else if pathLimit < text.utf8ByteSize then .error (failed .nameTooLong)
  else (disk.walk (disk.start p) p.parts).mapError failed

/-- What a path leads to; a missing entry is an error. -/
def find (disk : Disk) (p : Path) : Except DiskError (Place × Entry) := do
  let place ← disk.resolve p
  match disk.entry? place with
  | none => .error ⟨.notFound, p.toString⟩
  | some entry => .ok (place, entry)

/-- What a path leads to, where nothing is no error. -/
def look (disk : Disk) (p : Path) : Except DiskError (Option Entry) :=
  match disk.find p with
  | .ok (_, entry) => .ok (some entry)
  | .error e =>
    match e.cause with
    | .notFound | .notAFolder | .embeddedNul | .noOctets => .ok none
    | _ => .error e

/-- What a text leads to that has not been read as a path: unlike there, a slash or a dot at the
end asks for a folder. -/
def lookRaw (disk : Disk) (s : String) : Option Entry :=
  let p := Path.ofString s
  if s.isEmpty || s.toList.contains '\x00' || pathLimit < s.utf8ByteSize then none
  else
    match disk.walk (disk.start p) (Path.splitNames s) with
    | .error _ => none
    | .ok place =>
      match disk.entry? place with
      | some (.file content executable) =>
        if s.toList.getLast? == some '/' then none else some (.file content executable)
      | entry => entry

def isFolder (disk : Disk) (p : Path) : Except DiskError Bool :=
  (disk.look p).map (· == some .folder)

/-- The octets of a file. -/
def read (disk : Disk) (p : Path) : Except DiskError (List UInt8) := do
  match ← disk.find p with
  | (_, .folder) => .error ⟨.isAFolder, p.toString⟩
  | (_, .file content _) => .ok content

/-- Writes a file, new or in the place of the one before, which leaves its permissions. -/
def write (disk : Disk) (p : Path) (content : List UInt8) : Except DiskError Disk := do
  let place ← disk.resolve p
  match disk.entry? place with
  | some .folder => .error ⟨.isAFolder, p.toString⟩
  | some (.file _ executable) => .ok (disk.put place (.file content executable))
  | none => .ok (disk.put place (.file content false))

/-- Lets a file be run as a program. -/
def makeExecutable (disk : Disk) (p : Path) : Except DiskError Disk := do
  match ← disk.find p with
  | (_, .folder) => .ok disk
  | (place, .file content _) => .ok (disk.put place (.file content true))

/-- Makes one folder. -/
def makeFolder (disk : Disk) (p : Path) : Except DiskError Disk := do
  let place ← disk.resolve p
  match disk.entry? place with
  | some _ => .error ⟨.alreadyThere, p.toString⟩
  | none => .ok (disk.put place .folder)

/-- Makes a folder where there may be one already. -/
def ensureFolder (disk : Disk) (p : Path) : Except DiskError Disk :=
  match disk.makeFolder p with
  | .ok disk => .ok disk
  | .error e => do if ← disk.isFolder p then .ok disk else .error e

/-- Makes a folder and the `above` folders over it that may be missing. -/
def ensureFoldersFrom (disk : Disk) : Nat → Path → Except DiskError Disk
  | 0, p => disk.ensureFolder p
  | above + 1, p =>
    match disk.makeFolder p with
    | .ok disk => .ok disk
    | .error ⟨.notFound, _⟩ => do
      let disk ← disk.ensureFoldersFrom above p.parent
      disk.ensureFolder p
    | .error e => do if ← disk.isFolder p then .ok disk else .error e

/-- Makes a folder and all that are missing above it. -/
def ensureFolders (disk : Disk) (p : Path) : Except DiskError Disk :=
  disk.ensureFoldersFrom p.parts.length p

/-- The files below a place, each with the names that lead to it from there, and whether it can be
run as a program. -/
def filesBelow (disk : Disk) (place : Place) : List (List String × Bool) :=
  disk.entries.filterMap fun (there, entry) =>
    match entry with
    | .file _ executable =>
      if place.isPrefixOf there && place.length < there.length then
        some (there.drop place.length, executable)
      else none
    | .folder => none

/-- The folders below a place. -/
def foldersBelow (disk : Disk) (place : Place) : List (List String) :=
  disk.entries.filterMap fun (there, entry) =>
    if entry == .folder && place.isPrefixOf there && place.length < there.length then
      some (there.drop place.length)
    else none

/-- The names directly in a folder, and what they lead to. -/
def entriesIn (disk : Disk) (place : Place) : List (String × Entry) :=
  disk.entries.filterMap fun (there, entry) =>
    match there.getLast? with
    | some name => if there.dropLast = place then some (name, entry) else none
    | none => none

/-- The folders on the way to a place, and the place. -/
def foldersTo (place : Place) : List (Place × Entry) :=
  (List.range place.length).map fun n => (place.take (n + 1), .folder)

/-- Nothing but the folders on the way to the working folder. -/
def empty (working : Place) : Disk :=
  ⟨working, foldersTo working⟩

@[simp] theorem entry?_nil (disk : Disk) : disk.entry? [] = some .folder := rfl

@[simp] theorem walk_nil (disk : Disk) (place : Place) : disk.walk place [] = .ok place := rfl

end Disk

end ScriptVet
