import ScriptVet.CommandLine.Program
import Std.Data.HashMap

/-!
# The program on this computer

The files below the working folder are read into memory, the program works on them there, and what
it has changed is written back. Files elsewhere are not seen, and no other programs are run: an
analysis that needs one is skipped.
-/

namespace ScriptVet.Computer

/-- The files and folders that an entry of a folder leads to, down to some depth; what cannot be
read is left out. -/
def readEntry : Nat → Place → IO.FS.DirEntry → IO (List (Place × Entry))
  | 0, _, _ => return []
  | depth + 1, above, entry => do
    let place := above ++ [entry.fileName]
    try
      match (← entry.path.symlinkMetadata).type with
      | .dir =>
        let below ← (← entry.path.readDir).toList.mapM (readEntry depth place)
        return (place, .folder) :: below.flatten
      | .file => return [(place, .file (← IO.FS.readBinFile entry.path).toList false)]
      | _ => return []
    catch _ => return []

/-- The working folder with all that is below it. No path has more names than it has octets, so the
depth is no bound. -/
def readDisk : IO Disk := do
  let folder ← IO.currentDir
  let working := (Path.ofString folder.toString).parts
  let below ← (← folder.readDir).toList.mapM (readEntry Disk.pathLimit working)
  return ⟨working, Disk.foldersTo working ++ below.flatten⟩

/-- The absolute path of a place. -/
def pathOf (place : Place) : String :=
  "/" ++ "/".intercalate place

/-- Writes an entry. -/
def writeEntry (place : Place) : Entry → IO Unit
  | .folder => IO.FS.createDirAll (pathOf place)
  | .file content executable => do
    IO.FS.writeBinFile (pathOf place) content.toByteArray
    if executable then
      let everyone := { read := true, execution := true }
      let owner := { read := true, write := true, execution := true }
      IO.setAccessRights (pathOf place) ⟨owner, everyone, everyone⟩

/-- Removes an entry. -/
def removeEntry (place : Place) : Entry → IO Unit
  | .folder => IO.FS.removeDir (pathOf place)
  | .file _ _ => IO.FS.removeFile (pathOf place)

/-- Writes what is new or different, and removes what is gone, the innermost first. -/
def writeDisk (before after : Disk) : IO Unit := do
  let old := Std.HashMap.ofList before.entries
  let new := Std.HashMap.ofList after.entries
  for (place, entry) in after.entries do
    if old[place]? != some entry then writeEntry place entry
  for (place, entry) in before.entries.reverse do
    if !new.contains place then removeEntry place entry

/-- The variables of the environment that give settings. -/
def readEnvironment : IO (List (String × String)) := do
  let names := Settings.fieldNames.map fun field => "SCRIPTGATE_" ++ field.toUpper
  let given ← names.mapM fun name => do
    return (← IO.getEnv name).map fun value => (name, value)
  return given.reduceOption

/-- Prints how a command ended. -/
def announce : CommandLine.Outcome → IO Unit
  | .finished stdout _ => IO.print stdout
  | .refused notice => IO.eprint notice
  | .broken fault => IO.eprintln fault.message

/-- Runs the program in the working folder. -/
def run (arguments : List String) : IO UInt32 := do
  let disk ← readDisk
  let environment ← readEnvironment
  let machine : Machine := { toolbox := Toolbox.empty, disk, temporaryMark := "00000000" }
  let (outcome, machine) := CommandLine.run ⟨1, disk.working⟩ environment arguments machine
  writeDisk disk machine.disk
  announce outcome
  return UInt32.ofNat outcome.exitCode

end ScriptVet.Computer

def main (arguments : List String) : IO UInt32 :=
  ScriptVet.Computer.run arguments
