import ScriptVet.Fault
import ScriptVet.ToolConfig

/-!
# Settings

What applies to all scripts: the folders in use, the tools, the words that the heuristic analyzers
look for, and whether results are kept. Settings are read from named fields. A folder that is given
by a relative path lies in the project's root folder.
-/

namespace ScriptVet

structure Settings where
  projectRoot : Path
  cacheDir : Path
  buildDir : Path
  tempDir : Path
  tools : List (String × ToolConfig)
  /-- The commands that are reported when a script mentions them. -/
  commandAllowlist : List String
  /-- The variables that the shell itself keeps; using one is never reported. -/
  shellVariables : List String
  cacheResults : Bool
  /-- Results are kept in files as well. -/
  persistCache : Bool
  logLevel : String
  maxWorkers : Positive
  deriving Repr

namespace Settings

def defaultTools : List (String × ToolConfig) := [
  ("bash", { executable := "bash" }),
  ("python3", { executable := "python3" }),
  ("pwsh", { executable := "pwsh", timeout := some 120 }),
  ("shellcheck", { executable := "shellcheck", extraArgs := ["--external-sources"] })]

def defaultAllowlist : List String := [
  "git", "ssh", "scp", "curl", "wget", "jq", "grep", "awk", "sed", "find", "sort", "uniq", "head",
  "tail", "cut", "tr", "wc", "cat", "echo", "printf", "date", "mkdir", "rm", "cp", "mv", "chmod",
  "chown", "ls", "cd", "pwd", "which", "command", "type", "test"]

def defaultShellVariables : List String := [
  "BASH", "BASHPID", "BASH_ARGC", "BASH_ARGV", "BASH_COMMAND", "BASH_LINENO", "BASH_REMATCH",
  "BASH_SOURCE", "BASH_SUBSHELL", "BASH_VERSINFO", "BASH_VERSION", "EUID", "FUNCNAME", "GROUPS",
  "HOSTNAME", "HOSTTYPE", "IFS", "LINENO", "MACHTYPE", "OLDPWD", "OPTARG", "OPTIND", "OSTYPE",
  "PIPESTATUS", "PPID", "PWD", "RANDOM", "REPLY", "SECONDS", "SHELLOPTS", "SHLVL", "UID", "_"]

/-- The fields, in the order in which problems are reported. -/
def fieldNames : List String := [
  "project_root", "cache_dir", "build_dir", "temp_dir", "tools", "command_allowlist",
  "shell_variables", "cache_results", "persist_cache", "log_level", "max_workers"]

/-- The fields whose values are lists or objects. -/
def compositeFields : List String := ["tools", "command_allowlist", "shell_variables"]

/-- Tools by their names. -/
def toolsOfJson (v : Json) : Checked (List (String × ToolConfig)) := do
  let fields ← Checked.object v
  Checked.all (fields.map fun (key, value) =>
    Checked.inside (.key key) ((ToolConfig.ofJson value).map (key, ·)))

/-- A folder that is given as text, or its usual place. -/
def folderField (fields : List (String × Json)) (key usual : String) : Result Path :=
  match Json.getField? key fields with
  | none => .ok (Path.ofString usual)
  | some (.str s) => .ok (Path.ofString s)
  | some _ => .error (.settingNotPath key)

/-- Refuses fields that settings do not have. -/
def knownFields (fields : List (String × Json)) : Checked Unit :=
  match fields.filter fun f => !fieldNames.contains f.1 with
  | [] => .ok ()
  | unknown => .error (unknown.map fun f => ⟨[.key f.1], .unexpected⟩)

open Checked in
/-- Settings from their fields; the working folder is the usual root folder. -/
def ofFields (working : Path) (fields : List (String × Json)) : Result Settings := do
  let cacheDir ← folderField fields "cache_dir" ".scriptgate_cache"
  let buildDir ← folderField fields "build_dir" "build"
  let tempDir ← folderField fields "temp_dir" "/tmp/scriptgate"
  toResult "Settings" (.obj fields) <|
    (withDefault fields "project_root" working path).map (fun root tools allowed shell results
        persist level workers (_ : Unit) =>
      Settings.mk root (root.join cacheDir) (root.join buildDir) (root.join tempDir) tools allowed
        shell results persist level workers)
      |> take (withDefault fields "tools" defaultTools toolsOfJson)
      |> take (withDefault fields "command_allowlist" defaultAllowlist textSet)
      |> take (withDefault fields "shell_variables" defaultShellVariables textSet)
      |> take (withDefault fields "cache_results" true bool)
      |> take (withDefault fields "persist_cache" false bool)
      |> take (withDefault fields "log_level" "INFO" text)
      |> take (withDefault fields "max_workers" ⟨4, by decide⟩ positive)
      |> take (knownFields fields)

/-- The configuration of a tool; a tool that is not configured is looked for by its name. -/
def tool (settings : Settings) (name : String) : ToolConfig :=
  (settings.tools.lookup name).getD { executable := name }

/-- Makes the folders that are not there yet. -/
def ensureFolders (settings : Settings) (disk : Disk) : Except DiskError Disk :=
  [settings.cacheDir, settings.buildDir, settings.tempDir].foldlM Disk.ensureFolders disk

end Settings

end ScriptVet
