import ScriptVet.Analyzer.ScriptCopy
import ScriptVet.Proofs.Ensures
import ScriptVet.Proofs.Result

/-!
# What work with tools comes to

What a command gives is a function of the toolbox and of the command, whatever others do to the
machine while it is waited for. A copy of a script needs the folder for temporary ones, and is
handed over under a name that the machine's mark decides.
-/

namespace ScriptVet

/-- Analyses with some settings leave the invariant as it is. -/
structure Machine.Lasting (settings : Settings) (inv : Machine → Prop) : Prop where
  called : ∀ {m}, inv m → ∀ calls, inv { m with calls }
  noted : ∀ {m}, inv m → ∀ notes, inv { m with notes }
  begun : ∀ {m}, inv m → ∀ analyses, inv { m with analyses }
  made : ∀ {m}, inv m → ∀ {disk}, m.disk.ensureFolders settings.tempDir = .ok disk →
    inv { m with disk }

theorem Machine.lasting_true (settings : Settings) : Lasting settings fun _ => True :=
  ⟨fun _ _ => trivial, fun _ _ => trivial, fun _ _ => trivial, fun _ _ _ => trivial⟩

namespace Work

open Activity

theorem onDisk_apply (operation : Disk → Except DiskError Disk) (m : Machine) :
    onDisk operation m =
      match operation m.disk with
      | .ok disk => .ended (.ok ()) { m with disk }
      | .error e => .ended (.error (.disk e)) m := by
  rw [onDisk, get_bind_apply]
  cases operation m.disk <;> rfl

/-- Only a time limit that cannot be kept makes waiting fail. -/
theorem ensures_wait {inv : Machine → Prop} {m : Machine} (h : inv m) (seconds : Option Int) :
    (wait seconds m).Ensures inv fun result m' =>
      inv m' ∧ result = if seconds.any isEndless then .error .endlessTimeout else .ok () := by
  cases seconds with
  | none => exact ⟨h, rfl⟩
  | some n =>
      by_cases hn : n = 0
      · subst hn
        exact ⟨h, rfl⟩
      · have hf : (some n).filter (· != 0) = some n := by simp [hn]
        rw [wait, hf]
        by_cases he : isEndless n
        · simp only [he, Option.any_some, if_true]
          exact ⟨h, rfl⟩
        · simp only [he, Option.any_some]
          exact ⟨h, fun _ h1 => ⟨h1, fun _ h2 => ⟨h2, fun _ h3 => ⟨h3, rfl⟩⟩⟩⟩

/-- What follows when the command has ended. -/
theorem ensures_wait_bind {α : Type} {inv : Machine → Prop} {m : Machine} (h : inv m)
    (seconds : Option Int) {next : Unit → Work α} {end? : Result α}
    (ends : ∀ m, next () m = .ended end? m) :
    ((wait seconds >>= next) m).Ensures inv fun result m' =>
      inv m' ∧ result = if seconds.any isEndless then .error .endlessTimeout else end? := by
  refine ensures_bind (ensures_wait h seconds) (fun _ m' ⟨h', waited⟩ => ?_)
    fun _ m' ⟨h', waited⟩ => ⟨h', ?_⟩
  · rw [ends]
    by_cases endless : seconds.any isEndless
    · rw [if_pos endless] at waited
      cases waited
    · exact ⟨h', (if_neg endless).symm⟩
  · by_cases endless : seconds.any isEndless
    · rw [if_pos endless] at waited ⊢
      exact congrArg Except.error (Except.error.inj waited)
    · rw [if_neg endless] at waited
      cases waited

/-- What a command gives that may take a number of seconds. -/
def answer (toolbox : Toolbox) (command : Command) (seconds : Option Int) : Result Output :=
  match limited seconds (toolbox.respond command) with
  | .notStarted cause => .error (.disk ⟨cause, command.executable⟩)
  | .finished stdout stderr code =>
    if seconds.any isEndless then .error .endlessTimeout
    else .ok ⟨Text.Utf8.decodeLossy stdout, Text.Utf8.decodeLossy stderr, code⟩
  | .overran =>
    if seconds.any isEndless then .error .endlessTimeout
    else .error (.toolOverran command.executable seconds)

theorem ensures_runCommand {settings : Settings} {inv : Machine → Prop}
    (lasting : Machine.Lasting settings inv) {m : Machine} (h : inv m) (command : Command)
    (seconds : Option Int) :
    (runCommand command seconds m).Ensures inv fun result m' =>
      inv m' ∧ result = answer m.toolbox command seconds := by
  rw [runCommand, answer]
  simp only [get_bind_apply, modify_bind_apply]
  cases limited seconds (m.toolbox.respond command) with
  | notStarted cause => exact ⟨lasting.called h _, rfl⟩
  | finished stdout stderr code =>
      exact ensures_wait_bind (lasting.called h _) seconds fun _ => rfl
  | overran => exact ensures_wait_bind (lasting.called h _) seconds fun _ => rfl

/-- A command that ends by itself within a limit that can be kept. -/
theorem answer_of_finished {toolbox : Toolbox} {command : Command} {seconds : Option Int}
    {stdout stderr : List UInt8} {code : Int}
    (ends : toolbox.respond command = .finished stdout stderr code)
    (time : ∀ n ∈ seconds, 0 ≤ n ∧ isEndless n = false) :
    answer toolbox command seconds =
      .ok ⟨Text.Utf8.decodeLossy stdout, Text.Utf8.decodeLossy stderr, code⟩ := by
  cases seconds with
  | none => simp [answer, limited, ends]
  | some n =>
      obtain ⟨positive, kept⟩ := time n rfl
      simp [answer, limited, ends, kept, Int.not_lt.mpr positive]

end Work

namespace ScriptCopy

open Activity

/-- The copy that an analyzer of a kind makes. -/
def of (settings : Settings) (mark : String) (kind : AnalyzerKind) (language : Language)
    (text : String) : ScriptCopy :=
  ⟨settings.tempDir.child (folderName kind mark), "script" ++ language.extension, text⟩

/-- Making a copy makes the folder for temporary ones. -/
theorem make_apply (settings : Settings) (kind : AnalyzerKind) (language : Language)
    (text : String) (m : Machine) :
    make settings kind language text m =
      match m.disk.ensureFolders settings.tempDir with
      | .ok disk => .ended (.ok (of settings m.temporaryMark kind language text)) { m with disk }
      | .error e => .ended (.error (.disk e)) m := by
  have first := Work.onDisk_apply (·.ensureFolders settings.tempDir) m
  change (Work.onDisk (·.ensureFolders settings.tempDir) m).andThen _ = _
  rw [first]
  cases m.disk.ensureFolders settings.tempDir <;> rfl

/-- The command that hands a copy to a tool. -/
def command (copy : ScriptCopy) (settings : Settings) (kind : AnalyzerKind) (tool : String)
    (arguments : List String) (checker : Option String) (executable : String) : Command :=
  ⟨executable, arguments ++ (settings.tool tool).extraArgs ++ [copy.path.toString],
    .check kind copy.text checker⟩

/-- What a tool says about a copy. -/
def answer (copy : ScriptCopy) (settings : Settings) (kind : AnalyzerKind) (tool : String)
    (arguments : List String) (checker : Option String) (toolbox : Toolbox) :
    Result Work.Output := do
  let executable ← Work.executableOf settings tool toolbox
  Work.answer toolbox (copy.command settings kind tool arguments checker executable)
    (settings.tool tool).timeout

theorem ensures_check {settings : Settings} {inv : Machine → Prop}
    (lasting : Machine.Lasting settings inv) {m : Machine} (h : inv m) (copy : ScriptCopy)
    (kind : AnalyzerKind) (tool : String) (arguments : List String) (checker : Option String) :
    (copy.check settings kind tool arguments checker m).Ensures inv fun result m' =>
      inv m' ∧ result = copy.answer settings kind tool arguments checker m.toolbox := by
  rw [check, answer, get_bind_apply, liftM_bind_apply]
  cases Work.executableOf settings tool m.toolbox with
  | error fault => exact ⟨h, rfl⟩
  | ok executable => exact Work.ensures_runCommand lasting h _ _

end ScriptCopy

end ScriptVet
