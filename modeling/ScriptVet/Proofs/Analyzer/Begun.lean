import ScriptVet.Proofs.Analyzer.Outcome
import ScriptVet.Proofs.Files.Folders

/-!
# What analyzers do between pauses

Only waiting for a command pauses, and it does so three times. Asking for the version of an analyzer
runs one command at most, and so does an analysis. Neither writes a file: all that is made is the
folder for temporary ones. A machine records the analyses that are begun on it, and an analysis adds
itself to the record and nothing else.
-/

namespace ScriptVet

open Activity Disk

/-- In between no file was written and no analysis begun. -/
structure Machine.StaysQuiet (m m' : Machine) : Prop where
  files : m.disk.AddsFolders m'.disk
  analyses : m'.analyses = m.analyses

instance : IsPreorder Machine Machine.StaysQuiet where
  refl m := ⟨.refl m.disk, rfl⟩
  trans _ _ _ h h' := ⟨h.files.trans h'.files, h'.analyses.trans h.analyses⟩

/-- In between no file was written. -/
def Machine.WritesNothing (m m' : Machine) : Prop :=
  m.disk.AddsFolders m'.disk

instance : IsPreorder Machine Machine.WritesNothing where
  refl m := .refl m.disk
  trans _ _ _ h h' := h.trans h'

namespace Work

variable {α : Type}

/-- The work stays quiet, and it pauses at most so often. -/
abbrev IsQuiet (work : Work α) (n : Nat) : Prop :=
  work.Strides Machine.StaysQuiet n

theorem isQuiet_ofResult (result : Result α) : IsQuiet (ofResult result) 0 :=
  strides_ofResult result

theorem isQuiet_get : IsQuiet get 0 :=
  strides_access fun m => refl_of Machine.StaysQuiet m

theorem isQuiet_note (level : NoteLevel) (text : String) : IsQuiet (note level text) 0 :=
  strides_access fun m => ⟨.refl m.disk, rfl⟩

theorem isQuiet_ensureFolders (p : Path) : IsQuiet (onDisk (·.ensureFolders p)) 0 := by
  intro m
  rw [onDisk_apply]
  cases made : m.disk.ensureFolders p with
  | error e => exact refl_of Machine.StaysQuiet m
  | ok disk => exact ⟨(provides_of_ensureFolders made).adds, rfl⟩

theorem isQuiet_wait (seconds : Option Int) : IsQuiet (wait seconds) 3 := by
  rw [wait]
  cases seconds.filter (· != 0) with
  | none => exact (isQuiet_ofResult _).mono (Nat.zero_le 3)
  | some n =>
      have turns (after : Pause) : IsQuiet (do
          Activity.pause .idle
          Activity.pause after
          Activity.pause after) 3 :=
        (strides_pause .idle).bind fun _ => (strides_pause after).bind fun _ => strides_pause after
      by_cases endless : isEndless n
      · simp only [endless, if_true]
        exact (isQuiet_ofResult _).bind_right fun _ => turns _
      · simp only [endless]
        exact turns _

theorem isQuiet_runCommand (command : Command) (seconds : Option Int) :
    IsQuiet (runCommand command seconds) 3 := by
  have called (call : Call) :
      IsQuiet (modify fun m => { m with calls := m.calls ++ [call] }) 0 :=
    strides_access fun m => ⟨.refl m.disk, rfl⟩
  refine isQuiet_get.bind_right fun m => (called _).bind_right fun _ => ?_
  cases limited seconds (m.toolbox.respond command) with
  | notStarted cause => exact (isQuiet_ofResult _).mono (Nat.zero_le 3)
  | finished stdout stderr code =>
      exact (isQuiet_wait seconds).bind_left fun _ => isQuiet_ofResult _
  | overran => exact (isQuiet_wait seconds).bind_left fun _ => isQuiet_ofResult _

theorem isQuiet_askVersion (settings : Settings) (tool : String) :
    IsQuiet (askVersion settings tool) 3 :=
  isQuiet_get.bind_right fun _ => (isQuiet_ofResult _).bind_right fun _ =>
    (isQuiet_runCommand _ _).bind_left fun _ => isQuiet_ofResult _

theorem isQuiet_toolVersion (settings : Settings) (kind : AnalyzerKind) (tool : String) :
    IsQuiet (toolVersion settings kind tool) 3 := by
  refine isQuiet_get.bind_right fun m => ?_
  cases m.versions.lookup (kind, tool) with
  | some version => exact (isQuiet_ofResult _).mono (Nat.zero_le 3)
  | none =>
      have asks : IsQuiet (tryCatch (askVersion settings tool) fun e =>
          if leavesVersionOpen e then pure "unavailable" else throw e) 3 := by
        refine (isQuiet_askVersion settings tool).tryCatch fun fault => ?_
        split <;> exact isQuiet_ofResult _
      have noted (version : String) : IsQuiet (modify fun m =>
          { m with versions := ((kind, tool), version) :: m.versions }) 0 :=
        strides_access fun m => ⟨.refl m.disk, rfl⟩
      exact asks.bind_left fun version => (noted version).bind_left fun _ => isQuiet_ofResult _

end Work

namespace Analyzer

open Work

theorem isQuiet_parseFault (kind : AnalyzerKind) (fault : Fault) :
    IsQuiet (parseFault kind fault) 0 := by
  cases fault <;> exact isQuiet_ofResult _

theorem isQuiet_lintFault (fault : Fault) : IsQuiet (lintFault fault) 0 := by
  cases fault <;> exact isQuiet_ofResult _

theorem isQuiet_make (settings : Settings) (kind : AnalyzerKind) (language : Language)
    (text : String) : IsQuiet (ScriptCopy.make settings kind language text) 0 :=
  (isQuiet_ensureFolders _).bind_right fun _ => isQuiet_get.bind_right fun _ => isQuiet_ofResult _

/-- A tool is run on a copy once, whatever is made of its answer. -/
theorem isQuiet_copyCheck {α : Type} (copy : ScriptCopy) (settings : Settings)
    (kind : AnalyzerKind) (tool : String) (arguments : List String) (checker : Option String)
    (verdict : Work.Output → Result α) : IsQuiet (do
      let output ← copy.check settings kind tool arguments checker
      verdict output) 3 := by
  have runs : IsQuiet (copy.check settings kind tool arguments checker) 3 :=
    isQuiet_get.bind_right fun _ => (isQuiet_ofResult _).bind_right fun _ => isQuiet_runCommand _ _
  exact runs.bind_left fun _ => isQuiet_ofResult _

theorem isQuiet_parseCheck (prologue : String) (settings : Settings) (kind : AnalyzerKind)
    (toolFor : Language → Option String) (script : Script) :
    IsQuiet (parseCheck prologue settings kind toolFor script) 3 := by
  rw [parseCheck]
  cases toolFor script.language with
  | none =>
      have skips : IsQuiet (do
          let reason := s!"no syntax checker for language '{script.displayLanguage}'"
          note .warning s!"Skipping syntax analysis of {script.name}: {reason}"
          pure (AnalysisResult.skipped kind reason)) 0 :=
        (isQuiet_note _ _).bind_right fun _ => isQuiet_ofResult _
      exact skips.mono (Nat.zero_le 3)
  | some tool =>
      refine (isQuiet_make settings kind _ _).bind_right fun copy => ?_
      exact (isQuiet_copyCheck copy settings kind tool _ _ _).tryCatch (isQuiet_parseFault kind)

theorem isQuiet_lintCheck (depth : Nat) (settings : Settings) (script : Script) :
    IsQuiet (lintCheck depth settings script) 3 := by
  refine (isQuiet_make settings .lint _ _).bind_right fun copy => ?_
  exact (isQuiet_copyCheck copy settings .lint _ _ _ _).tryCatch isQuiet_lintFault

/-- The check of a built-in analyzer runs one command and begins no other analysis. -/
theorem isQuiet_check (settings : Settings) (kind : AnalyzerKind) (script : Script) :
    IsQuiet ((builtin settings kind).check script) 3 := by
  cases kind with
  | parses => exact isQuiet_parseCheck _ _ _ _ _
  | lint => exact isQuiet_lintCheck _ settings script
  | strictMode => exact isQuiet_parseCheck _ _ _ _ _
  | functionDeps => exact (isQuiet_ofResult _).mono (Nat.zero_le 3)
  | variableUsage => exact (isQuiet_ofResult _).mono (Nat.zero_le 3)

theorem isQuiet_recover (analyzer : Analyzer) (script : Script) (fault : Fault) :
    IsQuiet (analyzer.recover script fault) 0 := by
  cases fault with
  | toolUnavailable tool reason =>
      exact (isQuiet_note _ _).bind_right fun _ => isQuiet_ofResult _
  | _ => exact isQuiet_ofResult _

/-- So does asking an analyzer for its version. -/
theorem isQuiet_fullVersion (analyzer : Analyzer) (script : Script) :
    IsQuiet (analyzer.fullVersion script) 3 := by
  have given (version : String) : IsQuiet (pure version) 3 :=
    (isQuiet_ofResult _).mono (Nat.zero_le 3)
  rw [fullVersion]
  cases analyzer.basis with
  | nothing => exact given _
  | vocabulary words => exact given _
  | tool toolFor =>
      simp only
      cases toolFor script.language with
      | none => exact given _
      | some tool => exact (isQuiet_toolVersion _ _ _).bind_left fun _ => isQuiet_ofResult _

theorem isQuiet_rest (settings : Settings) (kind : AnalyzerKind) (script : Script) :
    IsQuiet (tryCatch ((builtin settings kind).check script)
      ((builtin settings kind).recover script)) 3 :=
  (isQuiet_check settings kind script).tryCatch (isQuiet_recover (builtin settings kind) script)

/-- An analysis writes no file. -/
theorem strides_analyze (settings : Settings) (kind : AnalyzerKind) (script : Script) :
    ((builtin settings kind).analyze script).Strides Machine.WritesNothing 3 := by
  intro m
  let begun := { m with analyses := m.analyses ++ [((builtin settings kind).kind, script)] }
  have noted : Machine.WritesNothing m begun := AddsFolders.refl m.disk
  refine .after noted ?_
  exact (isQuiet_rest settings kind script begun).mono (Nat.le_refl 3) fun _ _ => (·.files)

/-- An analysis adds itself to the record, whatever it comes to. -/
theorem analyses_run_analyze (settings : Settings) (kind : AnalyzerKind) (script : Script)
    (m : Machine) :
    (((builtin settings kind).analyze script).run m).2.analyses =
      m.analyses ++ [(kind, script)] := by
  have quiet := (isQuiet_rest settings kind script).run
    { m with analyses := m.analyses ++ [((builtin settings kind).kind, script)] }
  rw [analyze, run_bind, run_modify]
  refine quiet.analyses.trans ?_
  rw [kind_builtin]

end Analyzer

end ScriptVet
