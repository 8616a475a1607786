import ScriptVet.Proofs.Builder

/-!
# Whether a script can be built

The files of a script can be written as long as no file is in the way of its folder and no folder in
the place of a file. So a build gets in the way of others only where it makes a folder or writes a
file, however far it comes.
-/

namespace ScriptVet

namespace Disk

variable {disk disk' : Disk} {p : Path}

/-- A file can be written there. -/
def Takes (disk : Disk) (p : Path) : Prop :=
  ∃ place, disk.resolve p = .ok place ∧ disk.entry? place ≠ some .folder

/-- Where a file can be written it still can after a file was put somewhere. -/
theorem Takes.put (h : disk.Takes p) {place : Place} (noFolder : disk.entry? place ≠ some .folder)
    (content : List UInt8) (executable : Bool) :
    (disk.put place (.file content executable)).Takes p := by
  obtain ⟨q, resolved, free⟩ := h
  refine ⟨q, (writesAt_put noFolder content executable).keepsFolders.resolve resolved, ?_⟩
  rw [entry?_put disk (ne_nil_of_not_folder noFolder)]
  split
  · simp
  · exact free

/-- A file in a folder can be written if its path is not too long and no folder is in its place. -/
theorem takes_child_iff {folder : Path} {name : String} (isStep : IsStepName name)
    (leads : disk.LeadsToFolder folder) :
    disk.Takes (folder.child name) ↔
      (CanAsk (folder.child name) ∧ ∀ n ∈ (folder.child name).parts, n.utf8ByteSize ≤ nameLimit) ∧
        disk.entry? (disk.placeOf (folder.child name)) ≠ some .folder := by
  constructor
  · rintro ⟨place, resolved, free⟩
    obtain ⟨ask, walked⟩ := resolve_eq_ok_iff.mp resolved
    obtain ⟨rfl, -, short⟩ := walk_eq_ok_iff.mp walked
    exact ⟨⟨ask, short⟩, free⟩
  · rintro ⟨⟨ask, short⟩, free⟩
    have parts : (folder.child name).parts ≠ [] := by
      rw [Path.child_of_isStepName folder isStep]
      exact List.append_ne_nil_of_right_ne_nil _ (List.cons_ne_nil name [])
    have parent : (folder.child name).parent = folder := by
      rw [Path.child_of_isStepName folder isStep, Path.parent, List.dropLast_concat]
    refine ⟨_, resolve_of_leadsToFolder_parent parts ask short ?_, free⟩
    rw [parent]
    exact leads.folders

end Disk

namespace Builder

open Disk

variable {settings : Settings} {toolbox : Toolbox} {script : Script} {disk disk' : Disk}

/-- What holds of a disk after every step holds after those that could be taken. -/
theorem takeSteps_induction {P : Disk → Prop} {steps : List FileStep}
    (kept : ∀ step ∈ steps, ∀ disk disk', P disk → step disk = .ok disk' → P disk')
    (h : P disk) : P (takeSteps steps disk).2 := by
  induction steps generalizing disk with
  | nil => exact h
  | cons step steps ih =>
      rw [List.forall_mem_cons] at kept
      rw [takeSteps]
      cases took : step disk with
      | error fault => exact h
      | ok next => exact ih kept.2 (kept.1 disk next h took)

/-- The second disk is the first after steps of the build: only files of the script were written,
and folders were only made on the way to them. -/
structure Touches (settings : Settings) (script : Script) (disk disk' : Disk) : Prop where
  writes : disk.WritesAt (IsPlaceOf settings disk script) disk'
  folders : ∀ q, disk'.entry? q = some .folder →
    disk.entry? q = some .folder ∨ q ∈ disk.visitsOf (folderFor settings script)

theorem Touches.put (h : Touches settings script disk disk') {place : Place}
    (own : IsPlaceOf settings disk script place) (noFolder : disk'.entry? place ≠ some .folder)
    (content : List UInt8) (executable : Bool) :
    Touches settings script disk (disk'.put place (.file content executable)) := by
  refine ⟨h.writes.trans ((writesAt_put noFolder content executable).mono ?_), fun q folder => ?_⟩
  · rintro q rfl
    exact own
  · rw [entry?_put disk' (ne_nil_of_not_folder noFolder)] at folder
    split at folder
    · cases folder
    · exact h.folders q folder

theorem Touches.ensureFolders {disk'' : Disk} (h : Touches settings script disk disk')
    (made : disk'.ensureFolders (folderFor settings script) = .ok disk'') :
    Touches settings script disk disk'' := by
  have provides := provides_of_ensureFolders made
  refine ⟨h.writes.trans (provides.adds.writesAt _), fun q folder => ?_⟩
  by_cases visited : q ∈ disk'.visitsOf (folderFor settings script)
  · rw [visitsOf_congr h.writes.working] at visited
    exact .inr visited
  · rw [provides.elsewhere q visited] at folder
    exact h.folders q folder

theorem Touches.write {disk'' : Disk} {file : Path} {content : List UInt8}
    (h : Touches settings script disk disk')
    (own : IsPlaceOf settings disk script (disk.placeOf file))
    (written : disk'.write file content = .ok disk'') : Touches settings script disk disk'' := by
  obtain ⟨place, executable, resolved, noFolder, rfl⟩ := put_of_write written
  rw [← placeOf_congr h.writes.working, ← placeOf_of_resolve resolved] at own
  exact h.put own noFolder content executable

theorem Touches.makeExecutable {disk'' : Disk} (h : Touches settings script disk disk')
    (allowed : disk'.makeExecutable (artifactFor settings script).path = .ok disk'') :
    Touches settings script disk disk'' := by
  rw [Disk.makeExecutable, find] at allowed
  obtain ⟨⟨place, entry⟩, found, allowed⟩ := Result.bind_eq_ok.mp allowed
  obtain ⟨place', resolved, found⟩ := Result.bind_eq_ok.mp found
  cases there : disk'.entry? place' with
  | none =>
      rw [there] at found
      cases found
  | some entry' =>
      rw [there] at found
      cases found
      cases entry with
      | folder =>
          cases allowed
          exact h
      | file content executable =>
          cases allowed
          refine h.put (.inl ?_) (by simp [there]) content true
          rw [placeOf_of_resolve resolved, placeOf_congr h.writes.working]

/-- However far a build comes. -/
theorem touches_build (settings : Settings) (toolbox : Toolbox) (script : Script) (disk : Disk) :
    Touches settings script disk (build settings toolbox script disk).2 := by
  have refl : Touches settings script disk disk := ⟨.refl _ disk, fun _ => .inl⟩
  have writing {file : Path} (own : IsPlaceOf settings disk script (disk.placeOf file))
      (text : String) : ∀ step ∈ writingSteps file text, ∀ d d',
        Touches settings script disk d → step d = .ok d' → Touches settings script disk d' := by
    intro step hstep d d' h took
    rcases List.mem_pair.mp hstep with rfl | rfl
    · exact h.write own (fileStep_eq_ok_iff.mp took)
    · obtain ⟨_, -, took⟩ := Result.bind_eq_ok.mp took
      exact h.write own (fileStep_eq_ok_iff.mp took)
  rw [build]
  refine takeSteps_induction (fun step hstep d d' h took => ?_) refl
  rw [steps, List.cons_append, List.mem_cons, List.mem_append, List.mem_cons] at hstep
  rcases hstep with rfl | text | rfl | deps
  · exact h.ensureFolders (fileStep_eq_ok_iff.mp took)
  · exact writing (.inl rfl) _ step text d d' h took
  · have allowed := fileStep_eq_ok_iff.mp took
    split at allowed
    · exact h.makeExecutable allowed
    · cases allowed
      exact h
  · exact writing (.inr rfl) _ step deps d d' h took

/-! ## When a build succeeds -/

/-- The system takes the path. -/
def IsAskable (p : Path) : Prop :=
  CanAsk p ∧ ∀ name ∈ p.parts, name.utf8ByteSize ≤ nameLimit

/-- Every step of the build of a script can be taken. -/
structure CanBuild (settings : Settings) (toolbox : Toolbox) (disk : Disk) (script : Script) :
    Prop where
  text : Text.holdsHalf (builtText settings toolbox script) = false
  dependencies : Text.holdsHalf (dependencyText script) = false
  free : disk.IsFree (folderFor settings script)
  artifact : IsAskable (artifactFor settings script).path
  beside : IsAskable (dependencyFile settings script)
  entries : ∀ q, IsPlaceOf settings disk script q →
    q ∉ disk.visitsOf (folderFor settings script) ∧ disk.entry? q ≠ some .folder

theorem takes_of_write {file : Path} {content : List UInt8}
    (written : disk.write file content = .ok disk') : disk.Takes file :=
  write_isOk_iff.mp (by rw [written]; rfl)

theorem exists_write {file : Path} (takes : disk.Takes file) (content : List UInt8) :
    ∃ disk', disk.write file content = .ok disk' ∧ ∀ p, disk.Takes p → disk'.Takes p := by
  have possible : (disk.write file content).isOk := write_isOk_iff.mpr takes
  cases written : disk.write file content with
  | error e =>
      rw [written] at possible
      cases possible
  | ok disk' =>
      obtain ⟨place, executable, -, noFolder, rfl⟩ := put_of_write written
      exact ⟨_, rfl, fun p h => h.put noFolder content executable⟩

/-- A whole text can be written where a file can be. -/
theorem exists_writingSteps {file : Path} {text : String} (takes : disk.Takes file)
    (whole : Text.holdsHalf text = false) :
    ∃ disk', (writingSteps file text).foldlM (fun disk step => step disk) disk = .ok disk' ∧
      ∀ p, disk.Takes p → disk'.Takes p := by
  obtain ⟨emptied, first, later⟩ := exists_write takes []
  obtain ⟨disk', second, last⟩ :=
    exists_write (later file takes) (Text.Utf8.encodeString text)
  have checked : Json.checkText (.str text) = .ok () :=
    Json.checkText_eq_ok_iff.mpr (Json.brokenText?_str_eq_none_iff.mpr whole)
  refine ⟨disk', ?_, fun p h => last p (later p h)⟩
  simp only [writingSteps, List.foldlM_cons, List.foldlM_nil, fileStep, first, checked,
    Except.mapError, Result.ok_bind, second]
  rfl

theorem exists_allow {file : Path} {content : List UInt8} (holds : disk.HoldsAt file content)
    (executable : Bool) :
    ∃ disk', (if executable then disk.makeExecutable file else .ok disk) = .ok disk' ∧
      ∀ p, disk.Takes p → disk'.Takes p := by
  cases executable with
  | false => exact ⟨disk, rfl, fun _ h => h⟩
  | true =>
      obtain ⟨mode, there⟩ := holds.file
      have found : disk.find file = .ok (disk.placeOf file, .file content mode) := by
        rw [find, holds.resolves, Result.ok_bind, there]
      refine ⟨disk.put (disk.placeOf file) (.file content true), ?_, fun p h => h.put ?_ _ _⟩
      · simp only [if_true, Disk.makeExecutable, found]
        rfl
      · simp [there]

theorem isStepName_dependencies (named : Checked.isName script.name) :
    IsStepName (script.name ++ ".deps.json") :=
  Checked.isStepName_append named (by decide)

/-- Where the files of a script were written they can be written once there is their folder. -/
theorem takes_of_steps {made written allowed : Disk}
    (named : Checked.isName script.name)
    (leads : made.LeadsToFolder (folderFor settings script))
    (text : (writingSteps (artifactFor settings script).path
      (builtText settings toolbox script)).foldlM (fun disk step => step disk) made = .ok written)
    (allows : (if script.executable then written.makeExecutable (artifactFor settings script).path
      else .ok written) = .ok allowed)
    (deps : (writingSteps (dependencyFile settings script) (dependencyText script)).foldlM
      (fun disk step => step disk) allowed = .ok disk') :
    made.Takes (artifactFor settings script).path ∧
      made.Takes (dependencyFile settings script) := by
  obtain ⟨-, writes, holds⟩ := wrote_of_writingSteps text
  obtain ⟨permits, -⟩ := holdsAt_of_allow holds allows
  have keeps : made.KeepsFolders allowed := (writes.trans (permits.mono fun q hq => by
    rw [hq, placeOf_congr writes.working])).keepsFolders
  have step := isStepName_dependencies named
  obtain ⟨emptied, first, -⟩ := Result.bind_eq_ok.mp text
  obtain ⟨emptied', first', -⟩ := Result.bind_eq_ok.mp deps
  obtain ⟨asks, entry⟩ := (takes_child_iff step (leads.mono keeps)).mp
    (takes_of_write (fileStep_eq_ok_iff.mp first'))
  refine ⟨takes_of_write (fileStep_eq_ok_iff.mp first), ?_⟩
  refine (takes_child_iff step leads).mpr ⟨asks, fun folder => entry ?_⟩
  rw [placeOf_congr keeps.working]
  exact keeps.folders _ folder

theorem canBuild_of_isOk (named : Checked.isName script.name)
    (ok : (build settings toolbox script disk).1.isOk) :
    CanBuild settings toolbox disk script := by
  obtain ⟨-, made, written, allowed, folders, text, allows, deps⟩ :=
    steps_of_build (build_eq_of_isOk ok)
  have provides := provides_of_ensureFolders folders
  have working := provides.adds.working
  obtain ⟨takes, takesDeps⟩ := takes_of_steps named provides.leads text allows deps
  obtain ⟨asks, entry⟩ :=
    (takes_child_iff (Checked.isStepName_of_isName named) provides.leads).mp takes
  obtain ⟨asksDeps, entryDeps⟩ :=
    (takes_child_iff (isStepName_dependencies named) provides.leads).mp takesDeps
  refine ⟨(wrote_of_writingSteps text).1, (wrote_of_writingSteps deps).1, provides.isFree, asks,
    asksDeps, fun q hq => ?_⟩
  have noFolder : made.entry? q ≠ some .folder := by
    rcases hq with rfl | rfl
    · rwa [← placeOf_congr working]
    · rwa [← placeOf_congr working]
  refine ⟨fun visited => noFolder (provides.leads.folders q ?_), fun folder => ?_⟩
  · rwa [visitsOf_congr working]
  · exact noFolder (provides.adds.keepsFolders.folders q folder)

theorem isOk_of_canBuild (named : Checked.isName script.name)
    (h : CanBuild settings toolbox disk script) : (build settings toolbox script disk).1.isOk := by
  have possible := ensureFolders_isOk_iff.mpr h.free
  cases folders : disk.ensureFolders (folderFor settings script) with
  | error e =>
      rw [folders] at possible
      cases possible
  | ok made =>
      have provides := provides_of_ensureFolders folders
      have noFolder {p : Path} (own : IsPlaceOf settings disk script (disk.placeOf p)) :
          made.entry? (made.placeOf p) ≠ some .folder := by
        rw [placeOf_congr provides.adds.working, provides.elsewhere _ (h.entries _ own).1]
        exact (h.entries _ own).2
      have takes : made.Takes (artifactFor settings script).path :=
        (takes_child_iff (Checked.isStepName_of_isName named) provides.leads).mpr
          ⟨h.artifact, noFolder (.inl rfl)⟩
      have takesDeps : made.Takes (dependencyFile settings script) :=
        (takes_child_iff (isStepName_dependencies named) provides.leads).mpr
          ⟨h.beside, noFolder (.inr rfl)⟩
      obtain ⟨written, text, later⟩ := exists_writingSteps takes h.text
      obtain ⟨-, -, holds⟩ := wrote_of_writingSteps text
      obtain ⟨allowed, allows, later'⟩ := exists_allow holds script.executable
      obtain ⟨last, deps, -⟩ :=
        exists_writingSteps (later' _ (later _ takesDeps)) h.dependencies
      have took : takeSteps (steps settings toolbox script) disk = (.ok (), last) := by
        rw [takeSteps_eq_ok_iff, steps, List.cons_append, List.foldlM_cons]
        simp only [List.foldlM_append, List.foldlM_cons, Result.bind_eq_ok, fileStep_eq_ok_iff]
        exact ⟨made, folders, written, text, allowed, allows, deps⟩
      rw [build, took]
      rfl

/-- A build succeeds exactly if no file is in the way of its folder, no folder in the place of one
of its files, and the system takes their paths and texts. -/
theorem isOk_build_iff (named : Checked.isName script.name) :
    (build settings toolbox script disk).1.isOk ↔ CanBuild settings toolbox disk script :=
  ⟨canBuild_of_isOk named, isOk_of_canBuild named⟩

/-! ## What gets in the way -/

/-- On another disk a script can be built if files are in the way only where they were before, and
so are folders. -/
theorem CanBuild.congr (h : CanBuild settings toolbox disk script)
    (working : disk'.working = disk.working)
    (files : ∀ q ∈ disk.visitsOf (folderFor settings script), ∀ content executable,
      disk'.entry? q = some (.file content executable) →
      ∃ content executable, disk.entry? q = some (.file content executable))
    (folders : ∀ q, IsPlaceOf settings disk script q → disk'.entry? q = some .folder →
      disk.entry? q = some .folder) : CanBuild settings toolbox disk' script where
  text := h.text
  dependencies := h.dependencies
  free := by
    refine ⟨h.free.ask, h.free.short, fun q hq content executable there => ?_⟩
    rw [visitsOf_congr working] at hq
    obtain ⟨content', executable', before⟩ := files q hq content executable there
    exact h.free.files q hq content' executable' before
  artifact := h.artifact
  beside := h.beside
  entries q hq := by
    rw [IsPlaceOf, placeOf_congr working, placeOf_congr working] at hq
    rw [visitsOf_congr working]
    exact ⟨(h.entries q hq).1, fun folder => (h.entries q hq).2 (folders q hq folder)⟩

/-- What can be built on a disk could be built before anything was written or made. -/
theorem CanBuild.of_writesAt {places : Place → Prop} (h : CanBuild settings toolbox disk' script)
    (writes : disk.WritesAt places disk') : CanBuild settings toolbox disk script := by
  refine h.congr writes.working.symm (fun q _ content executable there => ?_)
    fun q _ folder => writes.keepsFolders.folders q folder
  rcases writes.entries q with same | ⟨missing, -⟩ | ⟨-, -, written⟩
  · exact ⟨content, executable, same.trans there⟩
  · cases missing.symm.trans there
  · exact written

/-- A file that is put somewhere else is not in the way. -/
theorem CanBuild.write {file : Path} {content : List UInt8}
    (h : CanBuild settings toolbox disk script) (written : disk.write file content = .ok disk')
    (apart : disk.placeOf file ∉ disk.visitsOf (folderFor settings script)) :
    CanBuild settings toolbox disk' script := by
  obtain ⟨place, executable, resolved, noFolder, rfl⟩ := put_of_write written
  rw [← placeOf_of_resolve resolved] at apart
  have now := entry?_put disk (ne_nil_of_not_folder noFolder) (.file content executable)
  refine h.congr rfl (fun q hq before mode there => ?_) fun q _ folder => ?_
  · rw [now, if_neg (by rintro rfl; exact apart hq)] at there
    exact ⟨before, mode, there⟩
  · rw [now] at folder
    split at folder
    · cases folder
    · exact folder

/-- No other places are passed on the way to the build folder than those above it. -/
def IsStraight (settings : Settings) (disk : Disk) : Prop :=
  ∀ q ∈ disk.visitsOf settings.buildDir, q <+: disk.placeOf settings.buildDir

theorem visitsOf_child (disk : Disk) (folder : Path) {name : String} (h : IsStepName name) :
    disk.visitsOf (folder.child name) =
      disk.visitsOf folder ++ [disk.placeOf folder ++ [name]] := by
  rw [← placeOf_child disk folder h, Path.child_of_isStepName folder h]
  exact visits_append_singleton _ _ _

theorem mem_visitsOf_folderFor_iff (named : Checked.isName script.name) {q : Place} :
    q ∈ disk.visitsOf (folderFor settings script) ↔
      q ∈ disk.visitsOf settings.buildDir ∨
        q = disk.placeOf settings.buildDir ++ [script.name] ∨
        q = disk.placeOf settings.buildDir ++ [script.name, groupName script.executable] := by
  have group : IsStepName (groupName script.executable) := by
    cases script.executable <;> exact ⟨by decide, by decide, by decide, by decide⟩
  have step := Checked.isStepName_of_isName named
  rw [folderFor, ← groupName, visitsOf_child disk _ group, visitsOf_child disk _ step,
    placeOf_child disk _ step]
  simp

/-- The files of scripts lie deeper than all folders that are made for scripts. -/
theorem notMem_visitsOf_of_isPlaceOf {other : Script} {q : Place}
    (straight : IsStraight settings disk) (named : Checked.isName script.name)
    (named' : Checked.isName other.name) (own : IsPlaceOf settings disk other q) :
    q ∉ disk.visitsOf (folderFor settings script) := by
  have deep : q.length = (disk.placeOf settings.buildDir).length + 3 := by
    rcases own with rfl | rfl
    · simp [placeOf_artifact disk settings named']
    · simp [placeOf_dependencyFile disk settings named']
  intro visited
  rcases (mem_visitsOf_folderFor_iff named).mp visited with above | rfl | rfl
  · have short := (straight q above).length_le
    omega
  · simp at deep
  · simp at deep

/-- The build of a script is not in the way of another, nor of the same again. -/
theorem CanBuild.of_touches {other : Script} (h : CanBuild settings toolbox disk script)
    (touches : Touches settings other disk disk') (straight : IsStraight settings disk)
    (named : Checked.isName script.name) (named' : Checked.isName other.name) :
    CanBuild settings toolbox disk' script := by
  refine h.congr touches.writes.working (fun q hq content executable there => ?_)
    fun q own folder => ?_
  · rcases touches.writes.entries q with same | ⟨-, added⟩ | ⟨own, -, -⟩
    · exact ⟨content, executable, same.symm.trans there⟩
    · cases added.symm.trans there
    · exact absurd hq (notMem_visitsOf_of_isPlaceOf straight named named' own)
  · exact (touches.folders q folder).resolve_right
      (notMem_visitsOf_of_isPlaceOf straight named' named own)

end Builder

end ScriptVet
