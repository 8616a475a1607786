import ScriptVet.Proofs.BuildSteps
import ScriptVet.Proofs.CacheHistory
import ScriptVet.Proofs.Session.BuildAll
import ScriptVet.Proofs.Session.Transparency

/-!
# Where scripts are built

If there is the folder for temporary ones and the cache lies apart from the build folder then work
on scripts does not get in the way of other work: analyses come to the same after builds, entries of
the cache stay readable and can be written, and scripts that could be built still can.
-/

namespace ScriptVet.Session

open Activity Analyzer ResultCache Disk Builder

/-- The folders that work on scripts needs are there, and the cache and the scripts that are built
do not get in each other's way. -/
structure IsBuildSite (settings : Settings) (disk : Disk) : Prop where
  temporary : disk.LeadsToFolder settings.tempDir
  leads : ∀ folder ∈ keptIn settings, disk.LeadsToFolder folder
  straight : IsStraight settings disk
  apart : ∀ folder ∈ keptIn settings,
    AreApart (disk.placeOf folder) (disk.placeOf settings.buildDir)

section

variable {settings : Settings} {disk disk' : Disk} {script : Script} {q : Place}

theorem IsBuildSite.congr (site : IsBuildSite settings disk) (keeps : disk.KeepsFolders disk') :
    IsBuildSite settings disk' where
  temporary := site.temporary.mono keeps
  leads folder given := (site.leads folder given).mono keeps
  straight := by
    rw [IsStraight, visitsOf_congr keeps.working, placeOf_congr keeps.working]
    exact site.straight
  apart folder given := by
    rw [placeOf_congr keeps.working, placeOf_congr keeps.working]
    exact site.apart folder given

theorem isCacheFile_placeFor {folder : Path} (given : folder ∈ keptIn settings) {key : String}
    (isKey : IsKey key) : IsCacheFile settings disk (placeFor disk folder key) :=
  ⟨folder, given, key, isKey, (placeOf_child disk folder (isStepName_entryName isKey)).symm⟩

/-- An entry of the cache is no file of a script. -/
theorem IsBuildSite.not_isPlaceOf (site : IsBuildSite settings disk)
    (named : Checked.isName script.name) (entry : IsCacheFile settings disk q) :
    ¬ IsPlaceOf settings disk script q := by
  intro own
  obtain ⟨rest, rfl⟩ := own.below named
  exact not_below_of_isCacheFile site.apart entry (List.prefix_append _ _)

/-- Nor is it passed on the way to one. -/
theorem IsBuildSite.notMem_visitsOf (site : IsBuildSite settings disk)
    (named : Checked.isName script.name) (entry : IsCacheFile settings disk q) :
    q ∉ disk.visitsOf (folderFor settings script) := by
  intro visited
  have below := not_below_of_isCacheFile site.apart entry
  rcases (mem_visitsOf_folderFor_iff named).mp visited with above | rfl | rfl
  · obtain ⟨folder, given, key, isKey, rfl⟩ := entry
    have place : disk.placeOf (fileFor folder key) = disk.placeOf folder ++ [entryName key] :=
      placeOf_child disk folder (isStepName_entryName isKey)
    have inside := site.straight _ above
    rw [place] at inside
    exact (site.apart folder given).1 ((List.prefix_append _ _).trans inside)
  · exact below (List.prefix_append _ _)
  · exact below (List.prefix_append _ _)

end

/-- A machine on which nothing has happened since the first one but work on scripts: analyses, and
builds that may have come to nothing. Some scripts can be built. -/
structure Lasts (settings : Settings) (first : Machine) (right : String → AnalysisResult → Prop)
    (scripts : List Script) (m : Machine) : Prop where
  toolbox : m.toolbox = first.toolbox
  mark : m.temporaryMark = first.temporaryMark
  versions : ∀ {kind tool version}, m.versions.lookup (kind, tool) = some version →
    Tells settings first.toolbox tool version
  writes : first.disk.WritesAt (fun _ => True) m.disk
  accepts : ∀ folder ∈ keptIn settings, Accepts m.disk folder
  files : RightFiles settings right m.disk
  builds : ∀ script ∈ scripts, CanBuild settings first.toolbox m.disk script

section

variable {settings : Settings} {first m : Machine} {right : String → AnalysisResult → Prop}
  {scripts : List Script} {script : Script} {kind : AnalyzerKind}

theorem Lasts.site (site : IsBuildSite settings first.disk)
    (h : Lasts settings first right scripts m) : IsBuildSite settings m.disk :=
  site.congr h.writes.keepsFolders

/-- Analyses need no other folder for temporary ones. -/
theorem Lasts.made {disk : Disk} (site : IsBuildSite settings first.disk)
    (h : Lasts settings first right scripts m)
    (made : m.disk.ensureFolders settings.tempDir = .ok disk) : disk = m.disk := by
  rw [ensureFolders_of_leadsToFolder (h.site site).temporary] at made
  exact (Except.ok.inj made).symm

theorem steady_lasts (site : IsBuildSite settings first.disk) :
    Steady settings first (Lasts settings first right scripts) where
  toolbox := Lasts.toolbox
  accepts := Lasts.accepts
  results {m} h := by
    refine toOption_outcome_view h.toolbox h.mark ?_
    rw [ensureFolders_of_leadsToFolder (h.site site).temporary,
      ensureFolders_of_leadsToFolder site.temporary]
    rfl

theorem regime_lasts (site : IsBuildSite settings first.disk) (stays : String → Prop) :
    Regime settings (Tells settings first.toolbox) (Lasts settings first right scripts)
      (Remembers right stays) right where
  kept h := h.right
  remembered h := h.put
  versions :=
    { lasting :=
        { called := fun h _ => { h with }
          noted := fun h _ => { h with }
          begun := fun h _ => { h with }
          made := fun h _ made => by
            rw [h.made site made]
            exact h }
      asked := fun h told => h.toolbox ▸ told
      noted := fun h noted => h.versions noted
      notes := fun h told kind => { h with versions := Work.told_of_noted h.versions told kind } }
  found h folder given key r isKey read := by
    obtain ⟨found, read', isRight⟩ := h.files folder given isKey
    rw [read] at read'
    cases read'
    exact (isRight r rfl).1

/-- An entry of the cache is written. -/
theorem Lasts.written {disk : Disk} {folder : Path} {key : String} {r : AnalysisResult}
    (site : IsBuildSite settings first.disk)
    (named : ∀ script ∈ scripts, Checked.isName script.name)
    (h : Lasts settings first right scripts m) (given : folder ∈ keptIn settings)
    (isKey : IsKey key) (isRight : right key r) (portable : r.IsPortable)
    (written : writeEntry m.disk (fileFor folder key) r = .ok disk) :
    Lasts settings first right scripts { m with disk } := by
  obtain ⟨_, -, wrote⟩ := compactJson_of_writeEntry written
  have now := h.site site
  refine { h with
    writes := h.writes.trans ((writesAt_of_write wrote).mono fun _ _ => trivial)
    accepts := fun folder given => (h.accepts folder given).write wrote
    files := h.files.written now.leads given isKey isRight portable written
    builds := fun script hscript => ?_ }
  exact (h.builds script hscript).write wrote
    (now.notMem_visitsOf (named script hscript) ⟨folder, given, key, isKey, rfl⟩)

/-- Results of an analysis may be kept if what it gives is right under its key. -/
theorem admits_lasts (site : IsBuildSite settings first.disk)
    (named : ∀ script ∈ scripts, Checked.isName script.name)
    (isRight : ∀ {key r}, HasKey settings first.toolbox script kind key →
      resultOn settings first script kind = some r → r.status ≠ .skipped → right key r) :
    Admits settings (Tells settings first.toolbox) (Lasts settings first right scripts) right
      script kind := by
  have fresh {r : AnalysisResult}
      (fresh : IsFresh settings (Lasts settings first right scripts) script kind r) :
      resultOn settings first script kind = some r ∧ r.IsPortable := by
    obtain ⟨m, lasts, given⟩ := fresh
    refine ⟨?_, (gives_of_outcome given).portable⟩
    rw [← (steady_lasts site).results lasts, resultOn, given]
    rfl
  refine ⟨fun content has named comes made => ?_,
    fun content has keyed comes made h given written => ?_⟩
  · exact isRight ⟨content, _, has, named⟩ (fresh comes).1 made
  · have hasKey : HasKey settings first.toolbox script kind _ := ⟨content, _, has, keyed⟩
    exact h.written site named given hasKey.isKey (isRight hasKey (fresh comes).1 made)
      (fresh comes).2 written

/-- What is in the place of an entry is left alone by the build of a script. -/
theorem entry?_placeFor_of_touches {disk disk' : Disk} (site : IsBuildSite settings disk)
    (named : Checked.isName script.name) (touches : Touches settings script disk disk')
    {folder : Path} (given : folder ∈ keptIn settings) {key : String} (isKey : IsKey key)
    {entry : Option Entry} (there : disk'.entry? (placeFor disk folder key) = entry) :
    disk.entry? (placeFor disk folder key) = entry := by
  have cacheFile := @isCacheFile_placeFor settings disk folder given key isKey
  rcases touches.writes.entries (placeFor disk folder key) with same | ⟨-, added⟩ | ⟨own, -, -⟩
  · exact same.symm.trans there
  · rcases touches.folders _ added with before | visited
    · rw [before, ← added, there]
    · exact absurd visited (site.notMem_visitsOf named cacheFile)
  · exact absurd own (site.not_isPlaceOf named cacheFile)

/-- So the build of a script changes nothing for others, however far it comes. -/
theorem Lasts.built (site : IsBuildSite settings first.disk)
    (h : Lasts settings first right scripts m)
    (named : ∀ script ∈ scripts, Checked.isName script.name) (ours : Checked.isName script.name)
    {disk : Disk} (touches : Touches settings script m.disk disk) :
    Lasts settings first right scripts { m with disk } := by
  have now := h.site site
  have keeps := touches.writes.keepsFolders
  have accepts (folder : Path) (given : folder ∈ keptIn settings) : Accepts disk folder := by
    refine (h.accepts folder given).mono keeps fun key isKey place resolved noFolder made => ?_
    rw [placeFor_of_resolve (now.leads folder given) isKey resolved] at made noFolder
    exact noFolder (entry?_placeFor_of_touches now ours touches given isKey made)
  refine { h with
    writes := h.writes.trans (touches.writes.mono fun _ _ => trivial)
    accepts := accepts
    files := fun folder given key isKey => ?_
    builds := fun other hother =>
      (h.builds other hother).of_touches touches now.straight (named other hother) ours }
  obtain ⟨found, read, isRight⟩ := h.files folder given isKey
  refine ⟨found, ?_, isRight⟩
  have leads := now.leads folder given
  rw [readEntry_of_accepts leads (h.accepts folder given) isKey, readAt] at read
  rw [readEntry_of_accepts (leads.mono keeps) (accepts folder given) isKey, readAt,
    placeFor_congr keeps.working, ← entry?_placeFor_of_touches now ours touches given isKey rfl]
  exact read

/-- What is known of the machine while requests are answered is still so when scripts are built. -/
theorem lasts_of_follows {start : Machine} (ready : IsReady settings start.disk)
    (h : Follows settings start right m) : Lasts settings m right [] m where
  toolbox := rfl
  mark := rfl
  versions noted := h.toolbox ▸ h.versions noted
  writes := .refl _ _
  accepts folder given := (h.grows.isReady ready folder given).1
  files := h.files
  builds _ hscript := absurd hscript List.not_mem_nil

end

end ScriptVet.Session
