import ScriptVet.Proofs.Builder
import ScriptVet.Proofs.Session.Run
import ScriptVet.Session.Build

/-!
# Files of scripts that are built together

The build of a script writes its two files and, if results are kept in files, entries of the cache.
Names that scripts can have lead to folders of their own below the build folder, so the files of one
script are left alone by the builds of the others, and nothing but these files is new or different
below the build folder. What the files hold is the text of each script and what it depends on.
-/

namespace ScriptVet

open Disk

/-- The script that a descriptor describes has its fields and the text that was read, and there is
some text. -/
theorem Descriptor.toScript_eq_ok {d : Descriptor} {disk : Disk} {base? : Option Path}
    {script : Script} (loaded : d.toScript disk base? = .ok script) :
    ∃ text languageName, d.readText disk base? = .ok text ∧ text ≠ "" ∧
      script = ⟨d.name, d.resolvedLanguage, languageName, text, d.dependencies, d.executable⟩ := by
  obtain ⟨text, read, made⟩ := Result.bind_eq_ok.mp loaded
  refine ⟨text, if d.resolvedLanguage = .other then some d.language else none, read, ?_⟩
  rw [withText] at made
  cases taken : Checked.someText (.str text) with
  | error problems =>
      rw [taken] at made
      cases made
  | ok text' =>
      rw [taken] at made
      obtain ⟨-, some, rfl⟩ := Checked.someText_eq_ok_iff.mp taken
      exact ⟨some, (Except.ok.inj made).symm⟩

namespace Builder

theorem isPlaceOf_congr {disk disk' : Disk} (working : disk'.working = disk.working)
    (settings : Settings) (script : Script) (q : Place) :
    IsPlaceOf settings disk' script q ↔ IsPlaceOf settings disk script q := by
  rw [IsPlaceOf, IsPlaceOf, placeOf_congr working, placeOf_congr working]

/-- The files of a script lie in the folder of its name. -/
theorem IsPlaceOf.below {settings : Settings} {disk : Disk} {script : Script} {q : Place}
    (h : IsPlaceOf settings disk script q) (named : Checked.isName script.name) :
    ∃ rest, q = disk.placeOf settings.buildDir ++ script.name :: rest := by
  rcases h with rfl | rfl
  · exact ⟨_, placeOf_artifact disk settings named⟩
  · exact ⟨_, placeOf_dependencyFile disk settings named⟩

/-- Scripts with different names have no file in common. -/
theorem IsPlaceOf.apart {settings : Settings} {disk : Disk} {script other : Script} {q : Place}
    (h : IsPlaceOf settings disk script q) (h' : IsPlaceOf settings disk other q)
    (named : Checked.isName script.name) (named' : Checked.isName other.name) :
    script.name = other.name := by
  obtain ⟨rest, rfl⟩ := h.below named
  obtain ⟨rest', together⟩ := h'.below named'
  exact (List.cons.inj (List.append_cancel_left together)).1

/-- The files stay as they are while others are written. -/
theorem HasFiles.of_writesAt {settings : Settings} {toolbox : Toolbox} {disk disk' : Disk}
    {script : Script} {places : Place → Prop} (h : HasFiles settings toolbox disk script)
    (writes : disk.WritesAt places disk')
    (outside : ∀ q, IsPlaceOf settings disk script q → ¬ places q) :
    HasFiles settings toolbox disk' script :=
  ⟨h.text.of_writesAt writes (outside _ (.inl rfl)),
    h.dependencies.of_writesAt writes (outside _ (.inr rfl))⟩

end Builder

namespace Session

open Activity Analyzer ResultCache Builder

/-- The place is that of an entry of the cache. -/
def IsCacheFile (settings : Settings) (disk : Disk) (place : Place) : Prop :=
  ∃ folder ∈ keptIn settings, ∃ key, IsKey key ∧ place = disk.placeOf (fileFor folder key)

theorem isCacheFile_congr {disk disk' : Disk} (working : disk'.working = disk.working)
    (settings : Settings) (q : Place) :
    IsCacheFile settings disk' q ↔ IsCacheFile settings disk q := by
  simp only [IsCacheFile, placeOf_congr working]

/-- A machine with the same tools on whose disk nothing was written but at some places. -/
structure Spares (places : Place → Prop) (toolbox : Toolbox) (disk : Disk) (m : Machine) : Prop
    where
  toolbox : m.toolbox = toolbox
  writes : disk.WritesAt places m.disk

section

variable {settings : Settings} {places : Place → Prop} {toolbox : Toolbox} {disk : Disk}

/-- Analyses rely on nothing to write to no other places. -/
theorem regime_spares :
    Regime settings (fun _ _ => True) (Spares places toolbox disk) (fun _ => True)
      (fun _ _ => True) where
  versions :=
    { lasting :=
        { called := fun h _ => ⟨h.toolbox, h.writes⟩
          noted := fun h _ => ⟨h.toolbox, h.writes⟩
          begun := fun h _ => ⟨h.toolbox, h.writes⟩
          made := fun h _ made =>
            ⟨h.toolbox, h.writes.trans ((provides_of_ensureFolders made).adds.writesAt _)⟩ }
      asked := fun _ _ => trivial
      noted := fun _ _ => trivial
      notes := fun h _ _ => ⟨h.toolbox, h.writes⟩ }
  kept _ := fun _ => trivial
  remembered _ := fun _ => trivial
  found _ := fun _ _ _ _ _ _ => trivial

/-- Results are kept in the files of the cache. -/
theorem admits_spares (cacheFiles : ∀ q, IsCacheFile settings disk q → places q) (script : Script)
    (kind : AnalyzerKind) :
    Admits settings (fun _ _ => True) (Spares places toolbox disk) (fun _ _ => True) script kind
      where
  right := fun _ _ _ _ _ => trivial
  written := by
    intro version key r m folder disk' _ _ named _ _ h given written
    obtain ⟨_, -, wrote⟩ := compactJson_of_writeEntry written
    have isKey : IsKey key := keyFor_eq_ok named ▸ isKey_key _ _ _
    refine ⟨h.toolbox, h.writes.trans ((writesAt_of_write wrote).mono fun q hq => ?_)⟩
    exact cacheFiles q ⟨folder, given, key, isKey, hq.trans (placeOf_congr h.writes.working _)⟩

end

variable {settings : Settings} {s s' : Session}

/-- More is known of the machine of a session. -/
theorem Holds.withMachine {inv inv' : Machine → Prop} {mem : List (String × AnalysisResult) → Prop}
    (h : s.Holds settings inv mem) {m : Machine} (machine : inv' m) :
    Holds settings inv' mem { s with machine := m } :=
  ⟨h.under, h.analyzers, machine, h.caching, h.folder, h.memory⟩

/-- Whoever writes the files of a script leaves the disk of the build. -/
theorem writeArtifact_eq_ok {script : Script} {artifact : Artifact}
    (wrote : (writeArtifact script).run s = (.ok artifact, s')) :
    ∃ disk, Builder.build s.settings s.machine.toolbox script s.machine.disk =
        (.ok artifact, disk) ∧
      s' = { s with machine := { s.machine with disk } } := by
  rw [writeArtifact, run_bind, run_get] at wrote
  rcases built : Builder.build s.settings s.machine.toolbox script s.machine.disk with
    ⟨written, disk⟩
  simp only [built, run_bind, run_modify] at wrote
  cases written with
  | error fault => cases wrote
  | ok artifact' =>
      cases wrote
      exact ⟨disk, rfl, rfl⟩

/-- A finished build has written its files and leaves the session of that, with the report it was
given and the tests that belong to it. -/
theorem finish_eq_ok {script : Script} {selection : Selection} {extras : List (String × ExtraTest)}
    {report : Report} {output : BuildOutput}
    (finished : (finish script selection extras report).run s = (.ok output, s')) :
    ∃ disk, Builder.build s.settings s.machine.toolbox script s.machine.disk =
        (.ok output.artifact, disk) ∧
      s' = { s with machine := { s.machine with disk } } ∧
      output.report = report ∧
      TestMap.generate s.analyzers report output.artifact selection extras = .ok output.tests := by
  obtain ⟨artifact, s1, wrote, tested⟩ := run_bind_eq_ok.mp finished
  obtain ⟨_, _, got, tested⟩ := run_bind_eq_ok.mp tested
  obtain ⟨tests, s2, made, given⟩ := run_bind_eq_ok.mp tested
  cases got
  cases given
  rw [run_liftM] at made
  obtain ⟨generated, rfl⟩ := Prod.mk.inj made
  obtain ⟨disk, built, rfl⟩ := writeArtifact_eq_ok wrote
  exact ⟨disk, built, rfl, rfl, generated⟩

/-- Analyses write to the files of the cache and nowhere else. -/
theorem spares_of_runInOrder {inv : Machine → Prop} {script : Script} {selection : Selection}
    {useCache : Bool} {found : Report}
    (h : s.Holds settings inv fun _ => True)
    (ran : (runInOrder script selection useCache).run s = (.ok found, s')) :
    s'.Holds settings
        (Spares (IsCacheFile settings s.machine.disk) s.machine.toolbox s.machine.disk)
        (fun _ => True) ∧
      script.checkContent = .ok () := by
  have begins : s.Holds settings
      (Spares (IsCacheFile settings s.machine.disk) s.machine.toolbox s.machine.disk)
      (fun _ => True) := h.withMachine ⟨rfl, .refl _ _⟩
  have ends : (runInOrder script selection useCache s).Ensures _ _ :=
    ensures_runInOrder_holds regime_spares
      (fun _ kind _ => admits_spares (fun _ hq => hq) script kind) begins
  have ends := ensures_run ends
  rw [ran] at ends
  exact ends found rfl

/-- Where the build of a script writes. -/
def IsWritten (settings : Settings) (disk : Disk) (scripts : List Script) (q : Place) : Prop :=
  IsCacheFile settings disk q ∨ ∃ script ∈ scripts, IsPlaceOf settings disk script q

/-- The build of one script: its files are as they should be, and besides them only files of the
cache were written. -/
theorem hasFiles_of_buildInOrder {inv : Machine → Prop} {script : Script} {selection : Selection}
    {extras : List (String × ExtraTest)} {output : BuildOutput}
    (named : Checked.isName script.name) (h : s.Holds settings inv fun _ => True)
    (ran : (buildInOrder script selection extras).run s = (.ok output, s')) :
    s'.Holds settings
        (Spares (IsWritten settings s.machine.disk [script]) s.machine.toolbox s.machine.disk)
        (fun _ => True) ∧
      script.checkContent = .ok () ∧ output.artifact = artifactFor settings script ∧
      HasFiles settings s.machine.toolbox s'.machine.disk script := by
  obtain ⟨found, s1, analysed, finished⟩ := run_bind_eq_ok.mp ran
  obtain ⟨h1, content⟩ := spares_of_runInOrder h analysed
  obtain ⟨disk, built, rfl, -, -⟩ := finish_eq_ok finished
  rw [h1.under, h1.machine.toolbox] at built
  obtain ⟨artifact, -, writes, files⟩ := hasFiles_of_build named built
  have analyses := h1.machine.writes
  have all : s.machine.disk.WritesAt (IsWritten settings s.machine.disk [script]) disk := by
    refine .trans (analyses.mono fun q => .inl) (writes.mono fun q hq => .inr ?_)
    refine ⟨script, List.mem_singleton_self _, ?_⟩
    exact (isPlaceOf_congr analyses.working settings script q).mp hq
  exact ⟨h1.withMachine ⟨h1.machine.toolbox, all⟩, content, artifact, files⟩

/-- Scripts are built one after another as long as all of them could be loaded. -/
theorem loaded_of_buildAllInOrder {loaded : List (Descriptor × Result Script)}
    {outputs : List BuildOutput} (ran : (buildAllInOrder loaded).run s = (.ok outputs, s')) :
    ∃ described : List (Descriptor × Script),
      loaded = described.map fun (d, script) => (d, .ok script) := by
  induction loaded generalizing s outputs with
  | nil => exact ⟨[], rfl⟩
  | cons pair loaded ih =>
      obtain ⟨d, found⟩ := pair
      rw [buildAllInOrder, List.mapM_cons] at ran
      obtain ⟨output, s1, first, others⟩ := run_bind_eq_ok.mp ran
      obtain ⟨more, s2, rest, ends⟩ := run_bind_eq_ok.mp others
      cases ends
      obtain ⟨script, s3, given, -⟩ := run_bind_eq_ok.mp first
      obtain ⟨described, rfl⟩ := ih rest
      cases congrArg Prod.fst given
      exact ⟨(d, script) :: described, rfl⟩

/-- The builds of scripts with different names: the files of each of them are as they should be in
the end, and nothing was written elsewhere but files of the cache. -/
theorem hasFiles_of_buildAllInOrder {inv : Machine → Prop} {described : List (Descriptor × Script)}
    {outputs : List BuildOutput} (h : s.Holds settings inv fun _ => True)
    (named : ∀ pair ∈ described, Checked.isName pair.2.name)
    (distinct : (described.map (·.2.name)).Nodup)
    (apart : ∀ pair ∈ described, ∀ q, IsPlaceOf settings s.machine.disk pair.2 q →
      ¬ IsCacheFile settings s.machine.disk q)
    (ran : (buildAllInOrder (described.map fun (d, script) => (d, .ok script))).run s =
      (.ok outputs, s')) :
    s'.Holds settings
        (Spares (IsWritten settings s.machine.disk (described.map Prod.snd)) s.machine.toolbox
          s.machine.disk)
        (fun _ => True) ∧
      List.Forall₂ (fun pair output => pair.2.checkContent = .ok () ∧
        output.artifact = artifactFor settings pair.2 ∧
        HasFiles settings s.machine.toolbox s'.machine.disk pair.2) described outputs := by
  induction described generalizing s inv outputs with
  | nil =>
      cases ran
      exact ⟨h.withMachine ⟨rfl, .refl _ _⟩, .nil⟩
  | cons pair described ih =>
      obtain ⟨d, script⟩ := pair
      rw [List.forall_mem_cons] at named apart
      rw [List.map_cons, List.nodup_cons] at distinct
      rw [List.map_cons, buildAllInOrder, List.mapM_cons] at ran
      obtain ⟨output, s1, first, others⟩ := run_bind_eq_ok.mp ran
      obtain ⟨more, s2, rest, given⟩ := run_bind_eq_ok.mp others
      cases given
      obtain ⟨h1, content, artifact, files⟩ := hasFiles_of_buildInOrder named.1 h first
      have working := h1.machine.writes.working
      have cache (q : Place) := isCacheFile_congr working settings q
      have places (other : Script) (q : Place) := isPlaceOf_congr working settings other q
      obtain ⟨h2, later⟩ := ih h1 named.2 distinct.2
        (fun other hother q hq hc => apart.2 other hother q ((places other.2 q).mp hq)
          ((cache q).mp hc)) rest
      rw [h1.machine.toolbox] at h2 later
      have writes : s.machine.disk.WritesAt
          (IsWritten settings s.machine.disk (script :: described.map Prod.snd))
          s'.machine.disk := by
        refine .trans (h1.machine.writes.mono fun q hq => hq.imp_right ?_)
          (h2.machine.writes.mono fun q hq => hq.imp (cache q).mp ?_)
        · rintro ⟨other, hother, hq⟩
          exact ⟨other, List.mem_cons.mpr (.inl (List.mem_singleton.mp hother)), hq⟩
        · rintro ⟨other, hother, hq⟩
          exact ⟨other, List.mem_cons_of_mem _ hother, (places other q).mp hq⟩
      have stays : HasFiles settings s.machine.toolbox s'.machine.disk script := by
        refine files.of_writesAt h2.machine.writes fun q hq written => ?_
        rcases written with hc | ⟨other, hother, hq'⟩
        · exact apart.1 q ((places script q).mp hq) ((cache q).mp hc)
        · obtain ⟨pair, hpair, rfl⟩ := List.mem_map.mp hother
          have same := hq.apart hq' named.1 (named.2 pair hpair)
          exact distinct.1 (List.mem_map.mpr ⟨pair, hpair, same.symm⟩)
      exact ⟨h2.withMachine ⟨h2.machine.toolbox, writes⟩, .cons ⟨content, artifact, stays⟩ later⟩

theorem repeatedName?_eq_none_iff {seen names : List String} :
    repeatedName? seen names = none ↔ names.Nodup ∧ ∀ name ∈ names, name ∉ seen := by
  induction names generalizing seen with
  | nil => simp [repeatedName?]
  | cons name names ih =>
      rw [repeatedName?]
      by_cases again : name ∈ seen
      · simp [again]
      · have new : ¬ seen.contains name = true := by simpa using again
        rw [if_neg new, ih, List.nodup_cons, List.forall_mem_cons]
        simp only [List.mem_cons, not_or]
        constructor
        · rintro ⟨nodup, apart⟩
          exact ⟨⟨fun hn => (apart name hn).1 rfl, nodup⟩, again, fun n hn => (apart n hn).2⟩
        · rintro ⟨⟨first, nodup⟩, -, apart⟩
          exact ⟨nodup, fun n hn => ⟨fun same => first (same ▸ hn), apart n hn⟩⟩

/-- When scripts are built together their names are different, all of them were loaded before
anything was written, and then they were built one after another. -/
theorem buildAll_eq_ok {descriptors : List Descriptor} {base? : Option Path}
    {outputs : List BuildOutput} (ran : (buildAll descriptors base?).run s = (.ok outputs, s')) :
    (descriptors.map (·.name)).Nodup ∧ ∃ (described : List (Descriptor × Script)) (last : Session),
      descriptors = described.map Prod.fst ∧
      (∀ pair ∈ described, pair.1.toScript s.machine.disk base? = .ok pair.2) ∧
      (buildAllInOrder (described.map fun (d, script) => (d, .ok script))).run s =
        (.ok outputs, last) ∧
      s'.machine.disk = last.machine.disk := by
  rw [buildAll] at ran
  cases repeated : repeatedName? [] (descriptors.map (·.name)) with
  | some name =>
      rw [repeated] at ran
      cases ran
  | none =>
      refine ⟨(repeatedName?_eq_none_iff.mp repeated).1, ?_⟩
      simp only [repeated, run_bind, run_get] at ran
      rcases built : (buildAllInOrder
        (descriptors.map fun d => (d, d.toScript s.machine.disk base?))).run s with ⟨result, last⟩
      rw [built] at ran
      cases result with
      | error fault => cases ran
      | ok built' =>
          cases ran
          obtain ⟨described, loaded⟩ := loaded_of_buildAllInOrder built
          rw [loaded] at built
          refine ⟨described, last, ?_, fun pair hpair => ?_, built, rfl⟩
          · have fields := congrArg (List.map Prod.fst) loaded
            simpa [Function.comp_def] using fields
          · have listed : (pair.1, Except.ok pair.2) ∈
                descriptors.map fun d => (d, d.toScript s.machine.disk base?) := by
              rw [loaded]
              exact List.mem_map_of_mem hpair
            obtain ⟨d, -, same⟩ := List.mem_map.mp listed
            cases congrArg Prod.fst same
            exact congrArg Prod.snd same

/-- Scripts that were loaded have the fields that are described. -/
theorem fields_of_loaded {disk : Disk} {base? : Option Path}
    {described : List (Descriptor × Script)}
    (loaded : ∀ pair ∈ described, pair.1.toScript disk base? = .ok pair.2) :
    ∀ pair ∈ described, pair.2.name = pair.1.name ∧ pair.2.executable = pair.1.executable := by
  intro pair hpair
  obtain ⟨text, languageName, -, -, script⟩ := Descriptor.toScript_eq_ok (loaded pair hpair)
  rw [script]
  exact ⟨rfl, rfl⟩

theorem names_of_loaded {disk : Disk} {base? : Option Path}
    {described : List (Descriptor × Script)}
    (loaded : ∀ pair ∈ described, pair.1.toScript disk base? = .ok pair.2) :
    (described.map Prod.fst).map (·.name) = described.map (·.2.name) := by
  rw [List.map_map]
  exact List.map_congr_left fun pair hpair => (fields_of_loaded loaded pair hpair).1.symm

/-- Two folders of which neither lies in the other. -/
def AreApart (place other : Place) : Prop :=
  ¬ place <+: other ∧ ¬ other <+: place

/-- The cache does not write below a folder that is apart from its own. -/
theorem not_below_of_isCacheFile {disk : Disk} {place q : Place}
    (apart : ∀ folder ∈ keptIn settings, AreApart (disk.placeOf folder) place)
    (entry : IsCacheFile settings disk q) : ¬ place <+: q := by
  obtain ⟨folder, given, key, isKey, rfl⟩ := entry
  obtain ⟨above, below⟩ := apart folder given
  have place : disk.placeOf (fileFor folder key) = disk.placeOf folder ++ [entryName key] :=
    placeOf_child disk folder (isStepName_entryName isKey)
  rw [place]
  intro inside
  have kept : disk.placeOf folder <+: disk.placeOf folder ++ [entryName key] :=
    List.prefix_append _ _
  rcases List.prefix_or_prefix_of_prefix inside kept with nested | nested
  · exact below nested
  · exact above nested

/-- The names that lead to the file of a described script from the build folder. -/
def artifactNames (d : Descriptor) : List String :=
  [d.name, groupName d.executable, d.name]

/-- The names that lead to the file beside it. -/
def dependencyNames (d : Descriptor) : List String :=
  [d.name, groupName d.executable, d.name ++ ".deps.json"]

/-- Below the build folder only the files of the described scripts are written. -/
theorem exists_names_of_isWritten {disk : Disk} {described : List (Descriptor × Script)}
    (below : ∀ q, IsCacheFile settings disk q → ¬ disk.placeOf settings.buildDir <+: q)
    (fields : ∀ pair ∈ described, pair.2.name = pair.1.name ∧
      pair.2.executable = pair.1.executable)
    (named : ∀ pair ∈ described, Checked.isName pair.2.name) {names : List String}
    (written : IsWritten settings disk (described.map Prod.snd)
      (disk.placeOf settings.buildDir ++ names)) :
    ∃ d ∈ described.map Prod.fst, names = artifactNames d ∨ names = dependencyNames d := by
  rcases written with entry | ⟨script, hscript, isPlace⟩
  · exact absurd (List.prefix_append _ _) (below _ entry)
  · obtain ⟨pair, hpair, rfl⟩ := List.mem_map.mp hscript
    obtain ⟨name, executable⟩ := fields pair hpair
    refine ⟨pair.1, List.mem_map_of_mem hpair, ?_⟩
    rw [artifactNames, dependencyNames, ← name, ← executable]
    rw [IsPlaceOf, placeOf_artifact disk settings (named pair hpair),
      placeOf_dependencyFile disk settings (named pair hpair)] at isPlace
    exact isPlace.imp List.append_cancel_left List.append_cancel_left

/-- What the build of a described script leaves on the disk: the text that was read before, after a
line that names the interpreter if one is wanted, and the list of what the script depends on. -/
structure IsBuilt (settings : Settings) (base? : Option Path) (before after : Disk)
    (d : Descriptor) (output : BuildOutput) : Prop where
  place : after.resolve output.artifact.path =
    .ok (before.placeOf settings.buildDir ++ artifactNames d)
  text : ∃ line text, d.readText before base? = .ok text ∧ IsShebang line ∧
    (line = "" ↔ d.executable = false ∨ "#!".toList.isPrefixOf text.toList ∨
      d.resolvedLanguage = .other) ∧
    after.read output.artifact.path = .ok (Text.Utf8.encodeString (line ++ text))
  dependencies : ∃ file text,
    after.resolve file = .ok (before.placeOf settings.buildDir ++ dependencyNames d) ∧
    after.read file = .ok (Text.Utf8.encodeString text) ∧
    Json.parse text = .ok (Json.ofStrings d.dependencies)

theorem isBuilt_of_hasFiles {d : Descriptor} {base? : Option Path} {before after : Disk}
    {toolbox : Toolbox} {script : Script} {output : BuildOutput}
    (named : Checked.isName d.name) (loaded : d.toScript before base? = .ok script)
    (content : script.checkContent = .ok ())
    (artifact : output.artifact = artifactFor settings script)
    (working : after.working = before.working)
    (files : HasFiles settings toolbox after script) :
    IsBuilt settings base? before after d output := by
  obtain ⟨text, languageName, read, -, script_eq⟩ := Descriptor.toScript_eq_ok loaded
  have name : script.name = d.name := by rw [script_eq]
  have executable : script.executable = d.executable := by rw [script_eq]
  have source : script.sourceText = text := by rw [script_eq]
  have language : script.language = d.resolvedLanguage := by rw [script_eq]
  have dependencies : script.dependencies = d.dependencies := by rw [script_eq]
  rw [← name] at named
  obtain ⟨line, built, shebang, bare⟩ := builtText_eq_append settings toolbox script
  have place := placeOf_artifact after settings named
  have depsPlace := placeOf_dependencyFile after settings named
  have parsed := parse_dependencyText content
  rw [placeOf_congr working settings.buildDir, name, executable] at place depsPlace
  rw [IsVerbatim, executable, source, language] at bare
  rw [source] at built
  rw [dependencies] at parsed
  have textAt := files.text
  have depsAt := files.dependencies
  rw [built] at textAt
  refine ⟨?_, ⟨line, text, read, shebang, bare, ?_⟩, ?_⟩
  · rw [artifact, textAt.resolves, place, artifactNames]
  · rw [artifact]
    exact holdsAt_iff_read.mp textAt
  · refine ⟨dependencyFile settings script, dependencyText script, ?_,
      holdsAt_iff_read.mp depsAt, parsed⟩
    rw [depsAt.resolves, depsPlace, dependencyNames]

/-- Scripts that are built together do not disturb each other's files. After a build of scripts with
names that scripts can have, every script has its text in the file of its name and its dependencies
beside it, nothing else was written below the build folder, and no such name leads out of it. -/
theorem files_of_buildAll {descriptors : List Descriptor} {base? : Option Path}
    {outputs : List BuildOutput} (h : s.Holds settings (fun _ => True) fun _ => True)
    (named : ∀ d ∈ descriptors, Checked.isName d.name)
    (apart : ∀ folder ∈ keptIn settings,
      AreApart (s.machine.disk.placeOf folder) (s.machine.disk.placeOf settings.buildDir))
    (built : (buildAll descriptors base?).run s = (.ok outputs, s')) :
    (descriptors.map (·.name)).Nodup ∧
      List.Forall₂ (IsBuilt settings base? s.machine.disk s'.machine.disk) descriptors outputs ∧
      (∀ names, (∀ d ∈ descriptors, names ≠ artifactNames d ∧ names ≠ dependencyNames d) →
        ∀ content executable,
          (s'.machine.disk.entry? (s.machine.disk.placeOf settings.buildDir ++ names) =
              some (.file content executable) ↔
            s.machine.disk.entry? (s.machine.disk.placeOf settings.buildDir ++ names) =
              some (.file content executable))) ∧
      ∀ (disk : Disk) (script : Script) (place : Place), Checked.isName script.name →
        (disk.resolve (artifactFor settings script).path = .ok place ∨
          disk.resolve (dependencyFile settings script) = .ok place) →
        disk.placeOf settings.buildDir ++ [script.name] <+: place := by
  obtain ⟨nodup, described, last, rfl, loaded, ran, same⟩ := buildAll_eq_ok built
  have scripts := fields_of_loaded loaded
  have named' (pair : Descriptor × Script) (hpair : pair ∈ described) :
      Checked.isName pair.2.name := by
    rw [(scripts pair hpair).1]
    exact named pair.1 (List.mem_map_of_mem hpair)
  have distinct := names_of_loaded loaded ▸ nodup
  have below (q : Place) (entry : IsCacheFile settings s.machine.disk q) :
      ¬ s.machine.disk.placeOf settings.buildDir <+: q := not_below_of_isCacheFile apart entry
  obtain ⟨h', all⟩ := hasFiles_of_buildAllInOrder h named' distinct
    (fun pair hpair q hq hc => by
      obtain ⟨rest, inside⟩ := hq.below (named' pair hpair)
      exact below q hc ⟨_, inside.symm⟩) ran
  have writes := h'.machine.writes
  rw [same]
  refine ⟨nodup, ?_, ?_, ?_⟩
  · rw [List.forall₂_map_left_iff]
    refine ((List.forall₂_and_left _ _).mpr ⟨fun pair hpair => hpair, all⟩).imp ?_
    rintro pair output ⟨hpair, content, artifact, files⟩
    exact isBuilt_of_hasFiles (named _ (List.mem_map_of_mem hpair)) (loaded pair hpair) content
      artifact writes.working files
  · intro names other content executable
    refine writes.file_iff fun written => ?_
    obtain ⟨d, hd, name⟩ := exists_names_of_isWritten below scripts named' written
    exact name.elim (other d hd).1 (other d hd).2
  · intro disk script place isName resolved
    have isPlace : IsPlaceOf settings disk script place :=
      resolved.imp placeOf_of_resolve placeOf_of_resolve
    obtain ⟨rest, rfl⟩ := isPlace.below isName
    exact ⟨rest, by simp⟩

/-- A program and a library that share their beginning are built together. -/
theorem files_of_buildAll_pair :
    let settings : Settings := { Settings.atRoot with persistCache := true }
    let machine : Machine := { Machine.answering (.finished [] [] 0) with
      disk := ⟨[], [(["cache"], .folder)]⟩ }
    let cache : ResultCache := ⟨some ⟨1, ["cache"]⟩, []⟩
    let s : Session := ⟨settings, builtinAnalyzers settings, some cache, machine⟩
    let descriptors : List Descriptor := [
      { name := "a", language := "python", source := .text "pass\n", dependencies := ["😀"] },
      { name := "a.deps.json", language := "python", source := .text "pass\n",
        executable := false }]
    (∀ d ∈ descriptors, Checked.isName d.name) ∧ ∃ outputs s',
      (buildAll descriptors none).run s = (.ok outputs, s') ∧
      List.Forall₂ (IsBuilt settings none s.machine.disk s'.machine.disk) descriptors outputs := by
  intro settings machine cache s descriptors
  have named : ∀ d ∈ descriptors, Checked.isName d.name := by decide
  have ok : ((buildAll descriptors none).run s).1.isOk := by decide +kernel
  rcases built : (buildAll descriptors none).run s with ⟨result, s'⟩
  rw [built] at ok
  cases result with
  | error fault => cases ok
  | ok outputs =>
      have h : s.Holds settings (fun _ => True) fun _ => True := by
        refine ⟨rfl, rfl, trivial, rfl, fun cache hc => ?_, fun _ _ => trivial⟩
        cases hc
        rfl
      have apart : ∀ folder ∈ keptIn settings,
          AreApart (s.machine.disk.placeOf folder) (s.machine.disk.placeOf settings.buildDir) := by
        intro folder given
        cases given
        unfold AreApart
        decide
      exact ⟨named, outputs, s', rfl, (files_of_buildAll h named apart built).2.1⟩

end Session

end ScriptVet
