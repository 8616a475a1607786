import ScriptVet.Proofs.CommandLine.ExitCodes
import ScriptVet.Proofs.CommandLine.TestedBuilds
import ScriptVet.Proofs.ReportData
import ScriptVet.Proofs.SavedResults
import ScriptVet.Proofs.Session.FirstRun

/-!
# One script before both commands

The same script can be given to `check` by options and to `build` by a manifest that lists it alone.
Either command makes a descriptor of its own of it and reads its file, and from there on they do the
same, so that they come to the same report. What they print of it is not the same. Where the one can
print it and the other cannot, their exit codes differ unless the report has failed anyway.
-/

namespace ScriptVet

open Activity

namespace Descriptor

/-- A script of which only the name, the language and the source are declared. -/
def declared (name language : String) (source : Source) : Descriptor :=
  { name, language, source }

variable {name language file text : String} {p base : Path} {disk disk' : Disk}

/-- The fields of a script that is declared by its file. -/
def fileFields (name language file : String) : Json :=
  .obj [("name", .str name), ("language", .str language), ("path", .str file)]

theorem ofJson_fileFields (named : Checked.isName name) (language file : String) :
    ofJson (fileFields name language file) =
      .ok (declared name language (.file (.ofString file))) := by
  have nameDecoded : Checked.name (.str name) = .ok name := Checked.name_eq_ok_iff.mpr ⟨rfl, named⟩
  rw [fileFields, ofJson, Checked.recordFields, Result.ok_bind,
    Checked.required_of_getField rfl nameDecoded]
  rfl

/-- It makes no difference whether the text is read beforehand. -/
theorem toScript_of_readTextFile (read : readTextFile disk (base.join p) = .ok text) :
    (declared name language (.file p)).toScript disk (some base) =
      (declared name language (.text text)).toScript disk' none := by
  have fromFile : (declared name language (.file p)).readText disk (some base) = .ok text := by
    rw [declared, readText]
    simp only [Option.elim, read]
  have given : (declared name language (.text text)).readText disk' none = .ok text := rfl
  rw [toScript, toScript, fromFile, given]
  rfl

/-- Folders that are added leave what is read from files. -/
theorem readTextFile_of_addsFolders (adds : disk.AddsFolders disk')
    (read : readTextFile disk p = .ok text) : readTextFile disk' p = .ok text := by
  rw [readTextFile] at read ⊢
  cases given : disk.read p with
  | error e =>
      rw [given] at read
      cases read
  | ok content =>
      rw [given] at read
      rw [Disk.read_of_addsFolders adds given]
      exact read

end Descriptor

/-- A manifest that lists one script by its file. -/
theorem Manifest.load_of_fileFields {disk : Disk} {manifest : Path}
    {text name language file : String} (named : Checked.isName name)
    (read : Descriptor.readTextFile disk manifest = .ok text)
    (parsed : Json.parse text = .ok (.arr [Descriptor.fileFields name language file])) :
    load disk manifest = .ok [.declared name language (.file (.ofString file))] := by
  have items : Checked.list Descriptor.ofJson (.arr [Descriptor.fileFields name language file]) =
      .ok [.declared name language (.file (.ofString file))] := by
    have one := Descriptor.ofJson_fileFields named language file
    simp only [Checked.list, Checked.items, List.mapIdx_cons, List.mapIdx_nil, one]
    rfl
  rw [load, read, Result.ok_bind, parsed]
  simp only [descriptors, scripts, items]
  rfl

namespace Session

/-- A build of one script is the run that a check makes, and then the files and the tests. -/
theorem run_of_buildAll_one {d : Descriptor} {base? : Option Path} {outputs : List BuildOutput}
    {s s' : Session} (ran : (buildAll [d] base?).run s = (.ok outputs, s')) :
    ∃ script output, d.toScript s.machine.disk base? = .ok script ∧ outputs = [output] ∧
      ((run script d.selection true).run s).1 = .ok output.report := by
  obtain ⟨-, described, last, alone, loaded, inOrder, -⟩ := buildAll_eq_ok ran
  obtain ⟨⟨d', script⟩, rfl, rfl⟩ := List.map_eq_singleton_iff.mp alone.symm
  have load := loaded _ List.mem_cons_self
  rw [buildAllInOrder, List.map_cons, List.map_nil, List.mapM_cons] at inOrder
  obtain ⟨output, s1, built, rest⟩ := run_bind_eq_ok.mp inOrder
  cases rest
  obtain ⟨_, _, given, built⟩ := run_bind_eq_ok.mp built
  cases given
  obtain ⟨found, s2, reported, finished⟩ := run_bind_eq_ok.mp built
  obtain ⟨-, -, -, same, -⟩ := finish_eq_ok finished
  refine ⟨_, output, load, rfl, ?_⟩
  rw [run, run_settle, reported, same]

/-- The results of the first report after an empty cache can be kept in files. -/
theorem isPortable_of_first_run {settings : Settings} {s : Session} {script : Script}
    {selection : Selection} {found : Report} (empty : s.CacheIsEmpty settings)
    (on : selection.isEnabled .parses)
    (ran : ((run script selection true).run s).1 = .ok found) :
    ∀ r ∈ found.results, r.IsPortable := by
  have inOrder := run_run_fst script selection true s
  rw [ran] at inOrder
  rcases ran' : (runInOrder script selection true).run s with ⟨_ | found', s'⟩
  · rw [ran'] at inOrder
    cases inOrder
  · rw [ran'] at inOrder
    obtain rfl := Option.some.inj inOrder
    obtain ⟨-, right, -⟩ := results_of_first_run empty on ran'
    exact fun r hr => (Analyzer.gives_of_outcome (right r hr).comes).portable

end Session

namespace CommandLine

variable {settings : Settings} {m checked built : Machine} {name language file : String}
  {manifest : Path} {format : Format} {saveTo : Option Path} {report : Report}
  {outputs : List BuildOutput}

/-- The script that options and a manifest declare: it has a name that scripts can have and a
language, it is the only one in the manifest, and its file is the same seen from there. -/
structure DeclaresScript (disk : Disk) (name language file : String) (manifest : Path) : Prop where
  named : Checked.isName name
  inLanguage : language ≠ ""
  listed : ∃ text, Descriptor.readTextFile disk manifest = .ok text ∧
    Json.parse text = .ok (.arr [Descriptor.fileFields name language file])
  sameFile : Descriptor.readTextFile disk (manifest.parent.join (.ofString file)) =
    Descriptor.readTextFile disk (.ofString file)

/-- The request to check a file as a script of some name and language. -/
def CheckRequest.ofScript (name language file : String) (format : Format) : CheckRequest :=
  ⟨.ofString file, some name, some language, [], [], format, true⟩

/-- The request to build the scripts of a manifest without running tests. -/
def BuildRequest.ofManifest (manifest : Path) (saveTo : Option Path) : BuildRequest :=
  ⟨manifest, none, saveTo, false⟩

/-- The report that a check comes to, whether it can be printed or not. -/
def CheckRequest.reported (request : CheckRequest) (settings : Settings) : Work Report := do
  let (script, selection) ← request.load (← get).disk
  Session.within (request.adjust settings) (Session.run script selection true)

/-- Nothing is found in the files of the cache when a session begins. -/
def KeepsNothing (settings : Settings) (m : Machine) : Prop :=
  ∀ s, Session.start settings (Session.builtinAnalyzers settings) m = .ok s →
    ∀ r, ¬ s.KeptInFile r

/-! ## The report -/

theorem textOr_some {text usual : String} (h : text ≠ "") : textOr (some text) usual = text := by
  simp [textOr, Option.filter, h]

/-- The script that a check loads from a file that can be read. -/
theorem load_ofScript {disk : Disk} {text : String} (named : Checked.isName name)
    (inLanguage : language ≠ "") (read : Descriptor.readTextFile disk (.ofString file) = .ok text) :
    let d := Descriptor.declared name language (.text text)
    (CheckRequest.ofScript name language file format).load disk =
      (d.toScript disk none).map fun script => (script, d.selection) := by
  intro d
  have some : name ≠ "" := by
    rintro rfl
    cases named
  have sameName : textOr (Option.some name) (Path.ofString file).stem = name := textOr_some some
  have called : Checked.isName (textOr (CheckRequest.ofScript name language file format).name
      (CheckRequest.ofScript name language file format).file.stem) := by
    simp only [CheckRequest.ofScript, sameName, named]
  obtain ⟨d', -, described, load⟩ := CheckRequest.load_of_text called read
  have same : d' = d := by
    rw [CheckRequest.descriptor_eq_ok called] at described
    simp only [CheckRequest.ofScript, sameName, textOr_some inLanguage] at described
    exact (Except.ok.inj described).symm
  rw [load, same]

/-- The script that a check loads, and the session in which it reports on it. -/
theorem within_of_run_reported {request : CheckRequest}
    (reports : (request.reported settings).run m = (.ok report, checked)) :
    ∃ script selection, request.load m.disk = .ok (script, selection) ∧
      (Session.within (request.adjust settings) (Session.run script selection true)).run m =
        (.ok report, checked) := by
  obtain ⟨_, _, got, reports⟩ := run_bind_eq_ok.mp reports
  cases got
  obtain ⟨⟨script, selection⟩, _, loaded, reports⟩ := run_bind_eq_ok.mp reports
  rw [run_liftM] at loaded
  obtain ⟨loads, rfl⟩ := Prod.mk.inj loaded
  exact ⟨script, selection, loads, reports⟩

/-- A new session finds in a file what was there before. -/
theorem readTextFile_of_start {s : Session} {p : Path} {text : String}
    (started : Session.start settings (Session.builtinAnalyzers settings) m = .ok s)
    (read : Descriptor.readTextFile m.disk p = .ok text) :
    Descriptor.readTextFile s.machine.disk p = .ok text := by
  obtain ⟨disk, rfl, provides⟩ := Session.start_eq_ok started
  cases kept : Session.keptIn settings with
  | none =>
      rw [kept] at provides
      subst provides
      exact read
  | some folder =>
      rw [kept] at provides
      exact Descriptor.readTextFile_of_addsFolders provides.adds read

/-- Both commands come to the same report on the same script, and it is the only one of the
build. -/
theorem reports_eq_of_declaresScript (declares : DeclaresScript m.disk name language file manifest)
    (reports : ((CheckRequest.ofScript name language file format).reported settings).run m =
      (.ok report, checked))
    (builds : ((BuildRequest.ofManifest manifest saveTo).outputs settings).run m =
      (.ok outputs, built)) : outputs.map (·.report) = [report] := by
  obtain ⟨script, selection, loads, within⟩ := within_of_run_reported reports
  obtain ⟨s, _, started, ran⟩ := Session.exists_of_run_within within
  obtain ⟨descriptors, s', _, listed, started', all⟩ := exists_of_run_outputs builds
  obtain ⟨manifestText, manifestRead, parsed⟩ := declares.listed
  have one := Manifest.load_of_fileFields declares.named manifestRead parsed
  obtain rfl := Except.ok.inj (listed.symm.trans one)
  obtain rfl : s = s' := Except.ok.inj (started.symm.trans started')
  obtain ⟨script', output, loads', rfl, ran'⟩ := Session.run_of_buildAll_one all
  obtain ⟨text, read, -⟩ := Result.bind_eq_ok.mp loads
  -- The build reads the file when its session has begun, the check beforehand.
  have readLater := readTextFile_of_start started (declares.sameFile.trans read)
  rw [load_ofScript declares.named declares.inLanguage read,
    ← Descriptor.toScript_of_readTextFile readLater] at loads
  rw [BuildRequest.ofManifest] at loads'
  rw [loads'] at loads
  obtain ⟨rfl, rfl⟩ := Prod.mk.inj (Except.ok.inj loads)
  have same : output.report = report := Except.ok.inj (ran'.symm.trans (congrArg Prod.fst ran))
  rw [List.map_singleton, same]

/-- A file is always checked with the parse check. -/
theorem CheckRequest.isEnabled_parses_of_load {request : CheckRequest} {disk : Disk}
    {script : Script} {selection : Selection}
    (loads : request.load disk = .ok (script, selection)) :
    selection.isEnabled .parses := by
  obtain ⟨text, -, loads⟩ := Result.bind_eq_ok.mp loads
  obtain ⟨descriptor, -, loads⟩ := Result.bind_eq_ok.mp loads
  obtain ⟨script', -, given⟩ := Result.bind_eq_ok.mp loads
  cases given
  rfl

/-- If nothing was kept then the results in the report can be read back from what is written. -/
theorem isPortable_of_reported (nothing : KeepsNothing settings m)
    (reports : ((CheckRequest.ofScript name language file format).reported settings).run m =
      (.ok report, checked)) : ∀ r ∈ report.results, r.IsPortable := by
  obtain ⟨script, selection, loads, within⟩ := within_of_run_reported reports
  obtain ⟨s, _, started, ran⟩ := Session.exists_of_run_within within
  have on := CheckRequest.isEnabled_parses_of_load loads
  have empty : s.CacheIsEmpty settings := Session.cacheIsEmpty_of_start started (nothing s started)
  exact Session.isPortable_of_first_run empty on (congrArg Prod.fst ran)

/-! ## What is printed and saved -/

/-- The reports of a build that were saved are read from their file as they were written. -/
theorem readTextFile_of_printReports {request : BuildRequest} {file : Path}
    {shown : List String × Option String} {printed : Machine}
    (plain : ∀ output ∈ outputs, ∀ r ∈ output.report.results, r.IsPlain)
    (asked : request.reportFile = some file)
    (prints : (request.printReports outputs).run built = (.ok shown, printed)) :
    Descriptor.readTextFile printed.disk file = .ok (reportsText outputs) := by
  have written : built.disk.write file (Text.Utf8.encodeString (reportsText outputs)) =
      .ok printed.disk := by
    rw [run_printReports, asked] at prints
    cases shows : outputs.mapM showOutput with
    | error fault =>
        rw [shows] at prints
        cases prints
    | ok shown' =>
        simp only [shows, run_saveReports] at prints
        cases wrote : built.disk.write file (Text.Utf8.encodeString (reportsText outputs)) with
        | error e =>
            rw [wrote] at prints
            cases prints
        | ok disk =>
            rw [wrote] at prints
            rw [← (Prod.mk.inj prints).2]
  have plainList : (Json.arr (outputs.map (·.report.toJson))).IsPlain :=
    Json.allPlain_map_iff.mpr fun output houtput => Report.isPlain_toJson (plain output houtput)
  exact Descriptor.readTextFile_of_write plainList written

/-- Plain reports are printed and saved, if their file can be written and its path is plain. -/
theorem isOk_printReports {request : BuildRequest}
    (named : ∀ output ∈ outputs, Checked.isName output.report.scriptName)
    (plain : ∀ output ∈ outputs, output.IsPlain)
    (saves : ∀ file, request.reportFile = some file →
      (built.disk.write file (Text.Utf8.encodeString (reportsText outputs))).isOk ∧
        Console.IsPlain file.toString.toList) :
    ((request.printReports outputs).run built).1.isOk := by
  obtain ⟨shown, shows⟩ := exists_showOutputs named plain
  rw [run_printReports, shows]
  cases asked : request.reportFile with
  | none => rfl
  | some file =>
      obtain ⟨writes, plainPath⟩ := saves file asked
      obtain ⟨line, prints⟩ := exists_print_savedLine plainPath
      simp only [run_saveReports]
      cases wrote : built.disk.write file (Text.Utf8.encodeString (reportsText outputs)) with
      | error e =>
          rw [wrote] at writes
          cases writes
      | ok disk =>
          rw [prints]
          rfl

/-- A plain report is shown, and as JSON if no text in it is broken. -/
theorem isOk_show (named : Checked.isName report.scriptName) (plain : report.IsPlain)
    (portable : ∀ r ∈ report.results, r.IsPortable)
    (whole : format = .json → report.toJson.brokenText? = none) : (format.show report).isOk := by
  cases format with
  | summary =>
      obtain ⟨shown, shows⟩ := Console.exists_showReport named plain
      rw [Format.show, shows]
      rfl
  | json =>
      have low : ∀ r ∈ report.results, Json.fieldsHeight r.metadata ≤ Json.heightLimit :=
        fun r hr => Nat.le_trans (portable r hr).low (by decide)
      have text := Report.indentedJson_eq_ok_iff.mpr ⟨low, whole rfl, rfl⟩
      rw [Format.show, text]
      rfl

/-! ## The exit codes -/

theorem exitCode_check_of_reported {request : CheckRequest}
    (reports : (request.reported settings).run m = (.ok report, checked)) :
    (check request settings).exitCode m =
      if (request.format.show report).isOk ∧ report.passed then 0 else 1 := by
  obtain ⟨script, selection, loads, within⟩ := within_of_run_reported reports
  rw [exitCode_check, loads]
  simp only [CheckRequest.report, run_bind, within, run_liftM]
  cases request.format.show report with
  | error fault => rfl
  | ok stdout => simp [Except.isOk, Except.toBool]

theorem exitCode_build_of_outputs {request : BuildRequest} (untested : request.runTests = false)
    (builds : (request.outputs settings).run m = (.ok outputs, built)) :
    (build request settings).exitCode m =
      if ((request.printReports outputs).run built).1.isOk ∧ ∀ output ∈ outputs, output.passed
      then 0 else 1 := by
  obtain ⟨descriptors, listed, -, isOf⟩ := isOf_of_run_outputs builds
  obtain ⟨summary, sums⟩ :=
    exists_summary (isName_of_isOf isOf fun d hd => Manifest.isName_of_load listed hd)
  have closes : printVerdicts outputs none = .ok (none, summary) := by
    rw [printVerdicts, sums]
    rfl
  have well : allWell outputs [] = true ↔ ∀ output ∈ outputs, output.passed :=
    allWell_eq_true_iff.trans (and_iff_left (List.forall_mem_nil _))
  rw [exitCode_build, builds]
  simp only [BuildRequest.verdicts, BuildRequest.testAll, untested, run_bind]
  rcases (request.printReports outputs).run built with ⟨fault | shown, printed⟩
  · rfl
  · simp [closes, well, Except.isOk, Except.toBool]

/-- Exit codes that tell whether a report passed are the same exactly if it failed or either can be
printed where the other can. -/
theorem exitCode_eq_iff {shows prints passed : Prop} [Decidable shows] [Decidable prints]
    [Decidable passed] :
    ((if shows ∧ passed then 0 else 1 : Nat) = if prints ∧ passed then 0 else 1) ↔
      ¬ passed ∨ (shows ↔ prints) := by
  by_cases passed <;> by_cases shows <;> by_cases prints <;> simp [*]

/-- What both commands make of the same script, if nothing is found in the cache and each of them
comes to a report. It is the same report. As JSON it is printed by the one as the only report in the
list that the other writes to its file, for whoever reads both texts. The exit codes are the same
exactly if the report failed or can be printed by either command if by the other. That is so, and
they tell whether the report passed, if it is plain, the file for reports can be written, and no
text in it is broken where it is printed as JSON. -/
theorem agree_of_declaresScript (declares : DeclaresScript m.disk name language file manifest)
    (nothing : KeepsNothing settings m)
    (reports : ((CheckRequest.ofScript name language file format).reported settings).run m =
      (.ok report, checked))
    (builds : ((BuildRequest.ofManifest manifest saveTo).outputs settings).run m =
      (.ok outputs, built)) :
    let checks := CheckRequest.ofScript name language file format
    let request := BuildRequest.ofManifest manifest saveTo
    outputs.map (·.report) = [report] ∧
    (∀ stdout, Format.json.show report = .ok stdout → ∀ dialect : JsonDialect, 204 ≤ dialect.depth →
      (Json.Reader.read dialect (reportsText outputs).toList).toOption =
          (Json.Reader.read dialect stdout.toList).toOption.map (fun v => .arr [v]) ∧
        (dialect.digitLimit = none → Json.Reader.read dialect stdout.toList = .ok report.toJson)) ∧
    (∀ saved shown printed, saveTo = some saved →
      (request.printReports outputs).run built = (.ok shown, printed) →
      Descriptor.readTextFile printed.disk saved = .ok (reportsText outputs)) ∧
    ((check checks settings).exitCode m = (build request settings).exitCode m ↔
      report.verdict = .fail ∨
        ((format.show report).isOk ↔ ((request.printReports outputs).run built).1.isOk)) ∧
    ((∀ output ∈ outputs, output.IsPlain) →
      (format = .json → report.toJson.brokenText? = none) →
      (∀ saved, saveTo = some saved →
        (built.disk.write saved (Text.Utf8.encodeString (reportsText outputs))).isOk ∧
          Console.IsPlain saved.toString.toList) →
      (check checks settings).exitCode m = (if report.passed then 0 else 1) ∧
        (build request settings).exitCode m = if report.passed then 0 else 1) := by
  intro checks request
  have single := reports_eq_of_declaresScript declares reports builds
  obtain ⟨output, rfl, rfl⟩ := List.map_eq_singleton_iff.mp single
  have portable := isPortable_of_reported nothing reports
  have checkCode := exitCode_check_of_reported reports
  have buildCode := exitCode_build_of_outputs rfl builds
  simp only [List.forall_mem_singleton, BuildOutput.passed] at buildCode
  refine ⟨rfl, fun stdout shows dialect deep => ?_, fun saved shown printed asked prints => ?_, ?_,
    fun plain whole saves => ?_⟩
  · obtain ⟨text, rendered, given⟩ := Result.bind_eq_ok.mp shows
    obtain ⟨-, whole, rfl⟩ := Report.indentedJson_eq_ok_iff.mp rendered
    obtain rfl := Except.ok.inj given
    exact Report.read_listed_eq deep portable whole
  · exact readTextFile_of_printReports (List.forall_mem_singleton.mpr fun r hr =>
      (portable r hr).isPlain) asked prints
  · rw [checkCode, buildCode, exitCode_eq_iff, ← Report.passed_eq_false_iff, Bool.not_eq_true]
    rfl
  · obtain ⟨descriptors, listed, -, isOf⟩ := isOf_of_run_outputs builds
    have named := isName_of_isOf isOf fun d hd => Manifest.isName_of_load listed hd
    have shows : (checks.format.show output.report).isOk :=
      isOk_show (named output List.mem_cons_self) (plain output List.mem_cons_self).report portable
        whole
    have prints : ((request.printReports [output]).run built).1.isOk :=
      isOk_printReports named plain saves
    rw [checkCode, buildCode]
    simp only [checks, request] at shows prints
    simp only [shows, prints, true_and, and_self]

/-- A cache that is kept in memory alone keeps nothing from one session to the next. -/
theorem keepsNothing_atRoot (m : Machine) : KeepsNothing .atRoot m := by
  intro s started r kept
  obtain ⟨disk, rfl, -⟩ := Session.start_eq_ok started
  obtain ⟨cache, given, folder, inFolder, -⟩ := kept
  cases given
  cases inFolder

/-- A manifest that lists a script in the file `s.txt`. -/
def oneListed : Json :=
  .arr [Descriptor.fileFields "a" "text" "s.txt"]

/-- A folder with a manifest, the script that it lists, and a folder whose name ends in a
bracket. -/
def listedScript : Machine :=
  { Machine.answering (.finished [] [] 0) with
    disk := ⟨[], [
      (["s.txt"], .file (Text.Utf8.encodeString "x") false), (["x["], .folder),
      (["m.json"], .file (Text.Utf8.encodeString (Json.render .line oneListed)) false)]⟩ }

theorem declaresScript_listedScript :
    DeclaresScript listedScript.disk "a" "text" "s.txt" (.ofString "m.json") where
  named := by decide
  inLanguage := by decide
  listed := by
    have plain : oneListed.IsPlain := ⟨⟨⟨trivial, trivial, trivial, trivial⟩, by decide⟩, trivial⟩
    have content : listedScript.disk.read (.ofString "m.json") =
        .ok (Text.Utf8.encodeString (Json.render .line oneListed)) := rfl
    have unchanged := Text.readNewlines_eq_self (Json.return_notMem_write .line _ plain 0)
    refine ⟨Json.render .line oneListed, ?_, ?_⟩
    · rw [Descriptor.readTextFile, content]
      simp only [Text.Utf8.encodeString, Text.Utf8.decode?_encode]
      rw [Json.render, String.toList_ofList, unchanged]
    · rw [Json.parse, Json.parseWithin, Json.render, String.toList_ofList]
      exact @Json.Reader.read_write .line (.lenient JsonDialect.usualDepth) _ (fun _ => rfl) plain
        (by decide)
  sameFile := rfl

/-- Both commands come to a report, and what was built passes a test. -/
def bothReport (checks : CheckRequest) (request : BuildRequest) (m : Machine)
    (test : List BuildOutput → Machine → Bool) : Bool :=
  match (checks.reported .atRoot).run m, (request.outputs .atRoot).run m with
  | (.ok _, _), (.ok outputs, built) => test outputs built
  | _, _ => false

theorem exists_of_bothReport {checks : CheckRequest} {request : BuildRequest}
    {test : List BuildOutput → Machine → Bool} (h : bothReport checks request m test) :
    ∃ report checked outputs built, (checks.reported .atRoot).run m = (.ok report, checked) ∧
      (request.outputs .atRoot).run m = (.ok outputs, built) ∧ test outputs built := by
  unfold bothReport at h
  split at h
  · next report checked outputs built reports builds =>
      exact ⟨report, checked, outputs, built, reports, builds, h⟩
  · cases h

/-- The requests to check and to build the listed script. What is built does not depend on where
reports are saved. -/
theorem exists_reports_listedScript :
    ∃ report checked outputs built,
      ((CheckRequest.ofScript "a" "text" "s.txt" .json).reported .atRoot).run listedScript =
        (.ok report, checked) ∧
      (∀ saveTo, ((BuildRequest.ofManifest (.ofString "m.json") saveTo).outputs .atRoot).run
        listedScript = (.ok outputs, built)) ∧
      (∀ output ∈ outputs, output.IsPlain ∧ output.report.passed ∧
        output.report.toJson.brokenText? = none) ∧
      ∀ file ∈ ["r.json", "x[/b]"], (built.disk.write (.ofString file)
        (Text.Utf8.encodeString (reportsText outputs))).isOk := by
  have evaluated : bothReport (.ofScript "a" "text" "s.txt" .json)
      (.ofManifest (.ofString "m.json") none) listedScript fun outputs built =>
        (∀ output ∈ outputs, output.IsPlain ∧ output.report.passed ∧
          output.report.toJson.brokenText? = none) ∧
        ∀ file ∈ ["r.json", "x[/b]"], (built.disk.write (.ofString file)
          (Text.Utf8.encodeString (reportsText outputs))).isOk := by
    decide +kernel
  obtain ⟨report, checked, outputs, built, reports, builds, test⟩ := exists_of_bothReport evaluated
  obtain ⟨plain, saves⟩ := of_decide_eq_true test
  exact ⟨report, checked, outputs, built, reports, fun _ => builds, plain, saves⟩

theorem agree_of_listedScript :
    ∃ report checked outputs built,
      ((CheckRequest.ofScript "a" "text" "s.txt" .json).reported .atRoot).run listedScript =
        (.ok report, checked) ∧
      ((BuildRequest.ofManifest (.ofString "m.json") (some (.ofString "r.json"))).outputs
        .atRoot).run listedScript = (.ok outputs, built) ∧
      outputs.map (·.report) = [report] ∧
      (check (.ofScript "a" "text" "s.txt" .json) .atRoot).exitCode listedScript = 0 ∧
      (build (.ofManifest (.ofString "m.json") (some (.ofString "r.json"))) .atRoot).exitCode
        listedScript = 0 := by
  obtain ⟨report, checked, outputs, built, reports, builds, good, saves⟩ :=
    exists_reports_listedScript
  obtain ⟨same, -, -, -, codes⟩ := agree_of_declaresScript declaresScript_listedScript
    (keepsNothing_atRoot listedScript) reports (builds (some (.ofString "r.json")))
  obtain ⟨output, rfl, rfl⟩ := List.map_eq_singleton_iff.mp same
  obtain ⟨-, passed, whole⟩ := good output List.mem_cons_self
  have ends := codes (fun output houtput => (good output houtput).1) (fun _ => whole) (by
    rintro saved ⟨⟩
    exact ⟨saves "r.json" (by decide), by decide⟩)
  rw [if_pos passed] at ends
  exact ⟨_, checked, _, built, reports, builds _, same, ends⟩

/-- A path that ends a style is not printed once the reports were written to its file, so the build
ends as if the script had failed, which the check of the same script does not. -/
theorem disagree_of_bracket :
    DeclaresScript listedScript.disk "a" "text" "s.txt" (.ofString "m.json") ∧
    KeepsNothing .atRoot listedScript ∧
    ∃ report checked outputs built,
      ((CheckRequest.ofScript "a" "text" "s.txt" .json).reported .atRoot).run listedScript =
        (.ok report, checked) ∧
      ((BuildRequest.ofManifest (.ofString "m.json") (some (.ofString "x[/b]"))).outputs
        .atRoot).run listedScript = (.ok outputs, built) ∧
      report.passed ∧ outputs.map (·.report) = [report] ∧
      (check (.ofScript "a" "text" "s.txt" .json) .atRoot).exitCode listedScript = 0 ∧
      ((build (.ofManifest (.ofString "m.json") (some (.ofString "x[/b]"))) .atRoot).run
        listedScript).2.disk.read (.ofString "x[/b]") =
          .ok (Text.Utf8.encodeString (reportsText outputs)) ∧
      (build (.ofManifest (.ofString "m.json") (some (.ofString "x[/b]"))) .atRoot).exitCode
        listedScript = 1 := by
  obtain ⟨report, checked, outputs, built, reports, builds, good, saves⟩ :=
    exists_reports_listedScript
  have builds := builds (some (.ofString "x[/b]"))
  have same := reports_eq_of_declaresScript declaresScript_listedScript reports builds
  obtain ⟨output, rfl, rfl⟩ := List.map_eq_singleton_iff.mp same
  obtain ⟨plain, passed, whole⟩ := good output List.mem_cons_self
  obtain ⟨descriptors, listed, -, isOf⟩ := isOf_of_run_outputs builds
  have named := isName_of_isOf isOf fun d hd => Manifest.isName_of_load listed hd
  have portable := isPortable_of_reported (keepsNothing_atRoot _) reports
  have shows : (Format.json.show output.report).isOk :=
    isOk_show (named output List.mem_cons_self) plain.report portable fun _ => whole
  have tagged : (Path.ofString "x[/b]").toString.toList =
      ['x'] ++ '[' :: '/' :: (['b'] ++ ']' :: []) := by
    decide +kernel
  obtain ⟨fault, breaks⟩ := exists_print_savedLine_error tagged (by decide) (by decide)
  have saved := saves "x[/b]" (by decide)
  cases wrote : built.disk.write (.ofString "x[/b]")
      (Text.Utf8.encodeString (reportsText [output])) with
  | error e =>
      rw [wrote] at saved
      cases saved
  | ok disk =>
      obtain ⟨shown, showsAll⟩ := exists_showOutputs named fun output houtput =>
        (good output houtput).1
      have prints : ((BuildRequest.ofManifest (.ofString "m.json")
          (some (.ofString "x[/b]"))).printReports [output]).run built =
            (.error fault, { built with disk }) := by
        rw [run_printReports, showsAll]
        simp only [BuildRequest.ofManifest, run_saveReports, wrote, breaks]
        rfl
      have ends := run_build_of_unprinted builds prints
      refine ⟨declaresScript_listedScript, keepsNothing_atRoot _, output.report, checked, [output],
        built, reports, builds, passed, rfl, ?_, ?_, ?_⟩
      · rw [exitCode_check_of_reported reports]
        exact if_pos ⟨shows, passed⟩
      · rw [ends]
        exact Disk.read_of_write wrote
      · rw [Command.exitCode, ends]
        rfl

end CommandLine

end ScriptVet
