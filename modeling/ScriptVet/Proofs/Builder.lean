import ScriptVet.Builder
import ScriptVet.Proofs.Analyzer.Outcome
import ScriptVet.Proofs.Files.Changes
import ScriptVet.Proofs.Json.ReadBack
import ScriptVet.Proofs.Text.Octets

/-!
# What is built is read back

The file of a script that was built holds the octets of the text that was to be written, and the
artifact is the script again with the text that is read from there. A file is read with every line
ending as a line feed, so this is the text that was written exactly if no carriage return is in it.
-/

namespace ScriptVet

open Disk

theorem Text.readNewlines_eq_self_iff {cs : List Char} : readNewlines cs = cs ↔ '\r' ∉ cs :=
  ⟨fun same => same ▸ not_mem_readNewlines cs, readNewlines_eq_self⟩

/-- Reading line endings brings in no character but the line feed. -/
theorem Text.mem_of_mem_readNewlines {c : Char} {cs : List Char} (h : c ∈ readNewlines cs) :
    c = '\n' ∨ c ∈ cs := by
  fun_induction readNewlines cs with
  | case1 => cases h
  | case2 rest ih =>
      rcases List.mem_cons.mp h with rfl | later
      · exact .inl rfl
      · exact (ih later).imp_right fun hc => List.mem_cons_of_mem _ (List.mem_cons_of_mem _ hc)
  | case3 d rest _ ih =>
      rcases List.mem_cons.mp h with rfl | later
      · split
        · exact .inl rfl
        · exact .inr List.mem_cons_self
      · exact (ih later).imp_right (List.mem_cons_of_mem _)

/-- Reading line endings brings in no halves. -/
theorem Text.holdsHalf_readNewlines {cs : List Char} (whole : ∀ c ∈ cs, isHalf c = false) :
    holdsHalf (String.ofList (readNewlines cs)) = false := by
  rw [holdsHalf, String.toList_ofList, List.any_eq_false]
  intro c hc
  rcases mem_of_mem_readNewlines hc with rfl | before
  · decide
  · simp [whole c before]

theorem Text.readNewlines_ne_nil {cs : List Char} (h : cs ≠ []) : readNewlines cs ≠ [] := by
  fun_cases readNewlines cs with
  | case1 => exact absurd rfl h
  | case2 | case3 => exact List.cons_ne_nil _ _

/-- Text is taken as it is, if it holds no half and there is some. -/
theorem Checked.someText_eq_ok_iff {s taken : String} :
    someText (.str s) = .ok taken ↔ Text.holdsHalf s = false ∧ s ≠ "" ∧ s = taken := by
  simp [someText, text, whole, reject, Result.bind_eq_ok, Result.unless_eq_ok_iff, and_assoc]

/-- What begins like a name and holds no slash is one step of a path. -/
theorem Checked.isStepName_of_isNameStart {name : String} {c : Char} {rest : List Char}
    (chars : name.toList = c :: rest) (start : isNameStart c) (slash : '/' ∉ rest) :
    IsStepName name := by
  have other (special : String) (dotted : special.toList.head?.any isNameStart = false) :
      name ≠ special := by
    rintro rfl
    rw [chars, List.head?_cons, Option.any_some, start] at dotted
    cases dotted
  refine ⟨?_, other "" (by decide), other "." (by decide), other ".." (by decide)⟩
  rw [chars, List.mem_cons, not_or]
  refine ⟨?_, slash⟩
  rintro rfl
  revert start
  decide

/-- A name stays one step of a path when an ending without slashes is put to it. -/
theorem Checked.isStepName_append {name : String} (h : isName name) {ending : String}
    (slash : '/' ∉ ending.toList) : IsStepName (name ++ ending) := by
  obtain ⟨c, rest, chars, start, others⟩ := isName_iff.mp h
  refine @isStepName_of_isNameStart _ c (rest ++ ending.toList) ?_ start ?_
  · rw [String.toList_append, chars, List.cons_append]
  · rw [List.mem_append, not_or]
    exact ⟨fun hc => absurd (others _ hc) (by decide), slash⟩

theorem Checked.isStepName_of_isName {name : String} (h : isName name) : IsStepName name := by
  have alone := isStepName_append h (show '/' ∉ "".toList by decide)
  rwa [String.append_empty] at alone

namespace Builder

theorem fileStep_eq_ok_iff {operation : Disk → Except DiskError Disk} {disk disk' : Disk} :
    fileStep operation disk = .ok disk' ↔ operation disk = .ok disk' :=
  Result.mapError_eq_ok_iff

theorem takeSteps_eq_ok_iff {steps : List FileStep} {disk disk' : Disk} :
    takeSteps steps disk = (.ok (), disk') ↔
      steps.foldlM (fun disk step => step disk) disk = .ok disk' := by
  induction steps generalizing disk with
  | nil => simp [takeSteps]
  | cons step steps ih =>
      rw [takeSteps, List.foldlM_cons]
      cases step disk with
      | error fault => simp
      | ok next => simpa using ih

/-- A text is written to its file only, and holds no half of a surrogate pair. -/
theorem wrote_of_writingSteps {file : Path} {text : String} {disk disk' : Disk}
    (took : (writingSteps file text).foldlM (fun disk step => step disk) disk = .ok disk') :
    Text.holdsHalf text = false ∧ disk.WritesAt (· = disk.placeOf file) disk' ∧
      disk'.HoldsAt file (Text.Utf8.encodeString text) := by
  simp only [writingSteps, List.foldlM_cons, List.foldlM_nil, Result.bind_eq_ok,
    fileStep_eq_ok_iff] at took
  obtain ⟨emptied, first, after, ⟨_, whole, second⟩, same⟩ := took
  cases same
  have empties := writesAt_of_write first
  have fills := writesAt_of_write second
  rw [placeOf_congr empties.working] at fills
  have checked := Json.checkText_eq_ok_iff.mp (Result.mapError_eq_ok_iff.mp whole)
  exact ⟨Json.brokenText?_str_eq_none_iff.mp checked, empties.trans fills, holdsAt_of_write second⟩

/-- The file beside the built one. -/
def dependencyFile (settings : Settings) (script : Script) : Path :=
  (folderFor settings script).child (script.name ++ ".deps.json")

/-- The name of the folder that holds the files of a script. -/
def groupName (executable : Bool) : String :=
  if executable then "bin" else "lib"

theorem placeOf_folderFor (disk : Disk) (settings : Settings) {script : Script}
    (named : Checked.isName script.name) :
    disk.placeOf (folderFor settings script) =
      disk.placeOf settings.buildDir ++ [script.name, groupName script.executable] := by
  have group : IsStepName (groupName script.executable) := by
    cases script.executable <;> exact ⟨by decide, by decide, by decide, by decide⟩
  rw [folderFor, ← groupName, placeOf_child disk _ group,
    placeOf_child disk _ (Checked.isStepName_of_isName named), List.append_assoc]
  rfl

/-- The built file lies in the build folder under the name of the script. -/
theorem placeOf_artifact (disk : Disk) (settings : Settings) {script : Script}
    (named : Checked.isName script.name) :
    disk.placeOf (artifactFor settings script).path =
      disk.placeOf settings.buildDir ++
        [script.name, groupName script.executable, script.name] := by
  rw [artifactFor, placeOf_child disk _ (Checked.isStepName_of_isName named),
    placeOf_folderFor disk settings named, List.append_assoc]
  rfl

theorem placeOf_dependencyFile (disk : Disk) (settings : Settings) {script : Script}
    (named : Checked.isName script.name) :
    disk.placeOf (dependencyFile settings script) =
      disk.placeOf settings.buildDir ++
        [script.name, groupName script.executable, script.name ++ ".deps.json"] := by
  rw [dependencyFile, placeOf_child disk _ (Checked.isStepName_append named (by decide)),
    placeOf_folderFor disk settings named, List.append_assoc]
  rfl

/-- The place is that of one of the two files of a script. -/
def IsPlaceOf (settings : Settings) (disk : Disk) (script : Script) (place : Place) : Prop :=
  place = disk.placeOf (artifactFor settings script).path ∨
    place = disk.placeOf (dependencyFile settings script)

/-- Both files of the script are as they should be. -/
structure HasFiles (settings : Settings) (toolbox : Toolbox) (disk : Disk) (script : Script) :
    Prop where
  text : disk.HoldsAt (artifactFor settings script).path
    (Text.Utf8.encodeString (builtText settings toolbox script))
  dependencies : disk.HoldsAt (dependencyFile settings script)
    (Text.Utf8.encodeString (dependencyText script))

/-- The two files have different places. -/
theorem placeOf_artifact_ne_placeOf_dependencyFile (disk : Disk) (settings : Settings)
    {script : Script} (named : Checked.isName script.name) :
    disk.placeOf (artifactFor settings script).path ≠
      disk.placeOf (dependencyFile settings script) := by
  rw [placeOf_artifact disk settings named, placeOf_dependencyFile disk settings named]
  intro together
  have names : script.name = script.name ++ ".deps.json" := by simpa using together
  have lengths := congrArg String.length names
  rw [String.length_append] at lengths
  exact absurd lengths (by simp)

/-- A file that may have been let run as a program is still there, and no other was touched. -/
theorem holdsAt_of_allow {file : Path} {content : List UInt8} {executable : Bool}
    {disk disk' : Disk} (holds : disk.HoldsAt file content)
    (allows : (if executable then disk.makeExecutable file else .ok disk) = .ok disk') :
    disk.WritesAt (· = disk.placeOf file) disk' ∧ disk'.HoldsAt file content := by
  split at allows
  · exact holds.makeExecutable allows
  · cases allows
    exact ⟨.refl _ disk, holds⟩

/-- The disks between the steps of a build. -/
theorem steps_of_build {settings : Settings} {toolbox : Toolbox} {script : Script}
    {artifact : Artifact} {disk disk' : Disk}
    (built : build settings toolbox script disk = (.ok artifact, disk')) :
    artifact = artifactFor settings script ∧ ∃ made written allowed,
      disk.ensureFolders (folderFor settings script) = .ok made ∧
      (writingSteps artifact.path (builtText settings toolbox script)).foldlM
        (fun disk step => step disk) made = .ok written ∧
      (if script.executable then written.makeExecutable artifact.path else .ok written) =
        .ok allowed ∧
      (writingSteps (dependencyFile settings script) (dependencyText script)).foldlM
        (fun disk step => step disk) allowed = .ok disk' := by
  rw [build] at built
  cases took : takeSteps (steps settings toolbox script) disk with
  | mk result last =>
      rw [took] at built
      cases result with
      | error fault => cases built
      | ok done =>
          cases built
          rw [takeSteps_eq_ok_iff, steps, List.cons_append, List.foldlM_cons] at took
          simp only [List.foldlM_append, List.foldlM_cons, Result.bind_eq_ok,
            fileStep_eq_ok_iff] at took
          obtain ⟨made, folders, written, text, allowed, allows, deps⟩ := took
          exact ⟨rfl, made, written, allowed, folders, text, allows, deps⟩

/-- When all files of a script could be written they are as they should be, and nothing was written
anywhere else. -/
theorem hasFiles_of_build {settings : Settings} {toolbox : Toolbox} {script : Script}
    {artifact : Artifact} {disk disk' : Disk} (named : Checked.isName script.name)
    (built : build settings toolbox script disk = (.ok artifact, disk')) :
    artifact = artifactFor settings script ∧
      Text.holdsHalf (builtText settings toolbox script) = false ∧
      disk.WritesAt (IsPlaceOf settings disk script) disk' ∧
      HasFiles settings toolbox disk' script := by
  obtain ⟨rfl, made, written, allowed, folders, text, allows, deps⟩ := steps_of_build built
  obtain ⟨whole, writes, holds⟩ := wrote_of_writingSteps text
  obtain ⟨permits, holds⟩ := holdsAt_of_allow holds allows
  obtain ⟨-, writesDeps, holdsDeps⟩ := wrote_of_writingSteps deps
  have inside (file : Path) {now : Disk} (working : now.working = disk.working)
      (own : IsPlaceOf settings disk script (disk.placeOf file)) (q : Place)
      (hq : q = now.placeOf file) : IsPlaceOf settings disk script q := by
    rw [hq, placeOf_congr working]
    exact own
  have first : disk.WritesAt (IsPlaceOf settings disk script) made :=
    (provides_of_ensureFolders folders).adds.writesAt _
  have second := first.trans (writes.mono (inside _ first.working (.inl rfl)))
  have third := second.trans (permits.mono (inside _ second.working (.inl rfl)))
  have last := third.trans (writesDeps.mono (inside _ third.working (.inr rfl)))
  refine ⟨rfl, whole, last, holds.of_writesAt writesDeps ?_, holdsDeps⟩
  exact placeOf_artifact_ne_placeOf_dependencyFile allowed settings named

/-- What the files of a script are when all of them could be written. -/
theorem read_of_build {settings : Settings} {toolbox : Toolbox} {script : Script}
    {artifact : Artifact} {disk disk' : Disk} (named : Checked.isName script.name)
    (built : build settings toolbox script disk = (.ok artifact, disk')) :
    artifact = artifactFor settings script ∧
      Text.holdsHalf (builtText settings toolbox script) = false ∧
      disk'.read artifact.path =
        .ok (Text.Utf8.encodeString (builtText settings toolbox script)) := by
  obtain ⟨rfl, whole, -, files⟩ := hasFiles_of_build named built
  exact ⟨rfl, whole, holdsAt_iff_read.mp files.text⟩

/-- Whoever builds something builds the artifact of the script. -/
theorem build_eq_of_isOk {settings : Settings} {toolbox : Toolbox} {script : Script} {disk : Disk}
    (ok : (build settings toolbox script disk).1.isOk) :
    build settings toolbox script disk =
      (.ok (artifactFor settings script), (build settings toolbox script disk).2) := by
  rw [build] at ok ⊢
  cases took : takeSteps (steps settings toolbox script) disk with
  | mk result last =>
      rw [took] at ok
      cases result with
      | error fault => cases ok
      | ok done => rfl

/-- The text is written as it was given. -/
def IsVerbatim (script : Script) : Prop :=
  script.executable = false ∨ "#!".toList.isPrefixOf script.sourceText.toList ∨
    script.language = .other

theorem builtText_of_isVerbatim (settings : Settings) (toolbox : Toolbox) {script : Script}
    (verbatim : IsVerbatim script) : builtText settings toolbox script = script.sourceText := by
  rw [builtText]
  rcases verbatim with library | begins | other
  · simp [library]
  · rw [begins, Bool.or_true, if_pos rfl]
  · split
    · rfl
    · rw [interpreterLine, other]
      exact String.empty_append

/-- Nothing, or a line that names an interpreter. -/
def IsShebang (line : String) : Prop :=
  line = "" ∨ ∃ command, line = "#!" ++ command ++ "\n"

/-- What is written is the text of the script, with a line before it that names the interpreter
unless the text is written as it was given. -/
theorem builtText_eq_append (settings : Settings) (toolbox : Toolbox) (script : Script) :
    ∃ line, builtText settings toolbox script = line ++ script.sourceText ∧ IsShebang line ∧
      (line = "" ↔ IsVerbatim script) := by
  by_cases verbatim : IsVerbatim script
  · refine ⟨"", ?_, .inl rfl, iff_of_true rfl verbatim⟩
    rw [builtText_of_isVerbatim settings toolbox verbatim, String.empty_append]
  · have changed := verbatim
    simp only [IsVerbatim, not_or, Bool.not_eq_false] at changed
    obtain ⟨program, bare, known⟩ := changed
    have written : builtText settings toolbox script =
        interpreterLine settings toolbox script.language ++ script.sourceText := by
      rw [builtText, if_neg]
      simpa [program] using bare
    have line : ∃ command,
        interpreterLine settings toolbox script.language = "#!" ++ command ++ "\n" := by
      rw [interpreterLine]
      cases language : script.language with
      | other => exact absurd language known
      | bash | python3 | powershell => exact ⟨_, rfl⟩
    obtain ⟨command, line⟩ := line
    refine ⟨_, written, .inr ⟨command, line⟩, iff_of_false ?_ verbatim⟩
    rw [line]
    simp

/-- What a script depends on is read back from the file beside the built one. -/
theorem parse_dependencyText {script : Script} (content : script.checkContent = .ok ()) :
    Json.parse (dependencyText script) = .ok (Json.ofStrings script.dependencies) := by
  have whole := Json.brokenItem?_map_eq_none_iff.mp (Json.checkText_eq_ok_iff.mp content)
  rw [Json.parse, Json.parseWithin, dependencyText, Json.render, String.toList_ofList]
  refine Json.Reader.read_write_ofStrings
    (fun _ x hx => Json.brokenText?_str_eq_none_iff.mp (whole x ?_)) (by decide)
  exact List.mem_cons_of_mem _ (List.mem_cons_of_mem _ hx)

theorem builtText_ne_empty (settings : Settings) (toolbox : Toolbox) {script : Script}
    (some : script.sourceText ≠ "") : builtText settings toolbox script ≠ "" := by
  rw [builtText]
  split
  · exact some
  · simp [some]

/-- The script that is read back from the files of another: what was written, with every line ending
as a line feed. -/
def rebuilt (settings : Settings) (toolbox : Toolbox) (script : Script) : Script :=
  { script with
    sourceText := String.ofList (Text.readNewlines (builtText settings toolbox script).toList) }

theorem sourceText_rebuilt_eq_iff {settings : Settings} {toolbox : Toolbox} {script : Script} :
    (rebuilt settings toolbox script).sourceText = builtText settings toolbox script ↔
      '\r' ∉ (builtText settings toolbox script).toList := by
  rw [rebuilt, ← String.toList_inj, String.toList_ofList, Text.readNewlines_eq_self_iff]

theorem toScript_of_build {settings : Settings} {toolbox : Toolbox} {script : Script}
    {artifact : Artifact} {disk disk' : Disk} (named : Checked.isName script.name)
    (some : script.sourceText ≠ "")
    (built : build settings toolbox script disk = (.ok artifact, disk')) :
    artifact.toScript disk' = .ok (rebuilt settings toolbox script) := by
  obtain ⟨rfl, whole, given⟩ := read_of_build named built
  have text : (artifactFor settings script).readText disk' =
      .ok (rebuilt settings toolbox script).sourceText := by
    rw [Artifact.readText, Descriptor.readTextFile, given]
    simp only [Text.Utf8.encodeString, Text.Utf8.decode?_encode]
    rfl
  have stillWhole : Text.holdsHalf (rebuilt settings toolbox script).sourceText = false := by
    rw [Text.holdsHalf, List.any_eq_false] at whole
    exact Text.holdsHalf_readNewlines fun c hc => Bool.eq_false_iff.mpr (whole c hc)
  have stillSome : (rebuilt settings toolbox script).sourceText ≠ "" := by
    rw [ne_eq, rebuilt, ← String.toList_inj, String.toList_ofList]
    refine Text.readNewlines_ne_nil fun empty => ?_
    exact builtText_ne_empty settings toolbox some (String.toList_inj.mp empty)
  have decoded := Checked.someText_eq_ok_iff.mpr ⟨stillWhole, stillSome, rfl⟩
  rw [Artifact.toScript, text, Result.ok_bind, decoded]
  rfl

/-- Other text makes other content. -/
theorem content_with_sourceText_iff {script : Script} {text : String} :
    { script with sourceText := text }.content = script.content ↔ text = script.sourceText := by
  constructor
  · intro same
    have octets :
        0 :: Text.Utf8.encodeString text = 0 :: Text.Utf8.encodeString script.sourceText :=
      List.append_cancel_left (List.append_cancel_right same)
    exact String.toList_inj.mp (Text.Utf8.encode_injective (List.cons.inj octets).2)
  · rintro rfl
    rfl

/-- What was built is the script again, and its text is the text that was written exactly if no
carriage return is in that. So a script that is written as it was given keeps its content exactly if
there is none in its text, and then it keeps its fingerprint. -/
theorem toScript_build {settings : Settings} {toolbox : Toolbox} {script : Script}
    {artifact : Artifact} {disk disk' : Disk} (named : Checked.isName script.name)
    (some : script.sourceText ≠ "")
    (built : build settings toolbox script disk = (.ok artifact, disk')) :
    disk'.read artifact.path =
        .ok (Text.Utf8.encodeString (builtText settings toolbox script)) ∧
      ∃ again, artifact.toScript disk' = .ok again ∧
      again = { script with sourceText := again.sourceText } ∧
      (again.sourceText = builtText settings toolbox script ↔
        '\r' ∉ (builtText settings toolbox script).toList) ∧
      (IsVerbatim script →
        (again.content = script.content ↔ '\r' ∉ script.sourceText.toList) ∧
        ('\r' ∉ script.sourceText.toList → again.fingerprint = script.fingerprint)) := by
  obtain ⟨-, -, given⟩ := read_of_build named built
  refine ⟨given, rebuilt settings toolbox script, toScript_of_build named some built, rfl,
    sourceText_rebuilt_eq_iff, ?_⟩
  intro verbatim
  have content : (rebuilt settings toolbox script).content = script.content ↔
      '\r' ∉ script.sourceText.toList := by
    have text := @sourceText_rebuilt_eq_iff settings toolbox script
    rw [builtText_of_isVerbatim settings toolbox verbatim] at text
    rw [← text]
    exact content_with_sourceText_iff
  exact ⟨content, fun free => congrArg Sha256.hexDigest (content.mpr free)⟩

/-- A program that names its interpreter is the same script when it was built. -/
theorem toScript_build_program :
    let script : Script := ⟨"s", .bash, none, "#!/bin/sh\nrm x\n", ["rm"], true⟩
    let artifact := artifactFor Settings.atRoot script
    let disk := (build Settings.atRoot .empty script (.empty [])).2
    Checked.isName script.name ∧ script.sourceText ≠ "" ∧
      build Settings.atRoot .empty script (.empty []) = (.ok artifact, disk) ∧
      ∃ again, artifact.toScript disk = .ok again ∧ again.fingerprint = script.fingerprint := by
  intro script artifact disk
  have named : Checked.isName script.name := by decide
  have some : script.sourceText ≠ "" := by decide
  have built : build Settings.atRoot .empty script (.empty []) = (.ok artifact, disk) :=
    build_eq_of_isOk (by decide +kernel)
  refine ⟨named, some, built, ?_⟩
  obtain ⟨-, again, read, -, -, verbatim⟩ := toScript_build named some built
  exact ⟨again, read, (verbatim (.inr (.inl (by decide)))).2 (by decide)⟩

/-- A library whose lines end in carriage return and line feed is another script when it was
built. -/
theorem toScript_build_carriageReturn :
    let script : Script := ⟨"s", .bash, none, "a\r\nb", [], false⟩
    let artifact := artifactFor Settings.atRoot script
    let disk := (build Settings.atRoot .empty script (.empty [])).2
    build Settings.atRoot .empty script (.empty []) = (.ok artifact, disk) ∧
      disk.read artifact.path = .ok (Text.Utf8.encodeString script.sourceText) ∧
      ∃ again, artifact.toScript disk = .ok again ∧ again.sourceText = "a\nb" ∧
        again.fingerprint ≠ script.fingerprint := by
  intro script artifact disk
  have built : build Settings.atRoot .empty script (.empty []) = (.ok artifact, disk) :=
    build_eq_of_isOk (by decide +kernel)
  obtain ⟨-, -, given⟩ := read_of_build (by decide) built
  refine ⟨built, given, rebuilt Settings.atRoot .empty script,
    toScript_of_build (by decide) (by decide) built, by decide, ?_⟩
  decide +kernel

end Builder

end ScriptVet
