import ScriptVet.Proofs.Session.BuildSites
import ScriptVet.Proofs.Session.Rerun
import ScriptVet.Proofs.Session.SideBySide

/-!
# Builds side by side

Scripts that can all be built in order can be built side by side. Their analyses take turns, their
files are written as their reports are complete, and still every build comes to the same and leaves
the same files behind, if different scripts have different keys and are built where nothing gets in
the way of anything else.
-/

namespace ScriptVet.Session

open Activity Analyzer ResultCache Disk Builder

/-! ## Finishing a build -/

/-- What the build of a script comes to when its analyses give the results and its files can be
written. -/
def outputOf (settings : Settings) (script : Script) (selection : Selection)
    (extras : List (String × ExtraTest)) (results : List AnalysisResult) :
    Result BuildOutput := do
  let found ← report script results
  let tests ← TestMap.generate (builtinAnalyzers settings) found (artifactFor settings script)
    selection extras
  pure ⟨artifactFor settings script, found, tests⟩

section

variable {settings : Settings} {script : Script} {selection : Selection}
  {extras : List (String × ExtraTest)} {s s' : Session} {inv : Machine → Prop}
  {mem : List (String × AnalysisResult) → Prop}

/-- A finished build has come to what it should, and its files could be written. -/
theorem outputOf_of_finish (h : s.Holds settings inv mem) (named : Checked.isName script.name)
    {results : List AnalysisResult} {found : Report} (reported : report script results = .ok found)
    {output : BuildOutput}
    (finished : (finish script selection extras found).run s = (.ok output, s')) :
    outputOf settings script selection extras results = .ok output ∧
      CanBuild settings s.machine.toolbox s.machine.disk script := by
  obtain ⟨disk, built, -, rfl, tests⟩ := finish_eq_ok finished
  rw [h.under] at built
  obtain ⟨artifact, -⟩ := hasFiles_of_build named built
  refine ⟨?_, canBuild_of_isOk named (by rw [built]; rfl)⟩
  rw [h.analyzers, artifact] at tests
  rw [outputOf, reported, Result.ok_bind, tests, Result.ok_bind, ← artifact]
  rfl

/-- How a build is finished: if there is a report its files are written, as far as they can be, and
its tests are made. -/
theorem run_finish_buildJob (script : Script) (selection : Selection)
    (extras : List (String × ExtraTest)) (results : List AnalysisResult) (s : Session) :
    ((buildJob (.ok script) selection extras).finish results).run s =
      match report script results with
      | .error fault => (.error fault, s)
      | .ok found =>
        let built := Builder.build s.settings s.machine.toolbox script s.machine.disk
        (do
          let artifact ← built.1
          let _ ← TestMap.generate s.analyzers found artifact selection extras
          pure (),
        { s with machine := { s.machine with disk := built.2 } }) := by
  simp only [buildJob, Activity.run, liftM_bind_apply]
  cases report script results with
  | error fault => rfl
  | ok found =>
      simp only [finish, writeArtifact, bind_assoc, get_bind_apply, modify_bind_apply]
      rcases Builder.build s.settings s.machine.toolbox script s.machine.disk with ⟨written, disk⟩
      cases written with
      | error fault => rfl
      | ok artifact =>
          simp only [pure_bind, get_bind_apply, liftM_bind_apply, Result.ok_bind]
          cases TestMap.generate s.analyzers found artifact selection extras <;> rfl

/-- A build that comes to something is finished without a fault where its files can be written. -/
theorem run_finish_buildJob_eq_ok (h : s.Holds settings inv mem)
    (named : Checked.isName script.name)
    (builds : CanBuild settings s.machine.toolbox s.machine.disk script)
    {results : List AnalysisResult} {output : BuildOutput}
    (comes : outputOf settings script selection extras results = .ok output) :
    (((buildJob (.ok script) selection extras).finish results).run s).1 = .ok () := by
  obtain ⟨found, reported, comes⟩ := Result.bind_eq_ok.mp comes
  obtain ⟨tests, generated, -⟩ := Result.bind_eq_ok.mp comes
  rw [run_finish_buildJob, reported]
  simp only
  rw [h.under, h.analyzers, build_eq_of_isOk (isOk_of_canBuild named builds), Result.ok_bind,
    generated]
  rfl

end

/-! ## In order -/

section

variable {settings : Settings} {first : Machine} {now s s' : Session}
  {right : String → AnalysisResult → Prop} {stays : String → Prop} {script : Script}
  {selection : Selection} {extras : List (String × ExtraTest)} {kind : AnalyzerKind}

/-- Under the key of the analysis its result is right, and nothing else. -/
structure HasRight (settings : Settings) (first : Machine)
    (right : String → AnalysisResult → Prop) (script : Script) (kind : AnalyzerKind) : Prop where
  kept : ∀ {key r}, HasKey settings first.toolbox script kind key →
    resultOn settings first script kind = some r → r.status ≠ .skipped → right key r
  only : ∀ {key r}, HasKey settings first.toolbox script kind key → right key r →
    resultOn settings first script kind = some r

/-- The result is right, and it is in memory now or can be given out for a file. -/
def CanStay (settings : Settings) (now : Session) (right : String → AnalysisResult → Prop)
    (key : String) (r : AnalysisResult) : Prop :=
  right key r ∧ (now.Recalls key ∨ ∀ folder ∈ keptIn settings, ∃ text, r.compactJson = .ok text)

/-- What was answered while results could stay can be kept. -/
theorem Answers.canKeep {inv : Machine → Prop} {mem : List (String × AnalysisResult) → Prop}
    (steady : Steady settings now.machine inv)
    (only : ∀ {key a}, HasKey settings now.machine.toolbox script kind key → right key a →
      Session.resultOn settings now.machine script kind = some a) {r : AnalysisResult}
    (answers : Answers settings (Tells settings now.machine.toolbox) inv mem
      (CanStay settings now right) script kind r) : CanKeep settings now script kind := by
  obtain ⟨whole, key, has⟩ := answers.hasKey
  have comes := answers.resultOn steady fun has isRight => only has isRight.1
  refine ⟨whole, has.tells, fun folder given => ?_⟩
  have writable (rendered : r.status ≠ .skipped → ∃ text, r.compactJson = .ok text) :
      IsWritable settings now.machine script kind := by
    intro r' comes' made
    cases comes.symm.trans comes'
    exact rendered made
  obtain ⟨version, key, has, named, ⟨-, ⟨cache, hc, kept⟩ | rendered⟩ | ⟨-, rendered, -⟩⟩ :=
    answers.source
  · exact .inl ⟨cache, hc, key, ⟨answers.content, version, has, named⟩, kept⟩
  · exact .inr (writable fun _ => rendered folder given)
  · exact .inr (writable fun made => rendered made folder given)

/-- An analysis is never answered while results can stay, or its own can. -/
theorem admits_or_never (site : IsBuildSite settings now.machine.disk)
    (hasRight : HasRight settings now.machine right script kind)
    (mem : List (String × AnalysisResult) → Prop) :
    Admits settings (Tells settings now.machine.toolbox)
        (Lasts settings now.machine (CanStay settings now right) []) (CanStay settings now right)
        script kind ∨
      ∀ r, ¬ Answers settings (Tells settings now.machine.toolbox)
        (Lasts settings now.machine (CanStay settings now right) []) mem
        (CanStay settings now right) script kind r := by
  by_cases keep : ∀ folder ∈ keptIn settings,
      IsInMemory settings now script kind ∨ IsWritable settings now.machine script kind
  · refine .inl (admits_lasts site (fun _ hscript => absurd hscript List.not_mem_nil)
      fun has comes made => ⟨hasRight.kept has comes made, ?_⟩)
    by_cases kept : IsInMemory settings now script kind
    · obtain ⟨cache, hc, key, has', kept⟩ := kept
      exact .inl ⟨cache, hc, has'.unique has ▸ kept⟩
    · exact .inr fun folder given => (keep folder given).resolve_left kept _ comes made
  · exact .inr fun r answers => keep (answers.canKeep (steady_lasts site) hasRight.only).files

/-- What the build of a script in order tells: what it comes to, and that it can be done side by
side with others. -/
structure Promises (settings : Settings) (now : Session) (script : Script) (selection : Selection)
    (extras : List (String × ExtraTest)) (output : BuildOutput) : Prop where
  comes : ∃ results, List.Forall₂
    (fun kind r => resultOn settings now.machine script kind = some r)
    (selection.kindsFor script.language) results ∧
      outputOf settings script selection extras results = .ok output
  keeps : ∀ kind ∈ selection.kindsFor script.language, CanKeep settings now script kind
  builds : CanBuild settings now.machine.toolbox now.machine.disk script

theorem Promises.reports {output : BuildOutput}
    (promises : Promises settings now script selection extras output) :
    ∃ found, ReportsOn settings now.machine script (selection.kindsFor script.language) found := by
  obtain ⟨results, given, comes⟩ := promises.comes
  obtain ⟨found, reported, -⟩ := Result.bind_eq_ok.mp comes
  exact ⟨found, results, given, reported⟩

/-- The build of a script comes to what it does in order, whichever results of its analyses it is
given that are as they should be. -/
theorem Promises.outputOf_eq {output : BuildOutput}
    (promises : Promises settings now script selection extras output) {values : List AnalysisResult}
    (good : List.Forall₂ (fun good r => good r)
      (goodResults settings now.machine script (selection.kindsFor script.language)) values) :
    outputOf settings script selection extras values = .ok output := by
  obtain ⟨results, given, comes⟩ := promises.comes
  rw [eq_of_goodResults given good]
  exact comes

theorem promises_of_buildInOrder (site : IsBuildSite settings now.machine.disk)
    (caching : settings.cacheResults) (named : Checked.isName script.name)
    (hasRight : ∀ kind ∈ selection.kindsFor script.language,
      HasRight settings now.machine right script kind)
    (h : s.Holds settings (Lasts settings now.machine (CanStay settings now right) [])
      (Remembers (CanStay settings now right) stays)) {output : BuildOutput}
    (ran : (buildInOrder script selection extras).run s = (.ok output, s')) :
    s'.Holds settings (Lasts settings now.machine (CanStay settings now right) [])
        (Remembers (CanStay settings now right) stays) ∧
      Promises settings now script selection extras output := by
  obtain ⟨found, s1, analysed, finished⟩ := run_bind_eq_ok.mp ran
  have ends := ensures_run (ensures_runInOrder _ _
    (fun kind applies _ h' => ensures_analyze_answers (regime_lasts site stays) caching
      (admits_or_never site (hasRight kind applies) _) h') h)
  rw [analysed] at ends
  obtain ⟨h1, results, answers, reported⟩ := ends
  have each := (List.forall₂_and_left _ _).mpr
    ⟨fun kind (applies : kind ∈ selection.kindsFor script.language) => applies, answers⟩
  have told := (List.forall₂_and_left _ _).mp <| each.imp fun kind r ⟨applies, answers⟩ =>
    And.intro (answers.canKeep (steady_lasts site) (hasRight kind applies).only)
      (answers.resultOn (steady_lasts site) fun has isRight =>
        (hasRight kind applies).only has isRight.1)
  obtain ⟨comes, builds⟩ := outputOf_of_finish h1 named reported finished
  obtain ⟨disk, built, rfl, -, -⟩ := finish_eq_ok finished
  rw [h1.machine.toolbox] at builds
  refine ⟨h1.withMachine ?_, ⟨results, told.2, comes⟩, told.1,
    builds.of_writesAt h1.machine.writes⟩
  have touches := touches_build s1.settings s1.machine.toolbox script s1.machine.disk
  rw [built, h1.under] at touches
  exact h1.machine.built site (fun _ hscript => absurd hscript List.not_mem_nil) named touches

/-- When scripts have been built in order all of them can be built side by side. -/
theorem promises_of_buildAllInOrder (site : IsBuildSite settings now.machine.disk)
    (caching : settings.cacheResults) {described : List (Descriptor × Script)}
    (named : ∀ pair ∈ described, Checked.isName pair.2.name)
    (hasRight : ∀ pair ∈ described, ∀ kind ∈ pair.1.selection.kindsFor pair.2.language,
      HasRight settings now.machine right pair.2 kind)
    (h : s.Holds settings (Lasts settings now.machine (CanStay settings now right) [])
      (Remembers (CanStay settings now right) stays)) {outputs : List BuildOutput}
    (ran : (buildAllInOrder (described.map fun (d, script) => (d, .ok script))).run s =
      (.ok outputs, s')) :
    List.Forall₂ (fun pair => Promises settings now pair.2 pair.1.selection []) described
      outputs := by
  induction described generalizing s outputs with
  | nil =>
      cases ran
      exact .nil
  | cons pair described ih =>
      rw [List.forall_mem_cons] at named hasRight
      rw [List.map_cons, buildAllInOrder, List.mapM_cons] at ran
      obtain ⟨output, s1, first, others⟩ := run_bind_eq_ok.mp ran
      obtain ⟨more, s2, rest, given⟩ := run_bind_eq_ok.mp others
      cases given
      obtain ⟨h1, promises⟩ := promises_of_buildInOrder site caching named.1 hasRight.1 h first
      exact .cons promises (ih named.2 hasRight.2 h1 rest)

end

/-! ## Side by side -/

section

variable {settings : Settings} {now : Session} {right : String → AnalysisResult → Prop}
  {described : List (Descriptor × Script)} {extras : List (String × ExtraTest)}

/-- What holds of the session while the scripts are built. -/
abbrev HoldsBuilding (settings : Settings) (now : Session)
    (right : String → AnalysisResult → Prop) (described : List (Descriptor × Script)) :
    Session → Prop :=
  Holds settings (Lasts settings now.machine right (described.map Prod.snd))
    (Remembers right now.Recalls)

/-- The jobs of building described scripts that were loaded. -/
def jobsOf (described : List (Descriptor × Script)) (extras : List (String × ExtraTest)) :
    List (Job Session AnalysisResult) :=
  described.map fun (d, script) => buildJob (.ok script) d.selection extras

theorem exists_of_jobsOf {job : Nat} {found : Job Session AnalysisResult}
    (at' : (jobsOf described extras)[job]? = some found) :
    ∃ pair, described[job]? = some pair ∧
      found = buildJob (.ok pair.2) pair.1.selection extras := by
  rw [jobsOf, List.getElem?_map] at at'
  obtain ⟨pair, there, rfl⟩ := Option.map_eq_some_iff.mp at'
  exact ⟨pair, there, rfl⟩

theorem names_of_described (named : ∀ pair ∈ described, Checked.isName pair.2.name) :
    ∀ script ∈ described.map Prod.snd, Checked.isName script.name := by
  intro script among
  obtain ⟨pair, hpair, rfl⟩ := List.mem_map.mp among
  exact named pair hpair

/-- Finishing one build leaves the files of other scripts alone, and its own are there if there is
no fault. -/
theorem left_of_finish (site : IsBuildSite settings now.machine.disk)
    (named : ∀ pair ∈ described, Checked.isName pair.2.name)
    (distinct : (described.map (·.2.name)).Nodup) {job : Nat} {pair : Descriptor × Script}
    (there : described[job]? = some pair) {values : List AnalysisResult} {s s' : Session}
    (h : HoldsBuilding settings now right described s) {result : Result Unit}
    (finished : ((buildJob (.ok pair.2) pair.1.selection extras).finish values).run s =
      (result, s')) :
    HoldsBuilding settings now right described s' ∧
      (∀ other ≠ job, ∀ pair', described[other]? = some pair' →
        HasFiles settings now.machine.toolbox s.machine.disk pair'.2 →
          HasFiles settings now.machine.toolbox s'.machine.disk pair'.2) ∧
      (result = .ok () → HasFiles settings now.machine.toolbox s'.machine.disk pair.2) := by
  have ours := named pair (List.mem_of_getElem? there)
  have names := names_of_described named
  rw [run_finish_buildJob] at finished
  cases reported : report pair.2 values with
  | error fault =>
      rw [reported] at finished
      cases finished
      exact ⟨h, fun _ _ _ _ => id, fun same => by cases same⟩
  | ok found =>
      have same : Builder.build s.settings s.machine.toolbox =
          Builder.build settings now.machine.toolbox := by rw [h.under, h.machine.toolbox]
      have touches := touches_build settings now.machine.toolbox pair.2 s.machine.disk
      simp only [reported, same] at finished
      obtain ⟨given, rfl⟩ := Prod.mk.inj finished
      refine ⟨h.withMachine (h.machine.built site names ours touches), ?_, fun ok => ?_⟩
      · intro other apart pair' there' files
        refine files.of_writesAt touches.writes fun q own own' => ?_
        have together := own.apart own' (named pair' (List.mem_of_getElem? there')) ours
        have inside := (List.getElem?_eq_some_iff.mp there').1
        refine apart ((List.getElem?_inj (by simpa using inside) distinct).mp ?_)
        simp [there, there', together]
      · rw [ok] at given
        obtain ⟨artifact, built, -⟩ := Result.bind_eq_ok.mp given
        exact (hasFiles_of_build ours (Prod.ext built rfl)).2.2.2

/-- What is known of the jobs of building scripts whose analyses deliver. -/
def buildPlan (site : IsBuildSite settings now.machine.disk)
    (named : ∀ pair ∈ described, Checked.isName pair.2.name)
    (distinct : (described.map (·.2.name)).Nodup)
    (each : ∀ pair ∈ described, ∀ kind ∈ pair.1.selection.kindsFor pair.2.language,
      Activity.Delivers (rules settings (HoldsBuilding settings now right described))
        (fun r => resultOn settings now.machine pair.2 kind = some r) mostPauses
        (analyze kind pair.2 true))
    (extras : List (String × ExtraTest)) {single : Bool}
    (alone : single → described.length = 1) : Plan Session AnalysisResult where
  toRules := rules settings (HoldsBuilding settings now right described)
  jobs := jobsOf described extras
  single := single
  alone one := by rw [jobsOf, List.length_map, alone one]
  goods := described.map fun pair =>
    goodResults settings now.machine pair.2 (pair.1.selection.kindsFor pair.2.language)
  parts := by
    rw [jobsOf, List.forall₂_map_left_iff, List.forall₂_map_right_iff]
    exact List.forall₂_same.mpr fun pair hpair _ _ =>
      ⟨_, rfl, delivers_analyses (each pair hpair)⟩
  few good hgood := by
    obtain ⟨pair, -, rfl⟩ := List.mem_map.mp hgood
    rw [goodResults, List.length_map]
    exact length_kindsFor_le _ _
  left job s := ∀ pair, described[job]? = some pair →
    HasFiles settings now.machine.toolbox s.machine.disk pair.2
  stays {job s s'} h writes left pair there := by
    refine (left pair there).of_writesAt (writes h.folder).2 fun q own entry => ?_
    exact (h.machine.site site).not_isPlaceOf (named pair (List.mem_of_getElem? there)) entry own
  finish {job found} at' values s h {result s'} finished := by
    obtain ⟨pair, there, rfl⟩ := exists_of_jobsOf at'
    obtain ⟨h', stays, leaves⟩ := left_of_finish site named distinct there h finished
    refine ⟨h', fun other apart left pair' there' => ?_, fun ok pair' there' => ?_⟩
    · exact stays other apart pair' there' (left pair' there')
    · cases there.symm.trans there'
      exact leaves ok

end

/-! ## The builds of a manifest -/

/-- The request whose report the build of a described script begins with. -/
def requestFor (pair : Descriptor × Script) : Request :=
  ⟨pair.2, pair.1.selection, true⟩

/-- Described scripts that may be built in a session in which requests were answered before. -/
structure MayBuild (settings : Settings) (s : Session) (requests : List Request) (now : Session)
    (described : List (Descriptor × Script)) : Prop where
  empty : s.StartsEmpty settings
  noCollision : NoCollision settings s.machine.toolbox requests
  free : ∀ other ∈ requests, other.script.IsFreeOfZeros
  asked : described.map requestFor ⊆ requests
  holds : HoldsFor settings s.machine requests (fun _ => True) (fun _ => False) now
  site : IsBuildSite settings now.machine.disk
  named : ∀ pair ∈ described, Checked.isName pair.2.name

section

variable {settings : Settings} {s now : Session} {requests : List Request}
  {described : List (Descriptor × Script)} {extras : List (String × ExtraTest)}

/-- Under the keys of the analyses there is nothing but what they come to. -/
theorem MayBuild.hasRight (h : MayBuild settings s requests now described) :
    ∀ pair ∈ described, ∀ kind ∈ pair.1.selection.kindsFor pair.2.language,
      HasRight settings now.machine (RightFor settings s.machine requests fun _ => True) pair.2
        kind := by
  intro pair hpair kind applies
  have asked : requestFor pair ∈ requests := h.asked (List.mem_map_of_mem hpair)
  refine ⟨fun has comes made => ?_, fun has isRight => ?_⟩
  · rw [h.holds.machine.toolbox] at has
    rw [h.holds.machine.resultOn_eq h.empty.ready] at comes
    exact ⟨⟨⟨requestFor pair, asked, rfl, kind, applies, has, comes⟩, made⟩, trivial⟩
  · rw [h.holds.machine.toolbox] at has
    rw [h.holds.machine.resultOn_eq h.empty.ready]
    exact isRight.1.resultOn_eq h.noCollision h.free asked rfl applies has

/-- All that is kept after requests can stay. -/
theorem MayBuild.canStay (h : MayBuild settings s requests now described) :
    let right := CanStay settings now (RightFor settings s.machine requests fun _ => True)
    now.Holds settings (Lasts settings now.machine right []) (Remembers right fun _ => False) where
  under := h.holds.under
  analyzers := h.holds.analyzers
  machine := by
    refine lasts_of_follows h.empty.ready { h.holds.machine with
      files := fun folder given key isKey => ?_ }
    obtain ⟨found, read, isRight⟩ := h.holds.machine.files folder given isKey
    exact ⟨found, read, fun r hr =>
      ⟨⟨(isRight r hr).1, .inr fun _ _ => (isRight r hr).2⟩, (isRight r hr).2⟩⟩
  caching := h.holds.caching
  folder := h.holds.folder
  memory cache hc := by
    have memory := h.holds.memory cache hc
    refine ⟨fun {key r} kept => ⟨memory.right kept, .inl ⟨cache, hc, ?_⟩⟩, memory.stays⟩
    rw [kept]
    exact Option.some_ne_none r

theorem MayBuild.anyMemory (h : MayBuild settings s requests now described) :
    now.Holds settings
      (FollowsFor settings s.machine requests fun _ => True) fun _ => True :=
  ⟨h.holds.under, h.holds.analyzers, h.holds.machine, h.holds.caching, h.holds.folder,
    fun _ _ => trivial⟩

/-- What holds when the first of the scripts is built. -/
theorem MayBuild.begins (h : MayBuild settings s requests now described)
    (builds : ∀ pair ∈ described, CanBuild settings now.machine.toolbox now.machine.disk pair.2) :
    HoldsBuilding settings now (RightFor settings s.machine requests fun _ => True) described now :=
  (HoldsFor.staying h.holds).withMachine { lasts_of_follows h.empty.ready h.holds.machine with
    builds := List.forall_mem_map.mpr builds }

/-- The analyses of a script that can be built side by side deliver. -/
theorem MayBuild.delivers (h : MayBuild settings s requests now described) {script : Script}
    {selection : Selection} {output : BuildOutput}
    (promises : Promises settings now script selection extras output)
    {right : String → AnalysisResult → Prop}
    (begins : HoldsBuilding settings now right described now)
    {kind : AnalyzerKind} (applies : kind ∈ selection.kindsFor script.language)
    (hasRight : HasRight settings now.machine right script kind) :
    Activity.Delivers (rules settings (HoldsBuilding settings now right described))
      (fun r => resultOn settings now.machine script kind = some r) mostPauses
      (analyze kind script true) := by
  obtain ⟨found, reports⟩ := promises.reports
  obtain ⟨r, comes⟩ := reports.each kind applies
  refine delivers_analyze_true (steady_lasts h.site) (regime_lasts h.site _) h.empty.caching
    begins.machine (admits_lasts h.site (names_of_described h.named) hasRight.kept) hasRight.only
    reports.content comes (promises.keeps kind applies) ?_
  intro m lasts folder kept key has _
  obtain ⟨found, read, -⟩ := lasts.files folder kept has.isKey
  exact ⟨found, read⟩

/-- Builds that can be done side by side have no fault, however many analyses are made at once, and
each of them comes to what it should and leaves its files behind. -/
theorem MayBuild.outcome (h : MayBuild settings s requests now described)
    (distinct : (described.map (·.2.name)).Nodup) {outputs : List BuildOutput}
    (promises : List.Forall₂ (fun pair => Promises settings now pair.2 pair.1.selection extras)
      described outputs) {single : Bool} (alone : single → described.length = 1)
    {places : Nat} (positive : 0 < places) :
    ∃ later, Turns.outcome (jobsOf described extras) single places now = (none, later) ∧
      (∀ {n pair output}, described[n]? = some pair → outputs[n]? = some output →
        outputOf settings pair.2 pair.1.selection extras
          ((Turns.played (jobsOf described extras) single places now).values n) = .ok output) ∧
      ∀ pair ∈ described, HasFiles settings now.machine.toolbox later.machine.disk pair.2 := by
  let right := RightFor settings s.machine requests fun _ => True
  have promised {n : Nat} {pair : Descriptor × Script} (there : described[n]? = some pair) :
      ∃ output, outputs[n]? = some output ∧
        Promises settings now pair.2 pair.1.selection extras output := by
    obtain ⟨long, each⟩ := List.forall₂_iff_get.mp promises
    obtain ⟨inside, rfl⟩ := List.getElem?_eq_some_iff.mp there
    exact ⟨_, List.getElem?_eq_getElem (long ▸ inside), each n inside (long ▸ inside)⟩
  have begins : HoldsBuilding settings now right described now := by
    refine h.begins fun pair hpair => ?_
    obtain ⟨n, there⟩ := List.mem_iff_getElem?.mp hpair
    obtain ⟨output, -, promises⟩ := promised there
    exact promises.builds
  have each (pair : Descriptor × Script) (hpair : pair ∈ described) (kind : AnalyzerKind)
      (applies : kind ∈ pair.1.selection.kindsFor pair.2.language) :
      Activity.Delivers (rules settings (HoldsBuilding settings now right described))
        (fun r => resultOn settings now.machine pair.2 kind = some r) mostPauses
        (analyze kind pair.2 true) := by
    obtain ⟨n, there⟩ := List.mem_iff_getElem?.mp hpair
    obtain ⟨output, -, promises⟩ := promised there
    exact h.delivers promises begins applies (h.hasRight pair hpair kind applies)
  let plan := buildPlan h.site h.named distinct each extras alone
  have goods {n : Nat} {pair : Descriptor × Script} (there : described[n]? = some pair) :
      plan.goods[n]? = some (goodResults settings now.machine pair.2
        (pair.1.selection.kindsFor pair.2.language)) := by
    simp [plan, buildPlan, there]
  rcases plan.outcome_or_fails positive begins with ⟨later, outcome, -, left, good⟩ | fails
  · refine ⟨later, outcome, fun {n pair output} there given => ?_, fun pair hpair => ?_⟩
    · obtain ⟨output', given', promises⟩ := promised there
      cases given.symm.trans given'
      exact promises.outputOf_eq (good (goods there))
    · obtain ⟨n, there⟩ := List.mem_iff_getElem?.mp hpair
      refine left n ?_ pair there
      simpa [plan, buildPlan, jobsOf] using (List.getElem?_eq_some_iff.mp there).1
  · obtain ⟨fault, -, -, job, found, good, values, s, at', given, isGood, inv, failed⟩ := fails
    obtain ⟨pair, there, rfl⟩ := exists_of_jobsOf at'
    obtain ⟨output, -, promises⟩ := promised there
    cases given.symm.trans (goods there)
    have among := List.mem_of_getElem? there
    have builds := inv.machine.builds pair.2 (List.mem_map_of_mem among)
    rw [← inv.machine.toolbox] at builds
    have ok :=
      run_finish_buildJob_eq_ok inv (h.named pair among) builds (promises.outputOf_eq isGood)
    cases failed.symm.trans ok

/-- What was loaded is told by the descriptors. -/
theorem pairs_of_loaded {disk : Disk} {base? : Option Path}
    (loaded : ∀ pair ∈ described, pair.1.toScript disk base? = .ok pair.2) :
    (described.map fun (d, script) => (d, Except.ok script)) =
      (described.map Prod.fst).map fun d => (d, d.toScript disk base?) := by
  rw [List.map_map]
  refine List.map_congr_left fun pair hpair => ?_
  rw [Function.comp_apply, loaded pair hpair]

/-- Scripts that are built together are built alike when they take turns, however many analyses are
made at once: every build comes to the same, on results as they should be, and the same files are
there in the end. -/
theorem buildAll_sideBySide (h : s.StartsEmpty settings) (before : List Request)
    (described : List (Descriptor × Script)) {base? : Option Path}
    (loaded : ∀ pair ∈ described,
      pair.1.toScript (afterAll before s).machine.disk base? = .ok pair.2)
    (named : ∀ pair ∈ described, Checked.isName pair.2.name)
    (site : IsBuildSite settings (afterAll before s).machine.disk)
    (free : ∀ other ∈ before ++ described.map requestFor, other.script.IsFreeOfZeros)
    (noCollision : NoCollision settings s.machine.toolbox (before ++ described.map requestFor))
    {outputs : List BuildOutput} {last : Session}
    (ran : (buildAll (described.map Prod.fst) base?).run (afterAll before s) = (.ok outputs, last))
    {places : Nat} (positive : 0 < places) :
    let jobs := buildJobs (described.map fun (d, script) => (d, .ok script))
    let now := afterAll before s
    ∃ later, Turns.outcome jobs false places now = (none, later) ∧
      (∀ {n pair output}, described[n]? = some pair → outputs[n]? = some output →
        outputOf settings pair.2 pair.1.selection []
          ((Turns.played jobs false places now).values n) = .ok output) ∧
      ∀ pair ∈ described, HasFiles settings now.machine.toolbox later.machine.disk pair.2 ∧
        HasFiles settings now.machine.toolbox last.machine.disk pair.2 := by
  intro jobs now
  have may : MayBuild settings s (before ++ described.map requestFor) now described :=
    ⟨h, noCollision, free, List.subset_append_right _ _,
      h.holds_afterAll (List.subset_append_left _ _), site, named⟩
  obtain ⟨nodup, described', inOrder, same, loaded', built, disk⟩ := buildAll_eq_ok ran
  rw [pairs_of_loaded loaded', ← same, ← pairs_of_loaded loaded] at built
  have distinct := names_of_loaded loaded ▸ nodup
  have promises :=
    promises_of_buildAllInOrder site h.caching named may.hasRight may.canStay built
  have several (single : false) : described.length = 1 := by cases single
  obtain ⟨later, outcome, comes, files⟩ := may.outcome distinct promises several positive
  have sameJobs : jobs = jobsOf described [] := List.map_map
  rw [sameJobs]
  refine ⟨later, outcome, comes, fun pair hpair => ⟨files pair hpair, ?_⟩⟩
  obtain ⟨-, all⟩ := hasFiles_of_buildAllInOrder may.anyMemory named distinct
    (fun pair hpair q own entry => site.not_isPlaceOf (named pair hpair) entry own) built
  have inOrder : ∀ pair ∈ described,
      HasFiles settings now.machine.toolbox inOrder.machine.disk pair.2 :=
    ((List.forall₂_and_left _ _).mp (all.imp fun _ _ built => ⟨built.2.2, built⟩)).1
  rw [disk]
  exact inOrder pair hpair

/-- A program is built where results are kept in files. Four workers write the same files. -/
theorem buildAll_sideBySide_program :
    let settings : Settings := { Settings.atRoot with persistCache := true }
    let toolbox : Toolbox := ⟨fun name => some ("/bin/" ++ name), fun _ => .finished [] [] 0⟩
    let disk : Disk := ⟨[], [(["tmp"], .folder), (["cache"], .folder)]⟩
    let s : Session :=
      ⟨settings, builtinAnalyzers settings, some ⟨some ⟨1, ["cache"]⟩, []⟩,
        { toolbox, disk, temporaryMark := "0" }⟩
    let script : Script := ⟨"a", .python3, none, "pass\n", [], true⟩
    let d : Descriptor := { name := "a", language := "python", source := .text "pass\n" }
    s.StartsEmpty settings ∧ IsBuildSite settings disk ∧
      ∃ later, Turns.outcome (buildJobs [(d, .ok script)]) false 4 s = (none, later) ∧
        HasFiles settings toolbox later.machine.disk script := by
  intro settings toolbox disk s script d
  have made : (Disk.mk [] [(["tmp"], .folder)]).ensureFolders ⟨1, ["cache"]⟩ = .ok disk := by
    with_unfolding_all rfl
  have started : start settings (builtinAnalyzers settings)
      { toolbox, disk := ⟨[], [(["tmp"], .folder)]⟩, temporaryMark := "0" } = .ok s := by
    have caching : settings.cacheResults := rfl
    have folder : cacheFolder settings = some ⟨1, ["cache"]⟩ := rfl
    rw [start, if_pos caching, folder, ResultCache.start]
    simp only [made]
    rfl
  have visited : disk.visitsOf settings.tempDir = [[], ["tmp"]] := by decide
  have empty : s.StartsEmpty settings := by
    refine startsEmpty_of_apart started rfl rfl fun folder given => ?_
    cases given
    refine ⟨by decide, by decide, fun key => ⟨rfl, ?_⟩⟩
    change ["cache", entryName key] ∉ disk.visitsOf settings.tempDir
    rw [visited]
    simp
  have site : IsBuildSite settings disk := by
    refine ⟨⟨⟨["tmp"], by decide⟩, by rw [visited]; decide⟩,
      fun folder given => leadsToFolder_of_start started given, ?_, fun folder given => ?_⟩
    · unfold IsStraight
      decide
    · cases given
      unfold AreApart
      decide
  have loaded : d.toScript disk none = .ok script := by decide +kernel
  have free : script.IsFreeOfZeros := by
    simp [script, Script.IsFreeOfZeros, Script.parts, Script.distinguishingName]
  have asks {other : Request} (asked : other ∈ [requestFor (d, script)]) :
      other = requestFor (d, script) := List.mem_singleton.mp asked
  have noCollision : NoCollision settings toolbox [requestFor (d, script)] := by
    refine noCollision_of_one script.content
      (keyInput script.fingerprint .parses "syntax/1+python3:unknown")
      (fun other asked => by rw [asks asked]; rfl)
      (fun other asked kind applies version has _ => ?_) (by decide +kernel)
    cases asks asked
    have kinds : (requestFor (d, script)).kinds = [.parses] := by decide
    rw [kinds, List.mem_singleton] at applies
    subst applies
    obtain ⟨v, tells, rfl⟩ := has
    cases tells
    rfl
  have ok : ((buildAll [d] none).run s).1.isOk := by decide +kernel
  rcases ran : (buildAll [d] none).run s with ⟨result, last⟩
  rw [ran] at ok
  cases result with
  | error fault => cases ok
  | ok outputs =>
      obtain ⟨later, outcome, -, files⟩ := buildAll_sideBySide empty [] [(d, script)]
        (List.forall_mem_singleton.mpr loaded) (by decide) site (List.forall_mem_singleton.mpr free)
        noCollision ran (by decide : 0 < 4)
      exact ⟨empty, site, later, outcome, (files (d, script) (List.mem_singleton_self _)).1⟩

/-- A script that is built by itself is built alike when its analyses are made side by side. -/
theorem build_sideBySide (h : s.StartsEmpty settings) (before : List Request) (d : Descriptor)
    {script : Script} {base? : Option Path}
    (loaded : d.toScript (afterAll before s).machine.disk base? = .ok script)
    (named : Checked.isName script.name)
    (site : IsBuildSite settings (afterAll before s).machine.disk)
    (free : ∀ other ∈ before ++ [requestFor (d, script)], other.script.IsFreeOfZeros)
    (noCollision : NoCollision settings s.machine.toolbox (before ++ [requestFor (d, script)]))
    {output : BuildOutput} {last : Session}
    (ran : (build d extras base?).run (afterAll before s) = (.ok output, last)) {places : Nat}
    (positive : 0 < places) :
    let jobs := [buildJob (.ok script) d.selection extras]
    let now := afterAll before s
    ∃ later, Turns.outcome jobs true places now = (none, later) ∧
      outputOf settings script d.selection extras
        ((Turns.played jobs true places now).values 0) = .ok output ∧
      HasFiles settings now.machine.toolbox later.machine.disk script ∧
      HasFiles settings now.machine.toolbox last.machine.disk script := by
  intro jobs now
  have may : MayBuild settings s (before ++ [requestFor (d, script)]) now [(d, script)] :=
    ⟨h, noCollision, free, List.subset_append_right _ _,
      h.holds_afterAll (List.subset_append_left _ _), site, by simpa using named⟩
  obtain ⟨script', loaded', inOrder⟩ := build_eq_ok ran
  cases loaded.symm.trans loaded'
  have promises := (promises_of_buildInOrder site h.caching named
    (may.hasRight _ (List.mem_singleton_self _)) may.canStay inOrder).2
  have alone (_ : true) : [(d, script)].length = 1 := rfl
  obtain ⟨later, outcome, comes, files⟩ :=
    may.outcome (List.nodup_singleton _) (.cons promises .nil) alone positive
  exact ⟨later, outcome, @comes 0 (d, script) output rfl rfl,
    files (d, script) (List.mem_singleton_self _),
    (hasFiles_of_buildInOrder named may.anyMemory inOrder).2.2.2⟩

end

end ScriptVet.Session
