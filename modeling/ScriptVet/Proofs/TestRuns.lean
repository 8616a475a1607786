import Mathlib.Data.List.Dedup
import Mathlib.Data.String.Basic
import ScriptVet.Proofs.Session.Rerun
import ScriptVet.Proofs.Sorting

/-!
# The tests of scripts that are built together

Scripts that are built together have different names, and no word for a kind ends in a hyphen and
the word for another kind. So the ids of tests that ask analyzers are all different, and when the
tests are put together there is one for each script and each of its kinds. They are run in the order
of their ids, each of them once.
-/

namespace ScriptVet

open Activity Analyzer

namespace TestCase

/-- No word for a kind goes on after a hyphen with the word for a kind. -/
theorem not_splitsLater_word (script script' : String) (kind kind' : AnalyzerKind) :
    ¬ SplitsLater script kind.word script' kind'.word := by
  have apart : ∀ kind ∈ AnalyzerKind.all, ∀ kind' ∈ AnalyzerKind.all,
      ¬ '-' :: kind'.word.toList <:+ kind.word.toList := by
    decide
  intro later
  obtain ⟨word, -, test⟩ := splitsLater_iff.mp later
  exact apart kind kind.mem_all kind' kind'.mem_all ⟨word, test.symm⟩

/-- Whatever the names of scripts are, an id tells the script and the kind. -/
theorem idFor_word_eq_iff {script script' : String} {kind kind' : AnalyzerKind} :
    idFor script kind.word = idFor script' kind'.word ↔ script = script' ∧ kind = kind' := by
  rw [idFor_eq_iff]
  constructor
  · rintro (⟨same, word⟩ | later | later)
    · exact ⟨same, AnalyzerKind.word_injective word⟩
    · exact absurd later (not_splitsLater_word _ _ _ _)
    · exact absurd later (not_splitsLater_word _ _ _ _)
  · rintro ⟨rfl, rfl⟩
    exact .inl ⟨rfl, rfl⟩

/-- The test that asks the analyzer of a kind about an artifact. -/
def ofKind (settings : Settings) (artifact : Artifact) (kind : AnalyzerKind) : TestCase :=
  ⟨idFor artifact.name kind.word, artifact, .analyzes (builtin settings kind)⟩

theorem ofKind_injective (settings : Settings) (artifact : Artifact) :
    Function.Injective (ofKind settings artifact) := by
  intro kind kind' same
  exact (idFor_word_eq_iff.mp (congrArg id same)).2

end TestCase

/-- Tests under their ids. -/
def TestMap.ofTests (tests : List TestCase) : TestMap :=
  tests.map fun test => (test.id, test)

@[simp] theorem TestMap.map_fst_ofTests (tests : List TestCase) :
    (ofTests tests).map Prod.fst = tests.map TestCase.id := by
  simp [ofTests, Function.comp_def]

@[simp] theorem TestMap.map_snd_ofTests (tests : List TestCase) :
    (ofTests tests).map Prod.snd = tests := by
  simp [ofTests, Function.comp_def]

/-- The tests of a script ask the analyzers of its kinds, each of them once. -/
theorem TestMap.generate_perm {settings : Settings} {report : Report} {artifact : Artifact}
    {selection : Selection} {tests : TestMap}
    (made : generate (Session.builtinAnalyzers settings) report artifact selection [] =
      .ok tests) :
    tests.Perm
      (ofTests ((kinds report selection).dedup.map (TestCase.ofKind settings artifact))) := by
  have ours {pair : String × TestCase} (member : pair ∈ tests) :
      ∃ kind ∈ kinds report selection,
        pair = ((TestCase.ofKind settings artifact kind).id,
          TestCase.ofKind settings artifact kind) := by
    rcases eq_of_mem_generate made member with
      ⟨extra, none, -⟩ | ⟨kind, hkind, analyzer, asks, same⟩
    · cases none
    · obtain rfl := Except.ok.inj ((analyzerOf_builtin settings kind).symm.trans asks)
      exact ⟨kind, hkind, same⟩
  have nodup : ((kinds report selection).dedup.map (TestCase.ofKind settings artifact)).Nodup :=
    (List.nodup_dedup _).map (TestCase.ofKind_injective settings artifact)
  have nodup' : (ofTests
      ((kinds report selection).dedup.map (TestCase.ofKind settings artifact))).Nodup :=
    nodup.map fun a b same => congrArg Prod.snd same
  refine (List.perm_ext_iff_of_nodup (nodup_generate made).of_map nodup').mpr fun pair => ?_
  simp only [ofTests, List.mem_map, List.mem_dedup, exists_exists_and_eq_and]
  constructor
  · intro member
    obtain ⟨kind, hkind, same⟩ := ours member
    exact ⟨kind, hkind, same.symm⟩
  · rintro ⟨kind, hkind, rfl⟩
    -- The id is in the map, and what is found under it is a test of the same kind.
    have known : TestCase.idFor artifact.name kind.word ∈ tests.map Prod.fst :=
      (mem_map_fst_generate made).mpr ⟨kind.word, by
        rw [testNames, List.map_nil, List.append_nil]
        exact List.mem_map_of_mem hkind, rfl⟩
    obtain ⟨pair, member, found⟩ := List.mem_map.mp known
    obtain ⟨kind', -, rfl⟩ := ours member
    obtain ⟨-, rfl⟩ := TestCase.idFor_word_eq_iff.mp found
    exact member

/-- The kinds that are tested are those in the report exactly if the parse check is one of these and
all of them are switched on. -/
theorem TestMap.mem_kinds_iff_reported {report : Report} {selection : Selection}
    (on : selection.isEnabled .parses) :
    (∀ kind, kind ∈ kinds report selection ↔ ∃ r ∈ report.results, r.kind = kind) ↔
      (∃ r ∈ report.results, r.kind = .parses) ∧
        ∀ r ∈ report.results, selection.isEnabled r.kind := by
  have mem (kind : AnalyzerKind) : kind ∈ kinds report selection ↔
      kind = .parses ∨ (∃ r ∈ report.results, r.kind = kind) ∧ selection.isEnabled kind := by
    simp only [kinds]
    split
    · next reported =>
      rw [List.contains_iff_mem, List.mem_filter, List.mem_map] at reported
      rw [List.mem_filter, List.mem_map]
      refine ⟨.inr, ?_⟩
      rintro (rfl | listed)
      · exact reported
      · exact listed
    · rw [List.mem_cons, List.mem_filter, List.mem_map]
  constructor
  · intro same
    refine ⟨(same .parses).mp ((mem .parses).mpr (.inl rfl)), fun r hr => ?_⟩
    rcases (mem r.kind).mp ((same r.kind).mpr ⟨r, hr, rfl⟩) with parses | ⟨-, enabled⟩
    · rw [parses]
      exact on
    · exact enabled
  · rintro ⟨parses, enabled⟩ kind
    rw [mem]
    constructor
    · rintro (rfl | ⟨reported, -⟩)
      · exact parses
      · exact reported
    · rintro ⟨r, hr, rfl⟩
      exact .inr ⟨⟨r, hr, rfl⟩, enabled r hr⟩

/-! ## What is built of several scripts -/

/-- What was built of a described script, with its tests and none of the caller. -/
structure BuildOutput.IsOf (settings : Settings) (d : Descriptor) (output : BuildOutput) : Prop
    where
  artifact : output.artifact.name = d.name
  report : output.report.scriptName = d.name
  tests : TestMap.generate (Session.builtinAnalyzers settings) output.report output.artifact
    d.selection [] = .ok output.tests

namespace Session

variable {settings : Settings} {s s' : Session}

theorem isOf_of_buildInOrder {inv : Machine → Prop} {d : Descriptor} {script : Script}
    {output : BuildOutput} (named : Checked.isName d.name) (name : script.name = d.name)
    (h : s.Holds settings inv fun _ => True)
    (ran : (buildInOrder script d.selection []).run s = (.ok output, s')) :
    (∃ inv', s'.Holds settings inv' fun _ => True) ∧ output.IsOf settings d := by
  rw [← name] at named
  obtain ⟨found, s1, analyzed, finished⟩ := run_bind_eq_ok.mp ran
  obtain ⟨h1, -⟩ := spares_of_runInOrder h analyzed
  obtain ⟨results, s2, -, reported⟩ := run_bind_eq_ok.mp analyzed
  rw [run_liftM] at reported
  obtain ⟨_, -, made⟩ := Result.bind_eq_ok.mp (congrArg Prod.fst reported)
  obtain ⟨disk, wrote, rfl, same, tests⟩ := finish_eq_ok finished
  obtain ⟨artifact, -, -, -⟩ := Builder.hasFiles_of_build named wrote
  refine ⟨⟨fun _ => True, h1.withMachine trivial⟩, ?_, ?_, ?_⟩
  · rw [artifact, ← name]
    rfl
  · rw [same, ← Except.ok.inj made, ← name]
    rfl
  · rw [same, ← h1.analyzers]
    exact tests

theorem isOf_of_buildAllInOrder {inv : Machine → Prop} {described : List (Descriptor × Script)}
    {outputs : List BuildOutput} (h : s.Holds settings inv fun _ => True)
    (named : ∀ pair ∈ described, Checked.isName pair.1.name ∧ pair.2.name = pair.1.name)
    (ran : (buildAllInOrder (described.map fun (d, script) => (d, .ok script))).run s =
      (.ok outputs, s')) :
    List.Forall₂ (BuildOutput.IsOf settings) (described.map Prod.fst) outputs := by
  induction described generalizing s inv outputs with
  | nil =>
      cases ran
      exact .nil
  | cons pair described ih =>
      obtain ⟨d, script⟩ := pair
      rw [List.forall_mem_cons] at named
      rw [List.map_cons, buildAllInOrder, List.mapM_cons] at ran
      obtain ⟨output, s1, first, others⟩ := run_bind_eq_ok.mp ran
      obtain ⟨more, s2, rest, given⟩ := run_bind_eq_ok.mp others
      cases given
      obtain ⟨⟨inv', h1⟩, isOf⟩ := isOf_of_buildInOrder named.1.1 named.1.2 h first
      exact .cons isOf (ih h1 named.2 rest)

/-- Scripts that are built together have different names, and what is built of each of them is its
own. -/
theorem isOf_of_buildAll {descriptors : List Descriptor} {base? : Option Path}
    {outputs : List BuildOutput} (h : s.Holds settings (fun _ => True) fun _ => True)
    (named : ∀ d ∈ descriptors, Checked.isName d.name)
    (built : (buildAll descriptors base?).run s = (.ok outputs, s')) :
    (descriptors.map (·.name)).Nodup ∧
      List.Forall₂ (BuildOutput.IsOf settings) descriptors outputs := by
  obtain ⟨nodup, described, last, rfl, loaded, ran, -⟩ := buildAll_eq_ok built
  refine ⟨nodup, isOf_of_buildAllInOrder h (fun pair hpair => ⟨?_, ?_⟩) ran⟩
  · exact named pair.1 (List.mem_map_of_mem hpair)
  · obtain ⟨text, languageName, -, -, script⟩ := Descriptor.toScript_eq_ok (loaded pair hpair)
    rw [script]

end Session

/-! ## One test for each script and kind -/

/-- For each script one test of every kind in its report that is switched on, and of the parse
check. -/
def testsByKind (settings : Settings) (descriptors : List Descriptor)
    (outputs : List BuildOutput) : List TestCase :=
  (descriptors.zip outputs).flatMap fun pair =>
    (TestMap.kinds pair.2.report pair.1.selection).dedup.map
      (TestCase.ofKind settings pair.2.artifact)

section

variable {settings : Settings} {descriptors : List Descriptor} {outputs : List BuildOutput}

theorem flatten_tests_perm (built : List.Forall₂ (BuildOutput.IsOf settings) descriptors outputs) :
    (outputs.map (·.tests)).flatten.Perm
      (TestMap.ofTests (testsByKind settings descriptors outputs)) := by
  induction built with
  | nil => exact .nil
  | @cons d output descriptors outputs isOf _ ih =>
      rw [List.map_cons, List.flatten_cons, testsByKind, List.zip_cons_cons, List.flatMap_cons,
        TestMap.ofTests, List.map_append]
      exact (TestMap.generate_perm isOf.tests).append ih

theorem exists_of_mem_testsByKind
    (built : List.Forall₂ (BuildOutput.IsOf settings) descriptors outputs) {test : TestCase}
    (h : test ∈ testsByKind settings descriptors outputs) :
    ∃ d ∈ descriptors, ∃ kind : AnalyzerKind, test.id = TestCase.idFor d.name kind.word := by
  obtain ⟨⟨d, output⟩, hpair, inside⟩ := List.mem_flatMap.mp h
  obtain ⟨kind, -, rfl⟩ := List.mem_map.mp inside
  have isOf : output.IsOf settings d := (List.forall₂_iff_zip.mp built).2 hpair
  refine ⟨d, (List.of_mem_zip hpair).1, kind, ?_⟩
  rw [TestCase.ofKind, isOf.artifact]

/-- Ids of tests of different scripts are different, and so are those of one script. -/
theorem nodup_ids_testsByKind
    (built : List.Forall₂ (BuildOutput.IsOf settings) descriptors outputs)
    (distinct : (descriptors.map (·.name)).Nodup) :
    ((testsByKind settings descriptors outputs).map TestCase.id).Nodup := by
  induction built with
  | nil => exact .nil
  | @cons d output descriptors outputs isOf built ih =>
      rw [List.map_cons, List.nodup_cons] at distinct
      rw [testsByKind, List.zip_cons_cons, List.flatMap_cons, List.map_append, List.nodup_append]
      refine ⟨?_, ih distinct.2, ?_⟩
      · rw [List.map_map]
        exact (List.nodup_dedup _).map fun kind kind' same =>
          (TestCase.idFor_word_eq_iff.mp same).2
      · rintro id first _ later rfl
        obtain ⟨test, inside, rfl⟩ := List.mem_map.mp first
        obtain ⟨kind, -, rfl⟩ := List.mem_map.mp inside
        obtain ⟨test', hother, same⟩ := List.mem_map.mp later
        obtain ⟨d', hd', kind', named⟩ := exists_of_mem_testsByKind built hother
        rw [named, TestCase.ofKind, isOf.artifact] at same
        have names := (TestCase.idFor_word_eq_iff.mp same).1
        exact distinct.1 (List.mem_map.mpr ⟨d', hd', names⟩)

/-- No test is lost when the tests of the scripts are put together. -/
theorem collect_perm_testsByKind
    (built : List.Forall₂ (BuildOutput.IsOf settings) descriptors outputs)
    (distinct : (descriptors.map (·.name)).Nodup) :
    (TestMap.collect (outputs.map (·.tests))).Perm
      (TestMap.ofTests (testsByKind settings descriptors outputs)) := by
  have all := flatten_tests_perm built
  have ids : ((outputs.map (·.tests)).flatten.map Prod.fst).Nodup := by
    rw [(all.map Prod.fst).nodup_iff, TestMap.map_fst_ofTests]
    exact nodup_ids_testsByKind built distinct
  exact (TestMap.collect_perm_flatten_iff_nodup.mpr ids).trans all

end

/-! ## Running tests -/

/-- Tests that are run one after another, with their verdicts, from one machine to another. -/
inductive TestsRun : List (TestCase × Verdict) → Machine → Machine → Prop where
  | done (m : Machine) : TestsRun [] m m
  | next {test : TestCase} {verdict : Verdict} {executed : List (TestCase × Verdict)}
    {m m' m'' : Machine} (ran : test.run.run m = (.ok verdict, m'))
    (rest : TestsRun executed m' m'') : TestsRun ((test, verdict) :: executed) m m''

theorem testsRun_of_mapM {tests : TestMap} (named : ∀ pair ∈ tests, pair.1 = pair.2.id)
    {m m' : Machine} {verdicts : List (String × Verdict)}
    (ran : (tests.mapM fun (id, test) => do
      return (id, ← test.run) : Work (List (String × Verdict))).run m = (.ok verdicts, m')) :
    ∃ executed, TestsRun executed m m' ∧ executed.map Prod.fst = tests.map Prod.snd ∧
      verdicts = executed.map fun pair => (pair.1.id, pair.2) := by
  induction tests generalizing m verdicts with
  | nil =>
      cases ran
      exact ⟨[], .done _, rfl, rfl⟩
  | cons pair tests ih =>
      obtain ⟨id, test⟩ := pair
      rw [List.forall_mem_cons] at named
      obtain rfl : id = test.id := named.1
      rw [List.mapM_cons] at ran
      obtain ⟨first, m1, one, others⟩ := run_bind_eq_ok.mp ran
      obtain ⟨rest, m2, later, given⟩ := run_bind_eq_ok.mp others
      obtain ⟨verdict, m3, comes, ended⟩ := run_bind_eq_ok.mp one
      cases given
      cases ended
      obtain ⟨executed, runs, same, rfl⟩ := ih named.2 later
      exact ⟨(test, verdict) :: executed, .next comes runs, congrArg (test :: ·) same, rfl⟩

/-- Tests are run in the order of their ids. -/
theorem TestMap.pairwise_sorted (tests : TestMap) :
    (tests.mergeSort fun a b => a.1 ≤ b.1).Pairwise fun a b => a.1 ≤ b.1 :=
  Sorting.pairwise_mergeSort (·.1) tests

/-- Tests in the order of their ids are run as they stand. -/
theorem TestMap.run_of_sorted {tests : TestMap} (sorted : tests.Pairwise fun a b => a.1 ≤ b.1) :
    tests.run = tests.mapM fun test => do return (test.1, ← test.2.run) := by
  rw [run, List.mergeSort_of_pairwise (sorted.imp decide_eq_true)]

/-- The tests of several scripts are run in the order of their ids: one for each script and each
kind, and no other. -/
theorem testsRun_of_run {settings : Settings} {descriptors : List Descriptor}
    {outputs : List BuildOutput} {m m' : Machine} {verdicts : List (String × Verdict)}
    (built : List.Forall₂ (BuildOutput.IsOf settings) descriptors outputs)
    (distinct : (descriptors.map (·.name)).Nodup)
    (ran : (TestMap.collect (outputs.map (·.tests))).run.run m = (.ok verdicts, m')) :
    ∃ executed, TestsRun executed m m' ∧
      (executed.map Prod.fst).Perm (testsByKind settings descriptors outputs) ∧
      (executed.map fun pair => pair.1.id).Pairwise (· < ·) ∧
      verdicts = executed.map fun pair => (pair.1.id, pair.2) := by
  let tests := TestMap.collect (outputs.map (·.tests))
  have same : (tests.mergeSort fun a b => a.1 ≤ b.1).Perm
      (TestMap.ofTests (testsByKind settings descriptors outputs)) :=
    (List.mergeSort_perm _ _).trans (collect_perm_testsByKind built distinct)
  have named : ∀ pair ∈ tests.mergeSort fun a b => a.1 ≤ b.1, pair.1 = pair.2.id := by
    intro pair hpair
    obtain ⟨test, -, rfl⟩ := List.mem_map.mp (same.mem_iff.mp hpair)
    rfl
  obtain ⟨executed, runs, executed_eq, given⟩ := testsRun_of_mapM named ran
  have perm : (executed.map Prod.fst).Perm (testsByKind settings descriptors outputs) := by
    rw [executed_eq, ← TestMap.map_snd_ofTests (testsByKind _ _ _)]
    exact same.map Prod.snd
  refine ⟨executed, runs, perm, ?_, given⟩
  have ids : executed.map (fun pair => pair.1.id) =
      (tests.mergeSort fun a b => a.1 ≤ b.1).map Prod.fst := by
    have ofTests := congrArg (List.map TestCase.id) executed_eq
    rw [List.map_map, List.map_map] at ofTests
    exact ofTests.trans (List.map_congr_left fun pair hpair => (named pair hpair).symm)
  have nodup : ((tests.mergeSort fun a b => a.1 ≤ b.1).map Prod.fst).Nodup := by
    rw [(same.map Prod.fst).nodup_iff, TestMap.map_fst_ofTests]
    exact nodup_ids_testsByKind built distinct
  rw [ids]
  exact ((List.pairwise_map.mpr tests.pairwise_sorted).and nodup).imp
    fun ⟨below, other⟩ => lt_of_le_of_ne below other

end ScriptVet
