import Mathlib.Data.List.Nodup
import Mathlib.Data.List.Pairwise
import ScriptVet.Proofs.Analyzer.Outcome
import ScriptVet.Session.Basic
import ScriptVet.TestCase

/-!
# Tests of several scripts

The tests of several scripts are put together under ids, and an id is the name of a script and the
name of a test with hyphens around them. Both names may hold hyphens themselves, so that an id may
be split in several ways. Here it is said which tests share an id, and what is lost by it when maps
are put together.
-/

namespace ScriptVet

namespace TestCase

/-- The second script and test have the letters of the first, split at a later hyphen. -/
def SplitsLater (script test longer shorter : String) : Prop :=
  ∃ word : String, longer = s!"{script}-{word}" ∧ test = s!"{word}-{shorter}"

theorem toList_idFor (script test : String) :
    (idFor script test).toList = "script-".toList ++ (script.toList ++ '-' :: test.toList) := by
  simp [idFor, toString]

theorem splitsLater_iff {script test script' test' : String} :
    SplitsLater script test script' test' ↔
      ∃ word : List Char, script'.toList = script.toList ++ '-' :: word ∧
        test.toList = word ++ '-' :: test'.toList := by
  constructor
  · rintro ⟨word, rfl, rfl⟩
    exact ⟨word.toList, by simp [toString], by simp [toString]⟩
  · rintro ⟨word, first, second⟩
    refine ⟨String.ofList word, ?_, ?_⟩
    · rw [← String.toList_inj]
      simp [first, toString]
    · rw [← String.toList_inj]
      simp [second, toString]

theorem SplitsLater.idFor_eq {script test script' test' : String}
    (h : SplitsLater script test script' test') : idFor script test = idFor script' test' := by
  obtain ⟨word, first, second⟩ := splitsLater_iff.mp h
  rw [← String.toList_inj, toList_idFor, toList_idFor, first, second]
  simp

/-- Two ids are equal if the tests are the same or one splits the id at a later hyphen. -/
theorem idFor_eq_iff {script test script' test' : String} :
    idFor script test = idFor script' test' ↔
      (script = script' ∧ test = test') ∨ SplitsLater script test script' test' ∨
        SplitsLater script' test' script test := by
  constructor
  · intro same
    rw [← String.toList_inj, toList_idFor, toList_idFor, List.append_cancel_left_eq,
      List.append_eq_append_iff] at same
    rcases same with ⟨between, first, second⟩ | ⟨between, first, second⟩
    · cases between with
      | nil =>
        simp only [List.append_nil, List.nil_append, List.cons.injEq, true_and] at first second
        exact .inl ⟨String.toList_inj.mp first.symm, String.toList_inj.mp second⟩
      | cons hyphen word =>
        obtain ⟨rfl, rest⟩ := List.cons.inj second
        exact .inr (.inl (splitsLater_iff.mpr ⟨word, first, rest⟩))
    · cases between with
      | nil =>
        simp only [List.append_nil, List.nil_append, List.cons.injEq, true_and] at first second
        exact .inl ⟨String.toList_inj.mp first, String.toList_inj.mp second.symm⟩
      | cons hyphen word =>
        obtain ⟨rfl, rest⟩ := List.cons.inj second
        exact .inr (.inr (splitsLater_iff.mpr ⟨word, first, rest⟩))
  · rintro (⟨rfl, rfl⟩ | later | later)
    · rfl
    · exact later.idFor_eq
    · exact later.idFor_eq.symm

theorem SplitsLater.length_lt {script test script' test' : String}
    (h : SplitsLater script test script' test') : script.length < script'.length := by
  obtain ⟨word, first, -⟩ := splitsLater_iff.mp h
  rw [← String.length_toList, ← String.length_toList, first, List.length_append,
    List.length_cons]
  omega

theorem splitsLater_iff_length_lt {script test script' test' : String} :
    SplitsLater script test script' test' ↔
      idFor script test = idFor script' test' ∧ script.length < script'.length := by
  constructor
  · exact fun later => ⟨later.idFor_eq, later.length_lt⟩
  · rintro ⟨same, shorter⟩
    rcases idFor_eq_iff.mp same with ⟨rfl, -⟩ | later | later
    · exact absurd shorter (Nat.lt_irrefl _)
    · exact later
    · exact absurd shorter (Nat.lt_asymm later.length_lt)

instance (script test script' test' : String) :
    Decidable (SplitsLater script test script' test') :=
  decidable_of_iff' _ splitsLater_iff_length_lt

end TestCase

namespace TestMap

variable {γ : Type} {artifact : Artifact}

/-- The tests of a script after tests for several items have been put. -/
theorem mem_map_fst_foldl_put (name : γ → String) (check : γ → TestCheck) {items : List γ}
    {tests : TestMap} {id : String} :
    id ∈ (items.foldl (fun tests x => put artifact (name x) (check x) tests) tests).map Prod.fst ↔
      id ∈ tests.map Prod.fst ∨ ∃ x ∈ items, id = TestCase.idFor artifact.name (name x) := by
  induction items generalizing tests with
  | nil => simp
  | cons x items ih =>
    rw [List.foldl_cons, ih, put, Keyed.mem_map_fst_put, List.exists_mem_cons_iff, or_assoc,
      or_left_comm]

theorem nodup_foldl_put (name : γ → String) (check : γ → TestCheck) {items : List γ}
    {tests : TestMap} (h : (tests.map Prod.fst).Nodup) :
    ((items.foldl (fun tests x => put artifact (name x) (check x) tests) tests).map
      Prod.fst).Nodup :=
  List.foldlRecOn (motive := fun tests : TestMap => (tests.map Prod.fst).Nodup) items _ h
    fun _ h _ _ => Keyed.nodup_put h

/-- A test under its id. -/
def entry (artifact : Artifact) (name : String) (check : TestCheck) : String × TestCase :=
  let id := TestCase.idFor artifact.name name
  (id, ⟨id, artifact, check⟩)

/-- A test after tests for several items have been put is one of these, or was there before. -/
theorem mem_foldl_put (name : γ → String) (check : γ → TestCheck) {items : List γ}
    {tests : TestMap} {pair : String × TestCase}
    (h : pair ∈ items.foldl (fun tests x => put artifact (name x) (check x) tests) tests) :
    pair ∈ tests ∨ ∃ x ∈ items, pair = entry artifact (name x) (check x) := by
  induction items generalizing tests with
  | nil => exact .inl h
  | cons x items ih =>
    rw [List.foldl_cons] at h
    rcases ih h with first | ⟨y, hy, same⟩
    · rcases Keyed.mem_put first with rfl | before
      · exact .inr ⟨x, List.mem_cons_self, rfl⟩
      · exact .inl before
    · exact .inr ⟨y, List.mem_cons_of_mem x hy, same⟩

theorem kind_of_analyzerOf {analyzers : List Analyzer} {kind : AnalyzerKind} {analyzer : Analyzer}
    (h : analyzerOf analyzers kind = .ok analyzer) : analyzer.kind = kind := by
  unfold analyzerOf at h
  split at h
  · next found =>
    cases h
    simpa using List.find?_some found
  · cases h

theorem map_kind_of_analyzersOf {analyzers asked : List Analyzer} {kinds : List AnalyzerKind}
    (h : List.Forall₂ (fun kind analyzer => analyzerOf analyzers kind = .ok analyzer) kinds asked) :
    asked.map (·.kind) = kinds := by
  induction h with
  | nil => rfl
  | cons first _ ih => rw [List.map_cons, ih, kind_of_analyzerOf first]

/-- The names of the tests that are generated for a script. -/
def testNames (report : Report) (selection : Selection) (extras : List (String × ExtraTest)) :
    List String :=
  (kinds report selection).map (·.word) ++ extras.map Prod.fst

/-- A map of tests and what it has been generated from. -/
structure Generated where
  analyzers : List Analyzer
  report : Report
  artifact : Artifact
  selection : Selection
  extras : List (String × ExtraTest)
  tests : TestMap
  made : generate analyzers report artifact selection extras = .ok tests

namespace Generated

/-- The name of the script that the tests are for. -/
def script (g : Generated) : String :=
  g.artifact.name

def names (g : Generated) : List String :=
  testNames g.report g.selection g.extras

end Generated

variable {analyzers : List Analyzer} {report : Report} {selection : Selection}
  {extras : List (String × ExtraTest)} {tests : TestMap}

/-- The analyzers that the tests ask, and the tests put together. -/
theorem generate_eq_ok (h : generate analyzers report artifact selection extras = .ok tests) :
    ∃ asked, List.Forall₂ (fun kind analyzer => analyzerOf analyzers kind = .ok analyzer)
        (kinds report selection) asked ∧
      tests = extras.foldl (fun tests extra => put artifact extra.1 (.extra extra.2) tests)
        (asked.foldl (fun tests analyzer =>
          put artifact analyzer.kind.word (.analyzes analyzer) tests) []) := by
  obtain ⟨asked, found, rest⟩ := Result.bind_eq_ok.mp h
  exact ⟨asked, Result.forall₂_of_mapM found, (Except.ok.inj rest).symm⟩

/-- A test that is generated is one of the caller, or asks an analyzer of the kinds to be tested. -/
theorem eq_of_mem_generate
    (made : generate analyzers report artifact selection extras = .ok tests)
    {pair : String × TestCase} (member : pair ∈ tests) :
    (∃ extra ∈ extras, pair = entry artifact extra.1 (.extra extra.2)) ∨
      ∃ kind ∈ kinds report selection, ∃ analyzer, analyzerOf analyzers kind = .ok analyzer ∧
        pair = entry artifact kind.word (.analyzes analyzer) := by
  obtain ⟨asked, found, rfl⟩ := generate_eq_ok made
  rcases mem_foldl_put Prod.fst (fun extra => .extra extra.2) member with own | extra
  · rcases mem_foldl_put (·.kind.word) .analyzes own with none | ⟨analyzer, ha, same⟩
    · cases none
    · obtain ⟨i, hi, rfl⟩ := List.getElem_of_mem ha
      have hkinds : i < (kinds report selection).length := found.length_eq ▸ hi
      have asks : analyzerOf analyzers (kinds report selection)[i] = .ok asked[i] :=
        found.get hkinds hi
      refine .inr ⟨_, List.getElem_mem hkinds, _, asks, ?_⟩
      rw [same, kind_of_analyzerOf asks]
  · exact .inl extra

theorem analyzerOf_builtin (settings : Settings) (kind : AnalyzerKind) :
    analyzerOf (Session.builtinAnalyzers settings) kind = .ok (Analyzer.builtin settings kind) := by
  cases kind <;> rfl

/-- Every test that is generated has its id, and no other id is in the map. -/
theorem mem_map_fst_generate
    (h : generate analyzers report artifact selection extras = .ok tests) {id : String} :
    id ∈ tests.map Prod.fst ↔
      ∃ name ∈ testNames report selection extras, id = TestCase.idFor artifact.name name := by
  obtain ⟨asked, found, rfl⟩ := generate_eq_ok h
  rw [mem_map_fst_foldl_put, mem_map_fst_foldl_put, testNames, ← map_kind_of_analyzersOf found]
  simp [or_and_right, exists_or]

theorem nodup_generate (h : generate analyzers report artifact selection extras = .ok tests) :
    (tests.map Prod.fst).Nodup := by
  obtain ⟨asked, found, rfl⟩ := generate_eq_ok h
  exact nodup_foldl_put _ _ (nodup_foldl_put _ _ .nil)

theorem nodup_foldl_merge {base : TestMap} (h : (base.map Prod.fst).Nodup)
    (maps : List TestMap) : ((maps.foldl Keyed.merge base).map Prod.fst).Nodup :=
  List.foldlRecOn (motive := fun merged : TestMap => (merged.map Prod.fst).Nodup) maps _ h
    fun _ h tests _ => Keyed.nodup_merge h tests

/-- Maps without a common id are put one after another. -/
theorem foldl_merge_of_nodup {base : TestMap} {maps : List TestMap}
    (h : ((base ++ maps.flatten).map Prod.fst).Nodup) :
    maps.foldl Keyed.merge base = base ++ maps.flatten := by
  induction maps generalizing base with
  | nil => simp
  | cons tests maps ih =>
    rw [List.flatten_cons, ← List.append_assoc] at h ⊢
    rw [List.foldl_cons, Keyed.merge_of_nodup, ih h]
    rw [List.map_append] at h
    exact (List.nodup_append.mp h).1

/-- Putting maps together keeps every test exactly if no two tests share an id. -/
theorem collect_perm_flatten_iff_nodup {maps : List TestMap} :
    (collect maps).Perm maps.flatten ↔ (maps.flatten.map Prod.fst).Nodup := by
  constructor
  · intro same
    exact (same.map Prod.fst).nodup_iff.mp (nodup_foldl_merge (by simp) maps)
  · intro apart
    exact .of_eq (foldl_merge_of_nodup apart)

namespace Generated

theorem mem_ids_iff (g : Generated) {id : String} :
    id ∈ g.tests.map Prod.fst ↔ ∃ test ∈ g.names, id = TestCase.idFor g.script test :=
  mem_map_fst_generate g.made

/-- The two maps have no id in common. -/
def Disjoint (a b : Generated) : Prop :=
  List.Disjoint (a.tests.map Prod.fst) (b.tests.map Prod.fst)

instance : Std.Symm Disjoint :=
  ⟨fun _ _ h _ first second => h second first⟩

/-- An id of one map splits at a later hyphen into the script and a test of the other. -/
def RunsInto (a b : Generated) : Prop :=
  ∃ test ∈ a.names, ∃ test' ∈ b.names, TestCase.SplitsLater a.script test b.script test'

theorem RunsInto.ne {a b : Generated} (h : a.RunsInto b) : a.script ≠ b.script := by
  obtain ⟨test, -, test', -, later⟩ := h
  exact fun same => Nat.ne_of_lt later.length_lt (congrArg String.length same)

instance (a b : Generated) : Decidable (a.RunsInto b) :=
  inferInstanceAs (Decidable (∃ test ∈ a.names, ∃ test' ∈ b.names, _))

theorem disjoint_iff {a b : Generated} (different : a.script ≠ b.script) :
    a.Disjoint b ↔ ¬a.RunsInto b ∧ ¬b.RunsInto a := by
  constructor
  · intro disjoint
    refine ⟨?_, ?_⟩
    · rintro ⟨test, ht, test', ht', later⟩
      exact disjoint (a.mem_ids_iff.mpr ⟨test, ht, rfl⟩)
        (b.mem_ids_iff.mpr ⟨test', ht', later.idFor_eq⟩)
    · rintro ⟨test', ht', test, ht, later⟩
      exact disjoint (a.mem_ids_iff.mpr ⟨test, ht, later.idFor_eq⟩)
        (b.mem_ids_iff.mpr ⟨test', ht', rfl⟩)
  · rintro ⟨apart, apart'⟩ id first second
    obtain ⟨test, ht, rfl⟩ := a.mem_ids_iff.mp first
    obtain ⟨test', ht', same⟩ := b.mem_ids_iff.mp second
    rcases TestCase.idFor_eq_iff.mp same with ⟨equal, -⟩ | later | later
    · exact different equal
    · exact apart ⟨test, ht, test', ht', later⟩
    · exact apart' ⟨test', ht', test, ht, later⟩

theorem nodup_ids_iff {given : List Generated} :
    ((given.map Generated.tests).flatten.map Prod.fst).Nodup ↔ given.Pairwise Disjoint := by
  rw [List.map_flatten, List.map_map, List.nodup_flatten, List.pairwise_map]
  refine and_iff_right fun ids hids => ?_
  obtain ⟨g, -, rfl⟩ := List.mem_map.mp hids
  exact nodup_generate g.made

end Generated

/-- The tests of scripts with different names are put together without a loss exactly if no id
splits into two of the scripts and their tests. Two ids are equal only if one splits so, or if the
scripts and the tests are the same. -/
theorem collect_perm_flatten_iff (given : List Generated)
    (different : (given.map Generated.script).Nodup) :
    ((collect (given.map Generated.tests)).Perm (given.map Generated.tests).flatten ↔
        ∀ a ∈ given, ∀ b ∈ given, ¬a.RunsInto b) ∧
      ∀ script test script' test',
        TestCase.idFor script test = TestCase.idFor script' test' ↔
          (script = script' ∧ test = test') ∨ TestCase.SplitsLater script test script' test' ∨
            TestCase.SplitsLater script' test' script test := by
  refine ⟨?_, fun _ _ _ _ => TestCase.idFor_eq_iff⟩
  rw [collect_perm_flatten_iff_nodup, Generated.nodup_ids_iff]
  constructor
  · intro disjoint a ha b hb into
    have other : a ≠ b := fun same => into.ne (congrArg Generated.script same)
    exact ((Generated.disjoint_iff into.ne).mp (disjoint.forall ha hb other)).1 into
  · intro apart
    refine (List.pairwise_map.mp different).imp_of_mem fun {a b} ha hb other => ?_
    exact (Generated.disjoint_iff other).mpr ⟨apart a ha b hb, apart b hb a ha⟩

/-! ## Scripts whose names go on after a hyphen -/

/-- The tests of a script in no known language, and those that its caller adds. -/
def Generated.plain (name : String) (extras : List (String × ExtraTest)) : Generated where
  analyzers := Session.builtinAnalyzers .atRoot
  report := ⟨name, "", "text", [.skipped .parses "unsupported language: text"]⟩
  artifact := ⟨name, Path.ofString name, .other, "text", [], false⟩
  selection := .default .other
  extras := extras
  tests := _
  made := rfl

@[simp] theorem Generated.names_plain (name : String) (extras : List (String × ExtraTest)) :
    (plain name extras).names = "syntax" :: extras.map Prod.fst :=
  rfl

theorem collect_perm_flatten_of_apart :
    let given : List Generated := [.plain "a" [("b", .answers "fail")], .plain "a-b" []]
    (given.map Generated.script).Nodup ∧ (∀ a ∈ given, ∀ b ∈ given, ¬a.RunsInto b) ∧
      (collect (given.map Generated.tests)).Perm (given.map Generated.tests).flatten := by
  intro given
  have different : (given.map Generated.script).Nodup := by decide
  have apart : ∀ a ∈ given, ∀ b ∈ given, ¬a.RunsInto b := by decide
  exact ⟨different, apart, (collect_perm_flatten_iff given different).1.mpr apart⟩

/-- The test `b-syntax` of the script `a` is lost to the test `syntax` of the script `a-b`. -/
theorem collect_loses_test :
    let given : List Generated := [.plain "a" [("b-syntax", .answers "fail")], .plain "a-b" []]
    (given.map Generated.script).Nodup ∧
      TestCase.idFor "a" "b-syntax" = TestCase.idFor "a-b" "syntax" ∧
      (given.map Generated.tests).flatten.map Prod.fst =
        ["script-a-syntax", "script-a-b-syntax", "script-a-b-syntax"] ∧
      (collect (given.map Generated.tests)).map Prod.fst =
        ["script-a-syntax", "script-a-b-syntax"] ∧
      ¬(collect (given.map Generated.tests)).Perm (given.map Generated.tests).flatten := by
  intro given
  have kept : (collect (given.map Generated.tests)).map Prod.fst =
      ["script-a-syntax", "script-a-b-syntax"] := rfl
  refine ⟨by decide, rfl, rfl, kept, fun same => ?_⟩
  have lengths := same.length_eq
  rw [← List.length_map Prod.fst, kept] at lengths
  exact absurd lengths (by decide)

end TestMap

end ScriptVet
