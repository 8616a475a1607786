import ScriptVet.Proofs.Analyzer.Retelling
import ScriptVet.Proofs.Shell.Unguarded

/-!
# What the version of a vocabulary tells

Two analyzers look for words of a list, and their version is the list in ascending order with commas
between the entries. It is part of the key of what is kept, so it is meant to tell what an analysis
comes to. It does as long as no entry holds a comma. An entry that holds one cannot be told from
several entries, and as no word of a script holds a comma the one list finds nothing where the other
finds words.
-/

namespace ScriptVet.Analyzer

open Shell

/-- Two analyzers have the same version for every script. -/
def SameVersion (analyzer analyzer' : Analyzer) : Prop :=
  ∀ script, analyzer.fullVersion script = analyzer'.fullVersion script

/-- Two analyzers come to the same on every script. -/
def SameResults (analyzer analyzer' : Analyzer) : Prop :=
  ∀ script, analyzer.check script = analyzer'.check script

/-- The words that an analyzer can find in scripts. -/
def CanFind : AnalyzerKind → String → Prop
  | .variableUsage => IsName
  | _ => IsWord

theorem ne_empty_of_canFind {kind : AnalyzerKind} {w : String} (can : CanFind kind w) : w ≠ "" := by
  rintro rfl
  cases kind <;> obtain ⟨c, rest, letters, -⟩ := can <;> cases letters

/-- Entries without commas are read back from between the commas. -/
theorem mem_iff_mem_splitOn {entries : List String} (free : ∀ w ∈ entries, ',' ∉ w.toList)
    {w : String} (some : w ≠ "") :
    w ∈ entries ↔ w.toList ∈ (",".intercalate entries).toList.splitOn ',' := by
  by_cases none : entries = []
  · have empty : w.toList ≠ [] := fun h => some (String.toList_eq_nil_iff.mp h)
    rw [none]
    exact iff_of_false List.not_mem_nil (by simpa using empty)
  · have pieces : (",".intercalate entries).toList.splitOn ',' = entries.map String.toList := by
      rw [String.toList_intercalate]
      refine List.splitOn_intercalate ',' ?_ (by simpa using none)
      rintro _ listed
      obtain ⟨entry, there, rfl⟩ := List.mem_map.mp listed
      exact free entry there
    rw [pieces, List.mem_map_of_injective fun _ _ same => String.toList_inj.mp same]

/-- Lists without commas that look alike in a version hold the same entries. -/
theorem mem_iff_of_intercalate {words words' : List String}
    (free : ∀ w ∈ words ++ words', ',' ∉ w.toList)
    (same : ",".intercalate (sortedSet words) = ",".intercalate (sortedSet words')) {w : String}
    (some : w ≠ "") : w ∈ words ↔ w ∈ words' := by
  have entries : ∀ w ∈ sortedSet words, ',' ∉ w.toList := fun w there =>
    free w (List.mem_append_left _ (mem_sortedSet.mp there))
  have entries' : ∀ w ∈ sortedSet words', ',' ∉ w.toList := fun w there =>
    free w (List.mem_append_right _ (mem_sortedSet.mp there))
  rw [← mem_sortedSet, mem_iff_mem_splitOn entries some, same,
    ← mem_iff_mem_splitOn entries' some, mem_sortedSet]

theorem pure_injective {α : Type} : Function.Injective (pure : α → Work α) := by
  intro a a' same
  have ended := congrFun same (Machine.answering .overran)
  exact Except.ok.inj (Course.ended.inj ended).1

section

variable {settings settings' : Settings} {kind : AnalyzerKind} {words words' : List String}

theorem fullVersion_of_vocabulary (list : (builtin settings kind).basis = .vocabulary words)
    (script : Script) :
    (builtin settings kind).fullVersion script =
      pure ((kind.word ++ "/1" ++ "+") ++ ",".intercalate (sortedSet words)) := by
  have own : (builtin settings kind).ownVersion = kind.word ++ "/1" := by
    cases kind <;> rfl
  rw [fullVersion, list]
  simp only [own]

/-- Versions are the same if the lists look alike in them. -/
theorem sameVersion_iff (list : (builtin settings kind).basis = .vocabulary words)
    (list' : (builtin settings' kind).basis = .vocabulary words') :
    SameVersion (builtin settings kind) (builtin settings' kind) ↔
      ",".intercalate (sortedSet words) = ",".intercalate (sortedSet words') := by
  constructor
  · intro same
    have versions := same ⟨"s", .bash, none, "", [], true⟩
    rw [fullVersion_of_vocabulary list, fullVersion_of_vocabulary list'] at versions
    exact (String.append_right_inj _).mp (pure_injective versions)
  · intro same script
    rw [fullVersion_of_vocabulary list, fullVersion_of_vocabulary list', same]

end

/-- Lists of commands lead to the same results exactly if they hold the same words. -/
theorem sameResults_functionDeps_iff {settings settings' : Settings} :
    SameResults (functionDeps settings) (functionDeps settings') ↔
      ∀ w, IsWord w → (w ∈ settings.commandAllowlist ↔ w ∈ settings'.commandAllowlist) := by
  rw [← commandsAmong_eq_iff]
  constructor
  · intro same text
    have results := pure_injective (same ⟨"s", .bash, none, String.ofList text, [], true⟩)
    simp only [FunctionDeps.result, String.toList_ofList] at results
    have told := congrArg (fun r => (r.metadata.lookup "commands")) results
    exact Lint.ofStrings_injective (Option.some.inj told)
  · intro same script
    show pure (FunctionDeps.result _ _) = pure (FunctionDeps.result _ _)
    rw [FunctionDeps.result, same]
    rfl

/-- Lists of variables lead to the same results exactly if they hold the same names. -/
theorem sameResults_variableUsage_iff {settings settings' : Settings} :
    SameResults (variableUsage settings) (variableUsage settings') ↔
      ∀ name, IsName name → (name ∈ settings.shellVariables ↔ name ∈ settings'.shellVariables) := by
  constructor
  · intro same
    apply mem_iff_of_map_unguarded
    intro text
    have results := pure_injective (same ⟨"s", .bash, none, String.ofList text, [], true⟩)
    simp only [VariableUsage.result, String.toList_ofList] at results
    have told := congrArg (fun r => (r.metadata.lookup "unguarded")) results
    exact Lint.ofStrings_injective (Option.some.inj told)
  · intro same script
    show pure (VariableUsage.result _ _) = pure (VariableUsage.result _ _)
    rw [VariableUsage.result, unguarded_congr same]
    rfl

/-- Analyzers that look for words come to the same on every script exactly if their lists hold the
same words that can be found. They have the same version exactly if the lists look alike with commas
between the entries, and where no entry holds a comma they come to the same then. -/
theorem sameResults_of_lists {settings settings' : Settings} {kind : AnalyzerKind}
    {words words' : List String} (list : (builtin settings kind).basis = .vocabulary words)
    (list' : (builtin settings' kind).basis = .vocabulary words') :
    (SameVersion (builtin settings kind) (builtin settings' kind) ↔
      ",".intercalate (sortedSet words) = ",".intercalate (sortedSet words')) ∧
    (SameResults (builtin settings kind) (builtin settings' kind) ↔
      ∀ w, CanFind kind w → (w ∈ words ↔ w ∈ words')) ∧
    (SameVersion (builtin settings kind) (builtin settings' kind) →
      (∀ w ∈ words ++ words', ',' ∉ w.toList) →
      SameResults (builtin settings kind) (builtin settings' kind)) := by
  have results : SameResults (builtin settings kind) (builtin settings' kind) ↔
      ∀ w, CanFind kind w → (w ∈ words ↔ w ∈ words') := by
    cases kind with
    | functionDeps =>
        cases list
        cases list'
        exact sameResults_functionDeps_iff
    | variableUsage =>
        cases list
        cases list'
        exact sameResults_variableUsage_iff
    | parses => cases list
    | lint => cases list
    | strictMode => cases list
  refine ⟨sameVersion_iff list list', results, fun version free => ?_⟩
  rw [results]
  intro w can
  exact mem_iff_of_intercalate free ((sameVersion_iff list list').mp version)
    (ne_empty_of_canFind can)

/-- The order of a list does not matter, nor how often an entry stands in it. -/
theorem sameResults_of_reordered :
    let settings := { Settings.atRoot with commandAllowlist := ["git", "ssh"] }
    let settings' := { Settings.atRoot with commandAllowlist := ["ssh", "git", "ssh"] }
    (builtin settings .functionDeps).basis = .vocabulary ["git", "ssh"] ∧
      (builtin settings' .functionDeps).basis = .vocabulary ["ssh", "git", "ssh"] ∧
      SameVersion (builtin settings .functionDeps) (builtin settings' .functionDeps) ∧
      (∀ w ∈ ["git", "ssh"] ++ ["ssh", "git", "ssh"], ',' ∉ w.toList) ∧
      SameResults (builtin settings .functionDeps) (builtin settings' .functionDeps) := by
  intro settings settings'
  have free : ∀ w ∈ ["git", "ssh"] ++ ["ssh", "git", "ssh"], ',' ∉ w.toList := by decide
  have list : (builtin settings .functionDeps).basis = .vocabulary ["git", "ssh"] := rfl
  have list' : (builtin settings' .functionDeps).basis = .vocabulary ["ssh", "git", "ssh"] := rfl
  obtain ⟨versions, -, results⟩ := sameResults_of_lists list list'
  have version := versions.mpr
    (by simp +decide [sortedSet, List.mergeSort, List.eraseDups_cons])
  exact ⟨list, list', version, free, results version free⟩

/-- An entry that holds a comma has the version of the entries around it, and finds nothing. -/
theorem sameVersion_of_comma :
    let settings :=
      { Settings.atRoot with commandAllowlist := ["git,ssh"], shellVariables := ["A,B"] }
    let settings' :=
      { Settings.atRoot with commandAllowlist := ["git", "ssh"], shellVariables := ["A", "B"] }
    SameVersion (functionDeps settings) (functionDeps settings') ∧
      ¬ SameResults (functionDeps settings) (functionDeps settings') ∧
      SameVersion (variableUsage settings) (variableUsage settings') ∧
      ¬ SameResults (variableUsage settings) (variableUsage settings') := by
  intro settings settings'
  have git : IsWord "git" := ⟨'g', ['i', 't'], rfl, by decide, by decide⟩
  have name : IsName "A" := ⟨'A', [], rfl, by decide, by decide⟩
  refine ⟨?_, ?_, ?_, ?_⟩
  · have list : (builtin settings .functionDeps).basis = .vocabulary ["git,ssh"] := rfl
    have list' : (builtin settings' .functionDeps).basis = .vocabulary ["git", "ssh"] := rfl
    exact (sameVersion_iff list list').mpr (by simp +decide [sortedSet, List.mergeSort])
  · rw [sameResults_functionDeps_iff]
    intro same
    exact absurd ((same "git" git).mpr (by decide)) (by decide)
  · have list : (builtin settings .variableUsage).basis = .vocabulary ["A,B"] := rfl
    have list' : (builtin settings' .variableUsage).basis = .vocabulary ["A", "B"] := rfl
    exact (sameVersion_iff list list').mpr (by simp +decide [sortedSet, List.mergeSort])
  · rw [sameResults_variableUsage_iff]
    intro same
    exact absurd ((same "A" name).mpr (by decide)) (by decide)

end ScriptVet.Analyzer
