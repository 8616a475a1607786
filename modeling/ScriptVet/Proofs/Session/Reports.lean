import Mathlib.Data.Nat.Basic
import ScriptVet.Proofs.Json.ReadBack
import ScriptVet.Proofs.Script.Content
import ScriptVet.Proofs.Sorting
import ScriptVet.Session.Basic

/-!
# Reports on results in any order

Analyses may end in any order. A report lists their results in the order of kinds and those of one
kind as they came, so it is the same for every order in which results of different kinds come. Any
results can be reported, unless the content of the script holds half of a surrogate pair: then the
script has no fingerprint.
-/

namespace ScriptVet

namespace Script

/-- No part of the content holds half of a surrogate pair. -/
def IsWhole (script : Script) : Prop :=
  ∀ part ∈ script.parts, Text.holdsHalf part = false

instance (script : Script) : Decidable script.IsWhole :=
  inferInstanceAs (Decidable (∀ part ∈ script.parts, Text.holdsHalf part = false))

theorem checkContent_eq_ok_iff {script : Script} :
    script.checkContent = .ok () ↔ script.IsWhole := by
  rw [checkContent, Json.checkText_eq_ok_iff]
  refine Json.brokenItem?_map_eq_none_iff.trans ?_
  simp only [Json.brokenText?_str_eq_none_iff, IsWhole, parts]

end Script

namespace Report

/-- The results come in the order of kinds. -/
def InOrder (results : List AnalysisResult) : Prop :=
  results.Pairwise fun a b => a.kind.rank ≤ b.kind.rank

theorem inOrder_perm (results : List AnalysisResult) : (inOrder results).Perm results :=
  List.mergeSort_perm _ _

section

variable {results others : List AnalysisResult}

theorem inOrder_inOrder (results : List AnalysisResult) : InOrder (inOrder results) :=
  Sorting.pairwise_mergeSort (fun r : AnalysisResult => r.kind.rank) results

/-- Results of one kind keep their order. -/
theorem filter_inOrder (results : List AnalysisResult) (kind : AnalyzerKind) :
    (inOrder results).filter (·.kind == kind) = results.filter (·.kind == kind) := by
  refine Sorting.filter_mergeSort (fun r : AnalysisResult => r.kind.rank)
    (List.pairwise_of_forall_mem_list fun a memA b memB => ?_)
  have kindA : a.kind = kind := beq_iff_eq.mp (List.mem_filter.mp memA).2
  have kindB : b.kind = kind := beq_iff_eq.mp (List.mem_filter.mp memB).2
  exact Nat.le_of_eq (by rw [kindA, kindB])

theorem mem_iff_of_filter_eq
    (same : ∀ kind, results.filter (·.kind == kind) = others.filter (·.kind == kind))
    (r : AnalysisResult) : r ∈ results ↔ r ∈ others := by
  have told {list : List AnalysisResult} : r ∈ list ↔ r ∈ list.filter (·.kind == r.kind) := by
    simp
  rw [told, same, ← told]

/-- The first of some results in order has the least kind. -/
theorem InOrder.le {first r : AnalysisResult} (ordered : InOrder (first :: results))
    (mem : r ∈ first :: results) : first.kind.rank ≤ r.kind.rank := by
  rcases List.mem_cons.mp mem with rfl | mem
  · exact Nat.le_refl _
  · exact (List.pairwise_cons.mp ordered).1 r mem

/-- Results in order are determined by those of each kind. -/
theorem eq_of_filter_eq (ordered : InOrder results) (ordered' : InOrder others)
    (same : ∀ kind, results.filter (·.kind == kind) = others.filter (·.kind == kind)) :
    results = others := by
  induction results generalizing others with
  | nil =>
      symm
      rw [List.eq_nil_iff_forall_not_mem]
      intro r mem
      cases (mem_iff_of_filter_eq same r).mpr mem
  | cons a results ih =>
      cases others with
      | nil => cases (mem_iff_of_filter_eq same a).mp List.mem_cons_self
      | cons b others =>
          have below := ordered.le ((mem_iff_of_filter_eq same b).mpr List.mem_cons_self)
          have above := ordered'.le ((mem_iff_of_filter_eq same a).mp List.mem_cons_self)
          have kinds : a.kind = b.kind := AnalyzerKind.rank_injective (Nat.le_antisymm below above)
          have first := same a.kind
          rw [List.filter_cons_of_pos (by simp), List.filter_cons_of_pos (by simp [kinds])] at first
          obtain ⟨rfl, rest⟩ := List.cons.inj first
          refine congrArg _ (ih (List.pairwise_cons.mp ordered).2 (List.pairwise_cons.mp ordered').2
            fun kind => ?_)
          by_cases own : a.kind = kind
          · rw [← own, rest]
          · have others := same kind
            rwa [List.filter_cons_of_neg (by simpa using own),
              List.filter_cons_of_neg (by simpa using own)] at others

/-- The order in which results of different kinds come makes no difference. -/
theorem inOrder_eq_of_perm (perm : results.Perm others) (distinct : (results.map (·.kind)).Nodup) :
    inOrder results = inOrder others := by
  have ranks : (results.map fun r => r.kind.rank).Nodup := by
    have mapped := distinct.map fun a b => AnalyzerKind.rank_injective
    rwa [List.map_map] at mapped
  exact (Sorting.mergeSort_eq_of_perm _ (perm.symm.trans (inOrder_perm results).symm)
    (Sorting.pairwise_lt_mergeSort _ ranks)).symm

end

end Report

namespace Session

/-- A report is about the script and lists the results in the order of kinds, those of one kind as
they came. -/
structure IsReportOn (script : Script) (results : List AnalysisResult) (found : Report) : Prop where
  name : found.scriptName = script.name
  fingerprint : found.fingerprint = script.fingerprint
  language : found.language = script.displayLanguage
  perm : found.results.Perm results
  ordered : Report.InOrder found.results
  kept : ∀ kind, found.results.filter (·.kind == kind) = results.filter (·.kind == kind)

section

variable {script : Script} {results : List AnalysisResult} {found : Report}

theorem isReportOn_aggregate (script : Script) (results : List AnalysisResult) :
    IsReportOn script results (Report.aggregate script results) where
  name := rfl
  fingerprint := rfl
  language := rfl
  perm := Report.inOrder_perm results
  ordered := Report.inOrder_inOrder results
  kept := Report.filter_inOrder results

/-- There is no other report on the results. -/
theorem IsReportOn.eq_aggregate (h : IsReportOn script results found) :
    found = Report.aggregate script results := by
  have same : found.results = Report.inOrder results :=
    Report.eq_of_filter_eq h.ordered (Report.inOrder_inOrder results) fun kind => by
      rw [h.kept, Report.filter_inOrder]
  cases found
  simp only [Report.aggregate, Report.mk.injEq]
  exact ⟨h.name, h.fingerprint, h.language, same⟩

theorem report_eq_ok_iff :
    report script results = .ok found ↔
      script.IsWhole ∧ found = Report.aggregate script results := by
  rw [← Script.checkContent_eq_ok_iff, report]
  cases content : script.checkContent with
  | error e => simp [Except.mapError, bind, Except.bind]
  | ok _ => simp [Except.mapError, bind, Except.bind, pure, Except.pure, eq_comm]

/-- What is reported is the report on the results, and whole content is all that it takes. The order
in which results of different kinds come makes no difference to what is reported. -/
theorem report_exact (script : Script) (results : List AnalysisResult) :
    ((∃ found, report script results = .ok found) ↔ script.IsWhole) ∧
    (∀ found, report script results = .ok found ↔
      script.IsWhole ∧ IsReportOn script results found) ∧
    ∀ others, results.Perm others → (results.map (·.kind)).Nodup →
      report script others = report script results := by
  refine ⟨?_, fun found => ?_, fun others perm distinct => ?_⟩
  · simp only [report_eq_ok_iff, exists_and_left, exists_eq, and_true]
  · rw [report_eq_ok_iff]
    refine and_congr_right fun _ => ⟨?_, IsReportOn.eq_aggregate⟩
    rintro rfl
    exact isReportOn_aggregate script results
  · rw [report, report, Report.aggregate, Report.aggregate,
      Report.inOrder_eq_of_perm perm distinct]

/-- Results that come in either order. -/
theorem report_exact_of_two_results :
    let script : Script := ⟨"s", .bash, none, "x\n", [], true⟩
    let parsed : AnalysisResult := { kind := .parses, status := .pass }
    let linted : AnalysisResult := { kind := .lint, status := .fail }
    ∃ found, report script [parsed, linted] = .ok found ∧
      report script [linted, parsed] = .ok found := by
  intro script parsed linted
  have whole : script.IsWhole := by decide
  obtain ⟨found, given⟩ := (report_exact script [linted, parsed]).1.mpr whole
  have same := (report_exact script [linted, parsed]).2.2 [parsed, linted]
    (List.Perm.swap parsed linted []) (by decide)
  exact ⟨found, same.trans given, given⟩

/-- A dependency may hold half of a surrogate pair; then nothing can be reported on the script. -/
theorem report_ne_ok_of_half :
    let half := String.singleton (Text.ofHalf 0xD800)
    let script : Script := ⟨"s", .bash, none, "x\n", [half], true⟩
    Script.ofJson (.obj [("name", .str "s"), ("source_text", .str "x\n"),
      ("dependencies", .arr [.str half])]) = .ok script ∧
      ∀ results found, report script results ≠ .ok found := by
  intro half script
  refine ⟨by rfl, fun results found given => ?_⟩
  obtain ⟨whole, -⟩ := report_eq_ok_iff.mp given
  exact absurd whole (by decide)

end

end Session

end ScriptVet
