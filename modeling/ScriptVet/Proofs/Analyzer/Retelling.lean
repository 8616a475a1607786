import ScriptVet.Proofs.Analyzer.Lint
import ScriptVet.Proofs.Json.Scalars
import ScriptVet.Proofs.Text.Replace

/-!
# What checks make of a path in an answer

An answer may tell the path of the copy that was checked. A parse check puts the name of the file in
its place, so that it comes to the same whatever the path is. The linter keeps findings, levels and,
where it has failed, the beginning of its error output, and all these as they are told: answers come
to the same exactly if they agree in them.
-/

namespace ScriptVet

namespace ParseCheck

/-! ## Parse checks -/

/-- Where a parser says nothing there is only its exit code to tell. -/
theorem underscore_notMem_exited (code : Int) :
    '_' ∉ ("parser exited with status " ++ String.ofList (Json.intText code)).toList := by
  rw [String.toList_append, List.mem_append, not_or]
  refine ⟨by decide, ?_⟩
  rw [String.toList_ofList]
  exact Json.Reader.notMem_intText (by decide) (by decide) code

section

variable {path path' : String} {trace : List Char} (tight : Text.IsTight path.toList)
  (tight' : Text.IsTight path'.toList) (stdout stderr : String) (code : Int)

include tight tight'

/-- A path that is told goes into the message as it is told. -/
theorem failureMessage_replaceAll (holds : '_' ∈ path.toList) :
    failureMessage (Text.replaceAll path path' stdout) (Text.replaceAll path path' stderr) code =
      Text.replaceAll path path' (failureMessage stdout stderr code) := by
  have exited : Text.replaceAll path path'
      ("parser exited with status " ++ String.ofList (Json.intText code)) = _ :=
    Text.replaceAll_eq_self (Text.notInfix_of_notMem (underscore_notMem_exited code) holds)
  simp only [failureMessage, Text.strip_replaceAll tight tight', bne_iff_ne, ne_eq,
    Text.replaceAll_eq_empty_iff tight tight']
  split
  · rfl
  · split
    · rfl
    · exact exited.symm

omit tight tight' in
theorem notInfix_failureMessage (holds : '_' ∈ trace) (out : ¬ trace <:+: stdout.toList)
    (err : ¬ trace <:+: stderr.toList) :
    ¬ trace <:+: (failureMessage stdout stderr code).toList := by
  have stripped {s : String} (absent : ¬ trace <:+: s.toList) :
      ¬ trace <:+: (Text.strip s).toList := by
    rw [Text.strip, String.toList_ofList]
    exact fun inside => absent (inside.trans (Text.stripWhere_infix _ _))
  rw [failureMessage]
  split
  · exact stripped err
  · split
    · exact stripped out
    · exact Text.notInfix_of_notMem (underscore_notMem_exited code) holds

/-- What a parse check makes of an answer does not depend on the path that the answer tells. -/
theorem verdict_replaceAll (unmixed : Text.Unmixed path.toList path'.toList trace)
    (holds : '_' ∈ path.toList) (holds' : '_' ∈ trace) (out : ¬ trace <:+: stdout.toList)
    (err : ¬ trace <:+: stderr.toList) (kind : AnalyzerKind) (file : String) (linesBefore : Int) :
    verdict kind path' file linesBefore (Text.replaceAll path path' stdout)
        (Text.replaceAll path path' stderr) code =
      verdict kind path file linesBefore stdout stderr code := by
  have absent := notInfix_failureMessage stdout stderr code holds' out err
  rw [verdict, verdict, failureMessage_replaceAll tight tight' stdout stderr code holds,
    Text.replaceAll_replaceAll unmixed absent]

end

end ParseCheck

namespace Lint

/-! ## The linter -/

/-- What is kept of the error output of a linter that has failed. -/
def detail (stderr : String) : String :=
  String.ofList ((Text.stripWhere Text.isBlank stderr.toList).take detailLimit)

/-- What a linter has told about a script, if it is read at all: the findings and the levels of a
report, or nothing if it has failed. -/
def told? (stdout : String) (code : Int) : Option (Option (List Finding × List String)) :=
  match comments? JsonDialect.usualDepth stdout with
  | .error _ => none
  | .ok none => some none
  | .ok (some comments) =>
    if 1 < code then some none
    else (findings comments).toOption.map fun found => some (found, levels comments)

/-- The result that follows. -/
def conclusion (stderr : String) (code : Int) :
    Option (List Finding × List String) → AnalysisResult
  | none => failureOf stderr code
  | some (found, levels) => .ofFindings .lint found [("levels", Json.ofStrings levels)]

/-- Answers that end with the same code agree in what reaches a result. -/
structure Agree (stdout stderr stdout' stderr' : String) (code : Int) : Prop where
  told : told? stdout code = told? stdout' code
  detail : told? stdout code = some none → detail stderr = Lint.detail stderr'

theorem toOption_verdict (stdout stderr : String) (code : Int) :
    (verdict JsonDialect.usualDepth stdout stderr code).toOption =
      (told? stdout code).map (conclusion stderr code) := by
  rw [told?]
  cases given : comments? JsonDialect.usualDepth stdout with
  | error fault =>
      rw [verdict_of_error given]
      rfl
  | ok list =>
      cases list with
      | none =>
          rw [verdict_of_none given]
          rfl
      | some comments =>
          by_cases failed : 1 < code
          · rw [verdict_of_one_lt given stderr failed]
            simp only [failed, if_true]
            rfl
          · rw [verdict_of_le_one given stderr failed]
            simp only [failed, if_false]
            cases findings comments <;> rfl

theorem detail_eq_empty_iff (stderr : String) :
    detail stderr = "" ↔ Text.stripWhere Text.isBlank stderr.toList = [] := by
  rw [detail, ← String.toList_inj, String.toList_ofList]
  change List.take (499 + 1) _ = [] ↔ _
  cases Text.stripWhere Text.isBlank stderr.toList <;> simp

/-- A path in an error output does not make it blank, nor does another one in its place. -/
theorem detail_replaceAll_eq_empty_iff {path path' : String} (tight : Text.IsTight path.toList)
    (tight' : Text.IsTight path'.toList) (stderr : String) :
    detail stderr = "" ↔ detail (Text.replaceAll path path' stderr) = "" := by
  rw [detail_eq_empty_iff, detail_eq_empty_iff, Text.toList_replaceAll tight.some,
    Text.stripWhere_replaceFrom tight tight', Text.replaceFrom_eq_nil_iff tight.some tight'.some]

theorem failureOf_eq_iff {stderr stderr' : String} {code : Int}
    (blank : detail stderr = "" ↔ detail stderr' = "") :
    failureOf stderr code = failureOf stderr' code ↔ detail stderr = detail stderr' := by
  constructor
  · intro same
    have messages := (Finding.mk.inj
      (List.cons.inj (congrArg AnalysisResult.findings same)).1).2.1
    change "ShellCheck did not produce a report: " ++ (if detail stderr = "" then _ else
      detail stderr) = "ShellCheck did not produce a report: " ++ (if detail stderr' = "" then _
        else detail stderr') at messages
    by_cases none : detail stderr = ""
    · rw [none, blank.mp none]
    · rw [if_neg none, if_neg fun none' => none (blank.mpr none')] at messages
      have lists := congrArg String.toList messages
      rw [String.toList_append, String.toList_append, List.append_cancel_left_eq] at lists
      exact String.toList_inj.mp lists
  · intro same
    change failure ("ShellCheck did not produce a report: " ++
      (if detail stderr = "" then _ else detail stderr)) = _
    rw [same]
    rfl

/-- The fields of a comment that are read; the name of the file is not among them. -/
def readFields : List String :=
  ["level", "severity", "message", "line", "column", "code"]

/-- Comments that agree in all fields that are read. -/
def SameFields (comment comment' : Comment) : Prop :=
  ∀ key ∈ readFields, Json.getField? key comment = Json.getField? key comment'

section

variable {comment comment' : Comment} (same : SameFields comment comment')

include same

theorem level?_congr : level? comment = level? comment' := by
  rw [level?, level?, same "level" (by decide), same "severity" (by decide)]

theorem finding_congr : finding comment = finding comment' := by
  have position : location? comment = location? comment' := by
    rw [location?, location?, same "line" (by decide), same "column" (by decide)]
  have codes : code comment = code comment' := by
    rw [code, code, same "code" (by decide)]
  rw [finding, finding, codes, position, level?_congr same, same "message" (by decide)]

end

theorem toOption_toResult (found : Checked Finding) (name : String) (data : Json) :
    (found.toResult name data).toOption = found.toOption := by
  cases found <;> rfl

theorem findings_congr {comments comments' : List Comment}
    (same : List.Forall₂ SameFields comments comments') :
    (findings comments).toOption = (findings comments').toOption := by
  induction same with
  | nil => rfl
  | cons first _ ih =>
      rw [findings, findings, List.mapM_cons, List.mapM_cons]
      refine Result.toOption_bind_congr ?_ fun found => Result.toOption_bind_congr ih fun _ => rfl
      rw [toOption_toResult, toOption_toResult, finding_congr first]

theorem levels_congr {comments comments' : List Comment}
    (same : List.Forall₂ SameFields comments comments') : levels comments = levels comments' := by
  have shown : comments.map (fun comment => ((level? comment).getD .null).shown) =
      comments'.map fun comment => ((level? comment).getD .null).shown := by
    induction same with
    | nil => rfl
    | cons first _ ih => rw [List.map_cons, List.map_cons, level?_congr first, ih]
  rw [levels, levels, shown]

/-- Reports that differ in fields that are not read agree. -/
theorem agree_of_sameFields {stdout stdout' : String} {code : Int} (ended : ¬ 1 < code)
    {comments comments' : List Comment}
    (given : comments? JsonDialect.usualDepth stdout = .ok (some comments))
    (given' : comments? JsonDialect.usualDepth stdout' = .ok (some comments'))
    (same : List.Forall₂ SameFields comments comments') (stderr stderr' : String) :
    Agree stdout stderr stdout' stderr' code where
  told := by
    rw [told?, told?, given, given']
    simp only [if_neg ended, findings_congr same, levels_congr same]
  detail failed := by
    rw [told?, given] at failed
    simp only [if_neg ended, Option.map_eq_some_iff] at failed
    obtain ⟨_, -, failed⟩ := failed
    cases failed

theorem ofStrings_injective : Function.Injective Json.ofStrings := by
  intro levels levels' same
  exact List.map_injective_iff.mpr (fun _ _ same => Json.str.inj same) (Json.arr.inj same)

/-- Reports are told apart by their findings and levels, and by the levels from failures. -/
theorem conclusion_eq_iff {stderr stderr' : String} {code : Int}
    (blank : detail stderr = "" ↔ detail stderr' = "")
    (told told' : Option (List Finding × List String)) :
    conclusion stderr code told = conclusion stderr' code told' ↔
      told = told' ∧ (told = none → detail stderr = detail stderr') := by
  have apart (stderr : String) (found : List Finding) (levels : List String) :
      failureOf stderr code ≠ .ofFindings .lint found [("levels", Json.ofStrings levels)] := by
    intro same
    cases congrArg AnalysisResult.metadata same
  cases told with
  | none =>
      cases told' with
      | none => exact (failureOf_eq_iff blank).trans (by simp)
      | some report => exact iff_of_false (apart _ _ _) (by simp)
  | some report =>
      cases told' with
      | none => exact iff_of_false (Ne.symm (apart _ _ _)) (by simp)
      | some report' =>
          obtain ⟨found, levels⟩ := report
          obtain ⟨found', levels'⟩ := report'
          constructor
          · intro same
            have findings : found = found' := congrArg AnalysisResult.findings same
            have metadata := (List.cons.inj (congrArg AnalysisResult.metadata same)).1
            rw [findings, ofStrings_injective (Prod.mk.inj metadata).2]
            exact ⟨rfl, nofun⟩
          · rintro ⟨⟨⟩, -⟩
            rfl

/-- Answers lead to the same result exactly if they agree in what reaches it. -/
theorem toOption_verdict_eq_iff {stdout stderr stdout' stderr' : String} {code : Int}
    (blank : detail stderr = "" ↔ detail stderr' = "") :
    (verdict JsonDialect.usualDepth stdout stderr code).toOption =
        (verdict JsonDialect.usualDepth stdout' stderr' code).toOption ↔
      Agree stdout stderr stdout' stderr' code := by
  rw [toOption_verdict, toOption_verdict]
  cases given : told? stdout code with
  | none =>
      cases given' : told? stdout' code with
      | none =>
          rw [Option.map_none, Option.map_none]
          refine iff_of_true rfl ⟨given.trans given'.symm, fun failed => ?_⟩
          rw [given] at failed
          cases failed
      | some told' =>
          rw [Option.map_none, Option.map_some]
          refine iff_of_false (Option.some_ne_none _).symm fun agree => ?_
          cases given.symm.trans (agree.told.trans given')
  | some told =>
      cases given' : told? stdout' code with
      | none =>
          rw [Option.map_none, Option.map_some]
          refine iff_of_false (Option.some_ne_none _) fun agree => ?_
          cases given.symm.trans (agree.told.trans given')
      | some told' =>
          rw [Option.map_some, Option.map_some, Option.some.injEq, conclusion_eq_iff blank]
          constructor
          · rintro ⟨same, kept⟩
            refine ⟨by rw [given, given', same], fun failed => kept ?_⟩
            exact Option.some.inj (given.symm.trans failed)
          · intro agree
            refine ⟨Option.some.inj (given.symm.trans (agree.told.trans given')), fun failed => ?_⟩
            exact agree.detail (given.trans (congrArg some failed))

end Lint

end ScriptVet
