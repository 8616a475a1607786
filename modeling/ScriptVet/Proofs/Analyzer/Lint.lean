import ScriptVet.Proofs.Analyzer.Outcome

/-!
# What a clean verdict of the linter means

A verdict is earned if it is clean only after the linter has made a report, and if a linter that has
failed leaves an error. The codes zero and one say that there is a report, greater ones that the
linter has failed. A negative code, of a linter that was killed, is taken for a report as well: then
a verdict is earned only if what the linter wrote happens to be no report or to hold an error.
-/

namespace ScriptVet

namespace Lint

/-- The output is empty or a report for a reader that goes so deep. -/
def IsReport (depth : Nat) (output : String) : Prop :=
  Text.isBlankText output ∨ ∃ comments, comments? depth output = .ok (some comments)

/-- A result that tells of an error. -/
def HoldsError (r : AnalysisResult) : Prop :=
  r.status = .fail ∧ ∃ f ∈ r.findings, f.category = .lintError

/-- What a result should mean that was drawn from an output and an exit code. -/
def IsEarned (depth : Nat) (output : String) (code : Int) (result : Result AnalysisResult) :
    Prop :=
  (∀ r, result = .ok r → r.status = .pass → (code = 0 ∨ code = 1) ∧ IsReport depth output) ∧
    (code ≠ 0 → code ≠ 1 → ∃ r, result = .ok r ∧ HoldsError r)

variable {depth : Nat}

/-- The findings that comments become. -/
def findings (comments : List Comment) : Result (List Finding) :=
  comments.mapM fun comment => (finding comment).toResult "Finding" (.obj comment)

/-- No comment is about the syntax. -/
theorem categoryOf_ne_syntaxError (level : String) : categoryOf level ≠ .syntaxError := by
  rw [categoryOf]
  cases h : categories.lookup (Text.lower level) with
  | none => simp
  | some category =>
      obtain ⟨before, after, he, -⟩ := List.lookup_eq_some_iff.mp h
      have listed : category ∈ categories.map Prod.snd := by simp [he]
      intro h'
      rw [Option.getD_some] at h'
      subst h'
      exact absurd listed (by decide)

theorem category_of_finding {comment : Comment} {f : Finding}
    (h : (finding comment).toResult "Finding" (.obj comment) = .ok f) :
    f.category ≠ .syntaxError := by
  rw [finding] at h
  cases hc : code comment with
  | error problems => simp [hc, Checked.toResult, Except.map, Except.mapError] at h
  | ok code =>
      simp only [hc, Checked.toResult, Except.map, Except.mapError, Except.ok.injEq] at h
      rw [← h]
      exact categoryOf_ne_syntaxError _

theorem category_of_mem_findings {comments : List Comment} {found : List Finding}
    (h : findings comments = .ok found) : ∀ f ∈ found, f.category ≠ .syntaxError := by
  induction comments generalizing found with
  | nil =>
      rw [findings, List.mapM_nil, Result.pure_eq_ok, Except.ok.injEq] at h
      simp [← h]
  | cons comment comments ih =>
      rw [findings, List.mapM_cons, Result.bind_eq_ok] at h
      obtain ⟨first, hf, h⟩ := h
      obtain ⟨others, ho, h⟩ := Result.bind_eq_ok.mp h
      rw [Result.pure_eq_ok, Except.ok.injEq] at h
      intro f hm
      rw [← h, List.mem_cons] at hm
      rcases hm with rfl | hm
      · exact category_of_finding hf
      · exact ih ho f hm

theorem holdsError_ofFindings_iff (found : List Finding) (metadata : List (String × Json)) :
    HoldsError (.ofFindings .lint found metadata) ↔ ∃ f ∈ found, f.category = .lintError := by
  constructor
  · exact fun he => he.2
  · rintro ⟨f, hf, hc⟩
    have fatal : found.any (·.category.isFatal) = true :=
      List.any_eq_true.mpr ⟨f, hf, by rw [hc]; rfl⟩
    exact ⟨by simp [AnalysisResult.ofFindings, fatal], f, hf, hc⟩

/-- Findings from comments let an analysis pass unless one is an error of the linter. -/
theorem pass_of_not_holdsError {comments : List Comment} {found : List Finding}
    (h : findings comments = .ok found) {metadata : List (String × Json)}
    (clean : ¬ HoldsError (.ofFindings .lint found metadata)) :
    (AnalysisResult.ofFindings .lint found metadata).status = .pass := by
  rw [holdsError_ofFindings_iff] at clean
  have notFatal : ¬ found.any (·.category.isFatal) = true := by
    intro fatal
    obtain ⟨f, hf, hc⟩ := List.any_eq_true.mp fatal
    have notSyntax := category_of_mem_findings h f hf
    have notError : f.category ≠ .lintError := fun he => clean ⟨f, hf, he⟩
    cases hcat : f.category <;> simp_all [Category.isFatal]
  simp [AnalysisResult.ofFindings, notFatal]

theorem isEarned_error_iff (depth : Nat) (output : String) (code : Int) (fault : Fault) :
    IsEarned depth output code (.error fault) ↔ code = 0 ∨ code = 1 := by
  constructor
  · intro earned
    by_cases h0 : code = 0
    · exact .inl h0
    · by_cases h1 : code = 1
      · exact .inr h1
      · obtain ⟨r, he, -⟩ := earned.2 h0 h1
        cases he
  · intro h
    exact ⟨by simp, fun h0 h1 => by omega⟩

/-- An error is always earned. -/
theorem isEarned_of_holdsError (depth : Nat) (output : String) (code : Int)
    {r : AnalysisResult} (h : HoldsError r) : IsEarned depth output code (.ok r) := by
  refine ⟨fun r' he pass => ?_, fun _ _ => ⟨r, rfl, h⟩⟩
  rw [Except.ok.injEq] at he
  rw [← he, h.1] at pass
  exact absurd pass (by decide)

/-- A pass on a report is earned after the codes for reports. -/
theorem isEarned_iff_of_pass {output : String} (report : IsReport depth output) (code : Int)
    {r : AnalysisResult} (pass : r.status = .pass) :
    IsEarned depth output code (.ok r) ↔ code = 0 ∨ code = 1 := by
  constructor
  · intro earned
    exact (earned.1 r rfl pass).1
  · intro h
    exact ⟨fun _ _ _ => ⟨h, report⟩, fun h0 h1 => by omega⟩

/-- When the linter has failed there is an error. -/
theorem holdsError_failureOf (stderr : String) (code : Int) : HoldsError (failureOf stderr code) :=
  ⟨rfl, _, List.mem_singleton_self _, rfl⟩

/-- A linter that has ended by itself, or that was killed, has failed if its output is no list of
comments. -/
theorem verdict_of_none {output : String} (h : comments? depth output = .ok none) (stderr : String)
    (code : Int) : verdict depth output stderr code = .ok (failureOf stderr code) := by
  rw [verdict, h]
  rfl

theorem verdict_of_error {output : String} {fault : Fault}
    (h : comments? depth output = .error fault) (stderr : String) (code : Int) :
    verdict depth output stderr code = .error fault := by
  rw [verdict, h]
  rfl

/-- Codes greater than one mean that it has failed whatever it wrote. -/
theorem verdict_of_one_lt {output : String} {comments : List Comment}
    (h : comments? depth output = .ok (some comments)) (stderr : String) {code : Int}
    (hc : 1 < code) :
    verdict depth output stderr code = .ok (failureOf stderr code) := by
  rw [verdict, h, Result.ok_bind]
  exact if_pos hc

/-- After any other code the comments decide. -/
theorem verdict_of_le_one {output : String} {comments : List Comment}
    (h : comments? depth output = .ok (some comments)) (stderr : String) {code : Int}
    (hc : ¬ 1 < code) :
    verdict depth output stderr code =
      (findings comments).map fun found =>
        .ofFindings .lint found [("levels", Json.ofStrings (levels comments))] := by
  rw [verdict, h, Result.ok_bind]
  refine (if_neg hc).trans ?_
  rw [findings]
  cases comments.mapM fun comment => (finding comment).toResult "Finding" (.obj comment) <;> rfl

/-- When findings from comments are earned. -/
theorem isEarned_findings_iff {output : String} {comments : List Comment} {found : List Finding}
    (hc : comments? depth output = .ok (some comments)) (hf : findings comments = .ok found)
    (code : Int) (metadata : List (String × Json)) :
    IsEarned depth output code (.ok (.ofFindings .lint found metadata)) ↔
      code = 0 ∨ code = 1 ∨ ∃ f ∈ found, f.category = .lintError := by
  by_cases he : ∃ f ∈ found, f.category = .lintError
  · have holds := (holdsError_ofFindings_iff found metadata).mpr he
    exact iff_of_true (isEarned_of_holdsError depth output code holds) (.inr (.inr he))
  · have report : IsReport depth output := .inr ⟨comments, hc⟩
    have clean : ¬ HoldsError (.ofFindings .lint found metadata) := fun holds =>
      he ((holdsError_ofFindings_iff found metadata).mp holds)
    rw [isEarned_iff_of_pass report code (pass_of_not_holdsError hf clean)]
    simp [he]

/-- When the verdict on an output and an exit code is earned. -/
theorem isEarned_verdict_iff (depth : Nat) (output stderr : String) (code : Int) :
    IsEarned depth output code (verdict depth output stderr code) ↔
      code = 0 ∨ code = 1 ∨ (1 < code ∧ ∃ comments?, Lint.comments? depth output = .ok comments?) ∨
        (code < 0 ∧ (comments? depth output = .ok none ∨
          ∃ comments found, comments? depth output = .ok (some comments) ∧
            findings comments = .ok found ∧ ∃ f ∈ found, f.category = .lintError)) := by
  have codes : code = 0 ∨ code = 1 ∨ 1 < code ∨ code < 0 := by omega
  have failed := isEarned_of_holdsError depth output code (holdsError_failureOf stderr code)
  cases hc : comments? depth output with
  | error fault =>
      rw [verdict_of_error hc, isEarned_error_iff]
      simp
  | ok list =>
      cases list with
      | none =>
          rw [verdict_of_none hc]
          refine iff_of_true failed ?_
          rcases codes with h0 | h1 | hgt | hneg
          · exact .inl h0
          · exact .inr (.inl h1)
          · exact .inr (.inr (.inl ⟨hgt, _, rfl⟩))
          · exact .inr (.inr (.inr ⟨hneg, .inl rfl⟩))
      | some comments =>
          by_cases hgt : 1 < code
          · rw [verdict_of_one_lt hc stderr hgt]
            exact iff_of_true failed (.inr (.inr (.inl ⟨hgt, _, rfl⟩)))
          · rw [verdict_of_le_one hc stderr hgt]
            cases hf : findings comments with
            | error fault =>
                rw [Except.map, isEarned_error_iff]
                simp [hgt, hf]
            | ok found =>
                rw [Except.map, isEarned_findings_iff hc hf]
                constructor
                · rintro (h0 | h1 | he)
                  · exact .inl h0
                  · exact .inr (.inl h1)
                  · rcases codes with h0 | h1 | above | hneg
                    · exact .inl h0
                    · exact .inr (.inl h1)
                    · exact absurd above hgt
                    · exact .inr (.inr (.inr ⟨hneg, .inr ⟨comments, found, rfl, hf, he⟩⟩))
                · simp [hgt, hf]
                  tauto

theorem comments?_error {output : String} {fault : Fault}
    (h : comments? depth output = .error fault) :
    ∃ e, fault = .json e := by
  rw [comments?] at h
  split at h
  · cases h
  · split at h <;> cases h
    exact ⟨_, rfl⟩

theorem findings_error {comments : List Comment} {fault : Fault}
    (h : findings comments = .error fault) :
    ∃ problems account, fault = .invalid problems account := by
  induction comments with
  | nil => cases h
  | cons comment comments ih =>
      rw [findings, List.mapM_cons] at h
      cases hf : (finding comment).toResult "Finding" (.obj comment) with
      | error e =>
          rw [hf, Result.error_bind, Except.error.injEq] at h
          rw [← h]
          cases hc : finding comment with
          | error problems =>
              rw [hc] at hf
              cases hf
              exact ⟨_, _, rfl⟩
          | ok f =>
              rw [hc] at hf
              cases hf
      | ok first =>
          rw [hf, Result.ok_bind] at h
          cases ho : findings comments with
          | error e =>
              rw [← findings, ho, Result.error_bind, Except.error.injEq] at h
              exact ih (by rw [ho, h])
          | ok others =>
              rw [← findings, ho] at h
              cases h

/-- Drawing a verdict fails only over what the linter wrote. -/
theorem verdict_error {output stderr : String} {code : Int} {fault : Fault}
    (h : verdict depth output stderr code = .error fault) :
    (∃ e, fault = .json e) ∨ ∃ problems account, fault = .invalid problems account := by
  cases hc : comments? depth output with
  | error fault' =>
      rw [verdict_of_error hc, Except.error.injEq] at h
      exact .inl (h ▸ comments?_error hc)
  | ok list =>
      cases list with
      | none =>
          rw [verdict_of_none hc] at h
          cases h
      | some comments =>
          by_cases hgt : 1 < code
          · rw [verdict_of_one_lt hc stderr hgt] at h
            cases h
          · rw [verdict_of_le_one hc stderr hgt] at h
            cases hf : findings comments with
            | error fault' =>
                rw [hf, Except.map, Except.error.injEq] at h
                exact .inr (h ▸ findings_error hf)
            | ok found =>
                rw [hf] at h
                cases h

end Lint

namespace Analyzer

/-- The command that hands a script to the linter. -/
def lintCommand (settings : Settings) (script : Script) (m : Machine) (executable : String) :
    Command :=
  (ScriptCopy.of settings m.temporaryMark .lint script.language script.sourceText).command
    settings .lint "shellcheck" lintArguments none executable

/-- The linter is there, and ends in its time with an output and an exit code. -/
structure LinterEnds (settings : Settings) (script : Script) (m : Machine)
    (stdout stderr : List UInt8) (code : Int) : Prop where
  temporary : (m.disk.ensureFolders settings.tempDir).isOk
  ends : ∃ executable, Work.executableOf settings "shellcheck" m.toolbox = .ok executable ∧
    m.toolbox.respond (lintCommand settings script m executable) = .finished stdout stderr code
  time : ∀ n ∈ (settings.tool "shellcheck").timeout, 0 ≤ n ∧ Work.isEndless n = false

/-- What comes of linting is the verdict on what the linter wrote. -/
theorem run_lintWithin_of_linterEnds {settings : Settings} {script : Script} {m : Machine}
    {stdout stderr : List UInt8} {code : Int}
    (h : LinterEnds settings script m stdout stderr code) (depth : Nat) :
    (((lintWithin depth settings).analyze script).run m).1 =
      Lint.verdict depth (Text.Utf8.decodeLossy stdout) (Text.Utf8.decodeLossy stderr) code := by
  obtain ⟨executable, found, ended⟩ := h.ends
  have said := Work.answer_of_finished ended h.time
  have result := run_analyze_lintWithin_fst depth settings script m
  have temporary := temporary_view_eq_ok_iff.mpr h.temporary
  have output : (ScriptCopy.of settings m.temporaryMark .lint script.language
      script.sourceText).answer settings .lint "shellcheck" lintArguments none m.toolbox =
        .ok ⟨Text.Utf8.decodeLossy stdout, Text.Utf8.decodeLossy stderr, code⟩ := by
    rw [ScriptCopy.answer, found, Result.ok_bind]
    exact said
  rw [result, lintOutcome, copyOutcome, temporary, Result.ok_bind, view, output,
    Result.ok_bind]
  cases hv : Lint.verdict depth (Text.Utf8.decodeLossy stdout) (Text.Utf8.decodeLossy stderr)
      code with
  | ok r => rfl
  | error fault => rcases Lint.verdict_error hv with ⟨e, rfl⟩ | ⟨problems, account, rfl⟩ <;> rfl

theorem run_lint_of_linterEnds {settings : Settings} {script : Script} {m : Machine}
    {stdout stderr : List UInt8} {code : Int}
    (h : LinterEnds settings script m stdout stderr code) :
    (((builtin settings .lint).analyze script).run m).1 =
      Lint.verdict JsonDialect.usualDepth (Text.Utf8.decodeLossy stdout)
        (Text.Utf8.decodeLossy stderr) code :=
  run_lintWithin_of_linterEnds h JsonDialect.usualDepth

/-- When the result of linting is earned, however deep the output is read. -/
theorem lint_isEarned_iff {settings : Settings} {script : Script} {m : Machine}
    {stdout stderr : List UInt8} {code : Int}
    (h : LinterEnds settings script m stdout stderr code) (depth : Nat) :
    Lint.IsEarned depth (Text.Utf8.decodeLossy stdout) code
        (((lintWithin depth settings).analyze script).run m).1 ↔
      code = 0 ∨ code = 1 ∨
        (1 < code ∧ ∃ comments?,
          Lint.comments? depth (Text.Utf8.decodeLossy stdout) = .ok comments?) ∨
        (code < 0 ∧ (Lint.comments? depth (Text.Utf8.decodeLossy stdout) = .ok none ∨
          ∃ comments found,
            Lint.comments? depth (Text.Utf8.decodeLossy stdout) = .ok (some comments) ∧
            Lint.findings comments = .ok found ∧ ∃ f ∈ found, f.category = .lintError)) := by
  rw [run_lintWithin_of_linterEnds h]
  exact Lint.isEarned_verdict_iff depth _ _ code

theorem linterEnds_answering (script : Script) (stdout stderr : List UInt8) (code : Int) :
    LinterEnds .atRoot script (.answering (.finished stdout stderr code)) stdout stderr code where
  temporary := by
    change ((Disk.empty []).ensureFolders ⟨1, ["tmp"]⟩).isOk
    decide +kernel
  ends := ⟨"/bin/shellcheck", rfl, rfl⟩
  time := by decide

/-- The result is earned when the linter says nothing and ends with one. -/
theorem lint_isEarned_of_one :
    Lint.IsEarned JsonDialect.usualDepth (Text.Utf8.decodeLossy []) 1
      (((lintWithin JsonDialect.usualDepth .atRoot).analyze ⟨"s", .bash, none, "ls", [], true⟩).run
        (.answering (.finished [] [] 1))).1 :=
  (lint_isEarned_iff (linterEnds_answering _ [] [] 1) _).mpr (.inr (.inl rfl))

/-- A linter that was killed before it wrote anything makes a script pass. -/
theorem lint_passes_when_killed :
    ∃ settings script m, LinterEnds settings script m [] [] (-9) ∧ ∀ depth,
      (((lintWithin depth settings).analyze script).run m).1 =
        .ok (.ofFindings .lint [] [("levels", .arr [])]) ∧
      ¬ Lint.IsEarned depth "" (-9) (((lintWithin depth settings).analyze script).run m).1 := by
  have ends := linterEnds_answering ⟨"s", .bash, none, "ls", [], true⟩ [] [] (-9)
  have passes (depth : Nat) :
      Lint.verdict depth "" "" (-9) = .ok (.ofFindings .lint [] [("levels", .arr [])]) := by
    have report : Lint.comments? depth "" = .ok (some []) := rfl
    rw [Lint.verdict_of_le_one report "" (by decide)]
    simp [Lint.findings, Lint.levels, Shell.sortedSet, Json.ofStrings, Except.map]
  refine ⟨_, _, _, ends, fun depth => ⟨?_, ?_⟩⟩
  · rw [run_lintWithin_of_linterEnds ends]
    exact passes depth
  · rw [run_lintWithin_of_linterEnds ends]
    change ¬ Lint.IsEarned depth "" (-9) (Lint.verdict depth "" "" (-9))
    rw [passes]
    intro earned
    have codes := (earned.1 _ rfl rfl).1
    omega

end Analyzer

end ScriptVet
