import ScriptVet.Proofs.Analyzer.Lint
import ScriptVet.Proofs.Json.Inside
import ScriptVet.Proofs.ReportData
import ScriptVet.Proofs.SavedResults
import ScriptVet.Proofs.Shell.Found

/-!
# What becomes of the comments of a linter

Linting comes to a result unless what the linter wrote cannot be converted: JSON that is nested too
deep, an integer with too many digits, or the code of a comment that is neither text nor a number.
Output that is no JSON at all is no hindrance, nor are types of other fields that one would not
expect. A report that is converted is translated comment by comment, and the levels told beside the
findings mean the categories of the findings.
-/

namespace ScriptVet

namespace Lint

open Json.Reader (IsModest Spells)

/-! ## What is listed and what is read -/

/-- A code that can be told: nothing, text or a number, booleans being numbers. -/
def IsPlainCode : Json → Prop
  | .null | .str _ | .int _ | .bool _ => True
  | .float _ | .arr _ | .obj _ => False

def HasPlainCode (comment : Comment) : Prop :=
  ∀ value, Json.getField? "code" comment = some value → IsPlainCode value

/-- A report lists the items of an array, which it is or which it has as its comments. -/
inductive Lists : Json → List Json → Prop where
  | bare (items : List Json) : Lists (.arr items) items
  | named {fields : List (String × Json)} {items : List Json} :
      Json.getField? "comments" fields = some (.arr items) → Lists (.obj fields) items

theorem Lists.eq {report : Json} {items items' : List Json} (lists : Lists report items)
    (lists' : Lists report items') : items = items' := by
  cases lists with
  | bare =>
      cases lists'
      rfl
  | named found =>
      cases lists' with
      | named found' => exact Json.arr.inj (Option.some.inj (found.symm.trans found'))

/-- The comment stands in the report that a reader finds in an output. -/
def Tells (depth : Nat) (output : String) (comment : Comment) : Prop :=
  ∃ report items, Json.parseWithin depth output = .ok report ∧ Lists report items ∧
    .obj comment ∈ items

/-- The output is read as JSON or is none. -/
def IsReadable (depth : Nat) (output : String) : Prop :=
  ∀ fault, Json.parseWithin depth output = .error fault → fault = .malformed

variable {depth : Nat}

theorem exists_code_iff {comment : Comment} :
    (∃ told, code comment = .ok told) ↔ HasPlainCode comment := by
  rw [code, HasPlainCode]
  cases Json.getField? "code" comment with
  | none => simp
  | some value =>
      cases value <;>
        simp [IsPlainCode, Json.toInt?, Checked.inside, Checked.reject, Except.mapError]

theorem exists_finding_iff {comment : Comment} :
    (∃ f, (finding comment).toResult "Finding" (.obj comment) = .ok f) ↔
      HasPlainCode comment := by
  rw [← exists_code_iff, finding]
  cases code comment <;> simp [Checked.toResult, Except.map, Except.mapError]

/-- Findings come from comments exactly if every code can be told. -/
theorem exists_findings_iff {comments : List Comment} :
    (∃ found, findings comments = .ok found) ↔ ∀ comment ∈ comments, HasPlainCode comment := by
  simp only [← exists_finding_iff]
  exact Result.exists_mapM_iff

/-- Blanks alone are no JSON. -/
theorem parse_of_isBlankText {output : String} (blank : Text.isBlankText output) :
    Json.parseWithin depth output = .error .malformed := by
  have all : ∀ c ∈ output.toList, Text.isBlank c := List.all_eq_true.mp blank
  rw [Json.parseWithin, Json.Reader.read]
  cases begins : Json.Reader.skipSpace output.toList with
  | nil => rw [Json.Reader.readValue_nil, Result.error_bind]
  | cons c rest =>
      have inside := (Json.Reader.skipSpace_suffix output.toList).subset
      rw [begins] at inside
      have first : Text.isBlank c := all c (inside List.mem_cons_self)
      have other {d : Char} (visible : Text.isBlank d = false) : c ≠ d := by
        rintro rfl
        rw [first] at visible
        cases visible
      have foreign : c ∉ Json.Reader.beginnings := by
        simp only [Json.Reader.beginnings, List.mem_cons, List.not_mem_nil, or_false, not_or]
        exact ⟨other (by decide), other (by decide), other (by decide), other (by decide),
          other (by decide), other (by decide), other (by decide), other (by decide),
          other (by decide)⟩
      have digit : c.isDigit = false := by
        rw [Bool.eq_false_iff]
        intro digit
        have high : 48 ≤ c.toNat ∧ c.toNat ≤ 57 := Char.isDigit_iff_toNat.mp digit
        simp only [Text.isBlank, Text.isWhiteSpace, Bool.or_eq_true, Bool.and_eq_true,
          decide_eq_true_eq, beq_iff_eq] at first
        omega
      rw [Json.Reader.readValue_of_notMem_beginnings _ _ _ foreign digit, Result.error_bind]

theorem mem_objects_iff {items : List Json} {comment : Comment} :
    comment ∈ items.filterMap Json.fields? ↔ .obj comment ∈ items := by
  have isObject (item : Json) : item.fields? = some comment ↔ item = .obj comment := by
    cases item <;> simp [Json.fields?]
  simp [isObject]

section

variable {output : String} {report : Json} (given : Json.parseWithin depth output = .ok report)

include given

theorem not_isBlankText_of_parse : ¬ Text.isBlankText output := by
  intro blank
  rw [parse_of_isBlankText blank] at given
  cases given

/-- The objects that are listed are the comments. -/
theorem comments?_of_lists {items : List Json} (lists : Lists report items) :
    comments? depth output = .ok (some (items.filterMap Json.fields?)) := by
  rw [comments?, if_neg (not_isBlankText_of_parse given), given]
  cases lists with
  | bare => rfl
  | named found =>
      simp only [found, Option.getD_some]
      rfl

/-- A value that lists nothing is no report, or one without comments. -/
theorem comments?_of_not_lists (nothing : ∀ items, ¬ Lists report items) :
    ∃ list, comments? depth output = .ok list ∧
      ∀ comments, list = some comments → comments = [] := by
  rw [comments?, if_neg (not_isBlankText_of_parse given), given]
  cases report with
  | arr items => exact absurd (.bare items) (nothing items)
  | obj fields =>
      refine ⟨_, rfl, fun comments same => ?_⟩
      cases found : Json.getField? "comments" fields with
      | none =>
          rw [found] at same
          exact (Option.some.inj same).symm
      | some value =>
          rw [found, Option.getD_some] at same
          cases value with
          | arr items => exact absurd (.named found) (nothing items)
          | _ => cases same
  | _ => exact ⟨none, rfl, by rintro comments ⟨⟩⟩

end

/-- What is no JSON lists nothing. -/
theorem comments?_of_malformed {output : String}
    (given : Json.parseWithin depth output = .error .malformed) :
    ∃ list, comments? depth output = .ok list ∧
      ∀ comments, list = some comments → comments = [] := by
  rw [comments?, given]
  split
  · exact ⟨some [], rfl, fun comments same => (Option.some.inj same).symm⟩
  · exact ⟨none, rfl, by rintro comments ⟨⟩⟩

/-- An output that is JSON and yet cannot be read is refused. -/
theorem comments?_of_error {output : String} {fault : JsonFault}
    (given : Json.parseWithin depth output = .error fault) (reason : fault ≠ .malformed) :
    comments? depth output = .error (.json fault) := by
  have visible : ¬ Text.isBlankText output := by
    intro blank
    rw [parse_of_isBlankText blank] at given
    exact reason (Except.error.inj given).symm
  rw [comments?, if_neg visible, given]
  cases fault with
  | malformed => exact absurd rfl reason
  | _ => rfl

/-- The comments that are converted are those that the output tells. -/
theorem comments?_spec {output : String} (readable : IsReadable depth output) :
    ∃ list, comments? depth output = .ok list ∧
      ∀ comment,
        (∃ comments, list = some comments ∧ comment ∈ comments) ↔ Tells depth output comment := by
  have empty {list : Option (List Comment)}
      (none : ∀ comments, list = some comments → comments = []) (comment : Comment) :
      ¬ ∃ comments, list = some comments ∧ comment ∈ comments := by
    rintro ⟨comments, named, listed⟩
    rw [none comments named] at listed
    cases listed
  cases given : Json.parseWithin depth output with
  | ok report =>
      by_cases lists : ∃ items, Lists report items
      · obtain ⟨items, lists⟩ := lists
        refine ⟨_, comments?_of_lists given lists, fun comment => ?_⟩
        constructor
        · rintro ⟨comments, ⟨⟩, listed⟩
          exact ⟨report, items, given, lists, mem_objects_iff.mp listed⟩
        · rintro ⟨report', items', given', lists', listed⟩
          obtain rfl : report = report' := Except.ok.inj (given.symm.trans given')
          obtain rfl : items = items' := lists.eq lists'
          exact ⟨_, rfl, mem_objects_iff.mpr listed⟩
      · obtain ⟨list, same, none⟩ := comments?_of_not_lists given (not_exists.mp lists)
        refine ⟨list, same, fun comment => iff_of_false (empty none comment) ?_⟩
        rintro ⟨report', items, given', lists', -⟩
        obtain rfl : report = report' := Except.ok.inj (given.symm.trans given')
        exact lists ⟨items, lists'⟩
  | error fault =>
      obtain rfl : fault = .malformed := readable fault given
      obtain ⟨list, same, none⟩ := comments?_of_malformed given
      refine ⟨list, same, fun comment => iff_of_false (empty none comment) ?_⟩
      rintro ⟨report, items, given', -⟩
      rw [given] at given'
      cases given'

/-- An output is refused exactly if it cannot be read. -/
theorem exists_comments_iff {output : String} :
    (∃ list, comments? depth output = .ok list) ↔ IsReadable depth output := by
  refine ⟨fun ⟨list, same⟩ fault given => ?_, fun readable => ?_⟩
  · by_contra reason
    rw [comments?_of_error given reason] at same
    cases same
  · exact (comments?_spec readable).imp fun _ both => both.1

/-- The comments that are converted are those that the output tells. -/
theorem exists_mem_iff_tells {output : String} {list : Option (List Comment)}
    (given : comments? depth output = .ok list) (comment : Comment) :
    (∃ comments, list = some comments ∧ comment ∈ comments) ↔ Tells depth output comment := by
  obtain ⟨list', same, tells⟩ := comments?_spec (exists_comments_iff.mp ⟨list, given⟩)
  obtain rfl : list' = list := Except.ok.inj (same.symm.trans given)
  exact tells comment

/-- A verdict is drawn exactly if the output can be read and, unless the linter has failed, every
comment can be converted. -/
theorem exists_verdict_iff (depth : Nat) (output stderr : String) (code : Int) :
    (∃ r, verdict depth output stderr code = .ok r) ↔
      IsReadable depth output ∧
        (code ≤ 1 → ∀ comment, Tells depth output comment → HasPlainCode comment) := by
  rw [← exists_comments_iff]
  cases given : comments? depth output with
  | error fault =>
      rw [verdict_of_error given]
      exact iff_of_false nofun fun both => nomatch both.1
  | ok list =>
      have tells := exists_mem_iff_tells given
      cases list with
      | none =>
          rw [verdict_of_none given]
          refine iff_of_true ⟨_, rfl⟩ ⟨⟨_, rfl⟩, fun _ comment told => ?_⟩
          obtain ⟨comments, ⟨⟩, -⟩ := (tells comment).mpr told
      | some comments =>
          by_cases failed : 1 < code
          · rw [verdict_of_one_lt given stderr failed]
            exact iff_of_true ⟨_, rfl⟩ ⟨⟨_, rfl⟩, fun ended => by omega⟩
          · have all : (∀ comment ∈ comments, HasPlainCode comment) ↔
                ∀ comment, Tells depth output comment → HasPlainCode comment := by
              refine forall_congr' fun comment => ?_
              rw [← tells comment]
              simp
            rw [verdict_of_le_one given stderr failed, ← all, ← exists_findings_iff]
            cases findings comments with
            | error fault => exact iff_of_false nofun fun both => nomatch both.2 (by omega)
            | ok found => exact iff_of_true ⟨_, rfl⟩ ⟨⟨_, rfl⟩, fun _ => ⟨found, rfl⟩⟩

/-! ## What a report is translated to -/

/-- The level of a comment, or its severity where it has no level, is an error in some case. -/
def SaysError (comment : Comment) : Prop :=
  ∃ level, (Json.getField? "level" comment = some level ∨
    Json.getField? "level" comment = none ∧ Json.getField? "severity" comment = some level) ∧
      Text.lower level.shown = "error"

/-- A result translates comments: there is a finding for each, in their order, the script fails over
an error, and the levels that are told mean the categories that occur. -/
structure Translates (comments : List Comment) (r : AnalysisResult) : Prop where
  findings : List.Forall₂ (fun comment f => finding comment = .ok f) comments r.findings
  fails : r.status = .fail ↔ ∃ comment ∈ comments, SaysError comment
  passes : r.status = .pass ↔ ¬ ∃ comment ∈ comments, SaysError comment
  levels : ∃ levels, r.metadata = [("levels", Json.ofStrings levels)] ∧
    ∀ category, (∃ f ∈ r.findings, f.category = category) ↔
      ∃ level ∈ levels, categoryOf level = category

/-- What a comment without a level is taken for and what is told of it mean the same. -/
theorem categoryOf_shown (comment : Comment) :
    categoryOf ((level? comment).getD (.str "warning")).shown =
      categoryOf ((level? comment).getD .null).shown := by
  cases level? comment with
  | none => decide +kernel
  | some level => rfl

theorem categoryOf_eq_lintError_iff (level : String) :
    categoryOf level = .lintError ↔ Text.lower level = "error" := by
  rw [categoryOf]
  constructor
  · intro means
    cases found : categories.lookup (Text.lower level) with
    | none =>
        rw [found] at means
        cases means
    | some category =>
        rw [found, Option.getD_some] at means
        obtain ⟨before, after, parts, -⟩ := List.lookup_eq_some_iff.mp found
        have listed : (Text.lower level, Category.lintError) ∈ categories := by
          rw [parts, means]
          exact List.mem_append_right _ List.mem_cons_self
        simpa [categories] using listed
  · intro same
    rw [same]
    rfl

theorem categoryOf_eq_lintError_iff_saysError (comment : Comment) :
    categoryOf ((level? comment).getD .null).shown = .lintError ↔ SaysError comment := by
  rw [categoryOf_eq_lintError_iff, SaysError, level?]
  cases Json.getField? "level" comment with
  | some level => simp
  | none =>
      cases Json.getField? "severity" comment with
      | some level => simp
      | none =>
          have absent : Text.lower Json.null.shown ≠ "error" := by decide +kernel
          simpa using absent

theorem toResult_eq_ok_iff {checked : Checked Finding} {name : String} {data : Json} {f : Finding} :
    checked.toResult name data = .ok f ↔ checked = .ok f :=
  Result.mapError_eq_ok_iff

theorem category_of_finding_eq {comment : Comment} {f : Finding}
    (converted : finding comment = .ok f) :
    f.category = categoryOf ((level? comment).getD .null).shown := by
  obtain ⟨told, -, rfl⟩ := Result.map_eq_ok.mp converted
  exact categoryOf_shown comment

/-- What comes of a report whose comments were all converted. -/
theorem translates_of_findings {comments : List Comment} {found : List Finding}
    (converted : findings comments = .ok found) :
    Translates comments
      (.ofFindings .lint found [("levels", Json.ofStrings (levels comments))]) := by
  have each : List.Forall₂ (fun comment f => finding comment = .ok f) comments found :=
    (Result.forall₂_of_mapM converted).imp fun _ _ same => toResult_eq_ok_iff.mp same
  have occurs (category : Category) : (∃ f ∈ found, f.category = category) ↔
      ∃ comment ∈ comments, categoryOf ((level? comment).getD .null).shown = category := by
    have categories : comments.map (fun comment => categoryOf ((level? comment).getD .null).shown) =
        found.map (·.category) := by
      clear converted
      induction each with
      | nil => rfl
      | cons first _ ih => rw [List.map_cons, List.map_cons, ih, category_of_finding_eq first]
    rw [← List.mem_map, ← categories, List.mem_map]
  have errs : (∃ f ∈ found, f.category = .lintError) ↔
      ∃ comment ∈ comments, SaysError comment := by
    simp only [occurs, categoryOf_eq_lintError_iff_saysError]
  have holds := (holdsError_ofFindings_iff found
    [("levels", Json.ofStrings (levels comments))]).trans errs
  refine ⟨each, ?_, ?_, levels comments, rfl, fun category => ?_⟩
  · refine ⟨fun failed => ?_, fun error => (holds.mpr error).1⟩
    by_contra clean
    have passed := pass_of_not_holdsError converted fun error => clean (holds.mp error)
    rw [passed] at failed
    cases failed
  · refine ⟨fun passed error => ?_, fun clean => ?_⟩
    · have failed := (holds.mpr error).1
      rw [passed] at failed
      cases failed
    · exact pass_of_not_holdsError converted fun error => clean (holds.mp error)
  · refine (occurs category).trans ?_
    simp only [levels, Shell.mem_sortedSet, List.mem_map, exists_exists_and_eq_and]

/-- A report that was read is translated if every code can be told. -/
theorem exists_translation {output : String} {comments : List Comment}
    (given : comments? depth output = .ok (some comments))
    (plain : ∀ comment ∈ comments, HasPlainCode comment) (stderr : String) {code : Int}
    (ended : ¬ 1 < code) :
    ∃ r, verdict depth output stderr code = .ok r ∧ Translates comments r := by
  obtain ⟨found, converted⟩ := exists_findings_iff.mpr plain
  refine ⟨_, ?_, translates_of_findings converted⟩
  rw [verdict_of_le_one given stderr ended, converted]
  rfl

/-- A plain value that was written on one line is read unless an integer in it is too long. -/
theorem parse_of_written {output : String} {v : Json}
    (written : output.toList = Json.write .compact 0 v) (plain : v.IsPlain)
    (low : v.height ≤ depth) :
    Json.parseWithin depth output =
      Json.Reader.unlessLong (v.longNumeral? (some numeralLimit)) v := by
  rw [Json.parseWithin, written]
  exact Json.Reader.read_write (.lenient depth) nofun plain low

end Lint

namespace Analyzer

open Json.Reader (IsModest Spells)

section

variable {settings : Settings} {script : Script} {m : Machine} {stdout stderr : List UInt8}
  {code : Int}

/-- Linting comes to a result exactly if the output can be read and, unless the linter has failed,
the code of every comment can be told. Short output and output that is no JSON can be read. That is
so however deep the output is read. -/
theorem lint_returns_iff (h : LinterEnds settings script m stdout stderr code) (depth : Nat) :
    let output := Text.Utf8.decodeLossy stdout
    ((∃ r, (((lintWithin depth settings).analyze script).run m).1 = .ok r) ↔
      Lint.IsReadable depth output ∧
        (code ≤ 1 → ∀ comment, Lint.Tells depth output comment → Lint.HasPlainCode comment)) ∧
    (IsModest (.lenient depth) output.toList → Lint.IsReadable depth output) := by
  intro output
  rw [run_lintWithin_of_linterEnds h]
  exact ⟨Lint.exists_verdict_iff depth output _ code, fun modest _ failed =>
    Json.Reader.malformed_of_isModest modest failed⟩

/-- A report that lists comments with codes that can be told is translated, unless it cannot be read
for its depth or a long integer. -/
theorem lint_translates (h : LinterEnds settings script m stdout stderr code) (depth : Nat)
    (ended : code = 0 ∨ code = 1) {report : Json} {items : List Json}
    (spelled : Spells (.lenient depth) (Text.Utf8.decodeLossy stdout).toList report)
    (lists : Lint.Lists report items)
    (plain : ∀ comment, .obj comment ∈ items → Lint.HasPlainCode comment) :
    let output := Text.Utf8.decodeLossy stdout
    let result := (((lintWithin depth settings).analyze script).run m).1
    (∀ r, result = .ok r → Lint.Translates (items.filterMap Json.fields?) r) ∧
    ((∃ r, result = .ok r) ↔ Json.parseWithin depth output = .ok report) ∧
    (IsModest (.lenient depth) output.toList → ∃ r, result = .ok r) := by
  intro output result
  have comes : result = Lint.verdict depth output _ code := run_lintWithin_of_linterEnds h depth
  have translated (given : Json.parseWithin depth output = .ok report) :
      ∃ r, result = .ok r ∧ Lint.Translates (items.filterMap Json.fields?) r := by
    rw [comes]
    exact Lint.exists_translation (Lint.comments?_of_lists given lists)
      (fun comment there => plain comment (Lint.mem_objects_iff.mp there)) _ (by omega)
  have read (r : AnalysisResult) (returned : result = .ok r) :
      Json.parseWithin depth output = .ok report := by
    rcases spelled.read_eq with given | ⟨fault, reason, refused⟩
    · exact given
    · rw [comes, Lint.verdict_of_error (Lint.comments?_of_error refused reason)] at returned
      cases returned
  refine ⟨fun r returned => ?_, ⟨fun ⟨r, returned⟩ => read r returned, fun given => ?_⟩,
    fun modest => ?_⟩
  · obtain ⟨r', same, translates⟩ := translated (read r returned)
    obtain rfl : r' = r := Except.ok.inj (same.symm.trans returned)
    exact translates
  · exact (translated given).imp fun _ both => both.1
  · exact (translated (spelled.read_of_isModest modest)).imp fun _ both => both.1

end

/-- A report with a number as a code is read. -/
theorem lint_returns_on_number :
    let script : Script := ⟨"s", .bash, none, "ls", [], true⟩
    let stdout := Text.Utf8.encodeString "[\x7b\"code\":2086\x7d]"
    let m := Machine.answering (.finished stdout [] 1)
    LinterEnds .atRoot script m stdout [] 1 ∧
      ∃ r, (((lint .atRoot).analyze script).run m).1 = .ok r := by
  intro script stdout m
  have ends : LinterEnds .atRoot script m stdout [] 1 := linterEnds_answering script stdout [] 1
  have output : Text.Utf8.decodeLossy stdout = "[\x7b\"code\":2086\x7d]" :=
    Text.Utf8.decodeLossy_encodeString _
  have given : Json.parseWithin JsonDialect.usualDepth (Text.Utf8.decodeLossy stdout) =
      .ok (.arr [.obj [("code", .int 2086)]]) := by
    have plain : (Json.arr [.obj [("code", .int 2086)]]).IsPlain :=
      ⟨⟨⟨trivial, trivial⟩, by simp⟩, trivial⟩
    rw [output, Lint.parse_of_written (by decide +kernel) plain (by decide)]
    rfl
  refine ⟨ends, (lint_returns_iff ends _).1.mpr ⟨(lint_returns_iff ends _).2 ?_, ?_⟩⟩
  · rw [output]
    exact Json.Reader.isModest_of_length_le (by decide) (by decide)
  · rintro - comment ⟨report, items, given', lists, listed⟩
    obtain rfl := Except.ok.inj (given.symm.trans given')
    cases lists
    obtain rfl : comment = [("code", .int 2086)] := by simpa using listed
    rintro value ⟨⟩
    trivial

/-- A code that is an array makes linting break off. -/
theorem lint_breaks_at_array_code :
    let script : Script := ⟨"s", .bash, none, "ls", [], true⟩
    let stdout := Text.Utf8.encodeString "\x7b\"comments\": [\x7b\"code\": []\x7d]\x7d"
    let m := Machine.answering (.finished stdout [] 1)
    LinterEnds .atRoot script m stdout [] 1 ∧
      ∃ fault, (((lint .atRoot).analyze script).run m).1 = .error fault := by
  intro script stdout m
  have fails : (((lint .atRoot).analyze script).run m).1.isOk = false := by decide +kernel
  refine ⟨linterEnds_answering script stdout [] 1, ?_⟩
  cases comes : (((lint .atRoot).analyze script).run m).1 with
  | error fault => exact ⟨fault, rfl⟩
  | ok r =>
      rw [comes] at fails
      cases fails

/-- An error in capital letters is translated to one. -/
theorem lint_translates_error :
    let script : Script := ⟨"s", .bash, none, "ls", [], true⟩
    let comment : Lint.Comment := [("level", .str "Error")]
    let stdout := Text.Utf8.encodeString "\x7b\"comments\":[\x7b\"level\":\"Error\"\x7d]\x7d"
    let m := Machine.answering (.finished stdout [] 1)
    LinterEnds .atRoot script m stdout [] 1 ∧
      ∃ r, (((lint .atRoot).analyze script).run m).1 = .ok r ∧ Lint.Translates [comment] r ∧
        r.status = .fail := by
  intro script comment stdout m
  have ends : LinterEnds .atRoot script m stdout [] 1 := linterEnds_answering script stdout [] 1
  have output : Text.Utf8.decodeLossy stdout =
      "\x7b\"comments\":[\x7b\"level\":\"Error\"\x7d]\x7d" :=
    Text.Utf8.decodeLossy_encodeString _
  have given : Json.parseWithin JsonDialect.usualDepth (Text.Utf8.decodeLossy stdout) =
      .ok (.obj [("comments", .arr [.obj comment])]) := by
    have plain : (Json.obj [("comments", .arr [.obj comment])]).IsPlain :=
      ⟨⟨⟨⟨⟨trivial, trivial⟩, by simp [comment]⟩, trivial⟩, trivial⟩, by simp⟩
    rw [output, Lint.parse_of_written (by decide +kernel) plain (by decide)]
    rfl
  obtain ⟨translates, returns, -⟩ := lint_translates ends JsonDialect.usualDepth (.inr rfl)
    (Json.Reader.spells_of_read given) (.named rfl) (by
      intro comment' listed value coded
      obtain rfl : comment' = comment := by simpa using listed
      cases coded)
  obtain ⟨r, comes⟩ := returns.mpr given
  have translation := translates r comes
  refine ⟨ends, r, comes, translation, translation.fails.mpr ⟨comment, List.mem_cons_self, ?_⟩⟩
  exact ⟨.str "Error", .inl rfl, by decide +kernel⟩

/-- An integer with too many digits makes linting break off even in a field that is not read. -/
theorem lint_breaks_at_long_integer :
    let script : Script := ⟨"s", .bash, none, "ls", [], true⟩
    let comment : Lint.Comment := [("level", .str "info"), ("endLine", .int (10 ^ numeralLimit))]
    let report : Json := .obj [("comments", .arr [.obj comment])]
    let stdout := Text.Utf8.encodeString (String.ofList (Json.write .compact 0 report))
    let m := Machine.answering (.finished stdout [] 1)
    LinterEnds .atRoot script m stdout [] 1 ∧
      Spells (.lenient JsonDialect.usualDepth) (Text.Utf8.decodeLossy stdout).toList report ∧
      Lint.HasPlainCode comment ∧
      ∃ fault, (((lint .atRoot).analyze script).run m).1 = .error fault := by
  intro script comment report stdout m
  have ends : LinterEnds .atRoot script m stdout [] 1 := linterEnds_answering script stdout [] 1
  have output : (Text.Utf8.decodeLossy stdout).toList = Json.write .compact 0 report := by
    rw [Text.Utf8.decodeLossy_encodeString, String.toList_ofList]
  have plain : report.IsPlain :=
    ⟨⟨⟨⟨⟨trivial, trivial, trivial⟩, by simp [comment]⟩, trivial⟩, trivial⟩, by simp⟩
  have high : report.height = 4 := rfl
  have spelled : Spells (.lenient JsonDialect.usualDepth) (Text.Utf8.decodeLossy stdout).toList
      report := by
    have back : Json.Reader.read ((JsonDialect.lenient JsonDialect.usualDepth).withLimits 4 none)
        (Json.write .compact 0 report) = Json.Reader.unlessLong (report.longNumeral? none) report :=
      Json.Reader.read_write _ nofun plain (Nat.le_of_eq high)
    rw [Json.longNumeral?_unlimited] at back
    exact Json.Reader.spells_of_withLimits 4 none (by rw [output, back]; rfl)
  have long : report.longNumeral? (some numeralLimit) ≠ none := by
    rw [ne_eq, Json.longNumeral?_eq_none_iff]
    rintro ⟨⟨⟨-, fits, -⟩, -⟩, -⟩
    exact Json.not_fitsDigits_pow (by decide) fits
  refine ⟨ends, spelled, by rintro value ⟨⟩, ?_⟩
  obtain ⟨digits, found⟩ := Option.ne_none_iff_exists'.mp long
  have refused : Json.parseWithin JsonDialect.usualDepth (Text.Utf8.decodeLossy stdout) =
      .error (.numeralTooLong digits) := by
    rw [Lint.parse_of_written output plain (by rw [high]; decide), found]
    rfl
  have comes := run_lintWithin_of_linterEnds ends JsonDialect.usualDepth
  rw [Lint.verdict_of_error (Lint.comments?_of_error refused nofun)] at comes
  exact ⟨_, comes⟩

end Analyzer

end ScriptVet
