import ScriptVet.CommandLine.Build
import ScriptVet.Proofs.Console.Table
import ScriptVet.Proofs.Names

/-!
# What is shown of reports and tests

The names of scripts, the words of the program and numbers are shown as they are. So the verdicts of
tests and the summary of a build can always be printed, and a report can be printed if the texts in
it that come from elsewhere are plain.
-/

namespace ScriptVet

open Console

/-! ## Texts that are plain -/

namespace Console

/-- The characters of names mean nothing in marked-up text. -/
theorem isPlain_of_isNameChar {cs : List Char} (h : ∀ c ∈ cs, Checked.isNameChar c) :
    IsPlain cs where
  noTag bracket := absurd (h _ bracket) (by decide)
  noBackslash backslash := absurd (h _ backslash) (by decide)
  noName := Emoji.namesNone_of_notMem fun colon => absurd (h _ colon) (by decide)
  whole c hc := Checked.isHalf_of_isNameChar (h c hc)

theorem isPlain_of_isName {s : String} (h : Checked.isName s) : IsPlain s.toList :=
  isPlain_of_isNameChar fun _ hc => Checked.isNameChar_of_mem h hc

theorem isPlain_repr (n : Nat) : IsPlain (Nat.repr n).toList := by
  refine isPlain_of_isNameChar fun c hc => ?_
  have digits : (Nat.repr n).toList = Nat.toDigits 10 n := by simp [Nat.repr]
  rw [digits] at hc
  have digit := Nat.isDigit_of_mem_toDigits (by decide) (by decide) hc
  simp [Checked.isNameChar, Checked.isNameStart, Char.isAlphanum, digit]

theorem isPlain_intercalate {separator : List Char} (between : IsPlain separator)
    {parts : List (List Char)} (h : ∀ part ∈ parts, IsPlain part) :
    IsPlain (separator.intercalate parts) :=
  intercalate_induction ⟨by simp, by simp, rfl, by simp⟩ .append between h

end Console

theorem AnalyzerKind.isNameChar_of_mem_word {kind : AnalyzerKind} :
    ∀ c ∈ kind.word.toList, Checked.isNameChar c := by
  cases kind <;> decide

theorem AnalyzerKind.isPlain_word (kind : AnalyzerKind) : IsPlain kind.word.toList :=
  isPlain_of_isNameChar isNameChar_of_mem_word

/-- An id that is made of a name and the word for a kind. -/
theorem TestCase.isPlain_idFor {script : String} (named : Checked.isName script)
    (kind : AnalyzerKind) : IsPlain (idFor script kind.word).toList := by
  have letters : (idFor script kind.word).toList =
      "script-".toList ++ (script.toList ++ ("-".toList ++ kind.word.toList)) := by
    simp [idFor, toString]
  rw [letters]
  exact .append (by decide) (.append (isPlain_of_isName named) (.append (by decide)
    kind.isPlain_word))

/-- The summary of a build, whose only texts from elsewhere are names of scripts. -/
theorem Gate.isPlain_summary {gate : Gate}
    (named : ∀ report ∈ gate.reports, Checked.isName report.scriptName) :
    IsPlain gate.summary.toList := by
  have lineEnd : IsPlain "\n".toList := by decide
  have comma : IsPlain ", ".toList := by decide
  rw [Gate.summary, String.toList_intercalate]
  refine isPlain_intercalate lineEnd fun part hpart => ?_
  obtain ⟨line, hline, rfl⟩ := List.mem_map.mp hpart
  rcases List.mem_append.mp hline with first | last
  · rw [List.mem_cons, List.mem_singleton] at first
    rcases first with rfl | rfl
    · rw [String.toList_append]
      exact .append (by decide) (isPlain_repr _)
    · rw [String.toList_append]
      exact .append (by decide) (by cases gate.verdict <;> decide)
  · split at last
    · cases last
    · obtain rfl := List.mem_singleton.mp last
      rw [String.toList_append, String.toList_intercalate]
      refine .append (by decide) (isPlain_intercalate comma fun name hname => ?_)
      obtain ⟨script, hscript, rfl⟩ := List.mem_map.mp hname
      obtain ⟨report, failed, rfl⟩ := List.mem_map.mp hscript
      exact isPlain_of_isName (named report (List.mem_filter.mp failed).1)

/-! ## What is printed -/

namespace Console

open Markup

theorem Markup.settles_of_isPlain {s : String} (h : IsPlain s.toList) :
    Settles IsWhole s.toList {} :=
  settles_plain State.isSettled_empty h.shows

/-- A plain text in a style of the program, between a plain text and whatever can be read. -/
theorem Markup.settles_between {state : State} (h : state.IsSettled IsWhole) {name text : String}
    {front rest : List Char} (known : name ∈ Style.names) (plainFront : IsPlain front)
    (plain : IsPlain text.toList)
    (goesOn : ∀ next : State, next.IsSettled IsWhole → Settles IsWhole rest next) :
    Settles IsWhole (front ++ (styled name text).toList ++ rest) state :=
  settles_styled h (Style.isName_of_mem known) ⟨plainFront.shows, plainFront.noBackslash⟩
    ⟨plain.shows, plain.noBackslash⟩ goesOn

theorem Markup.settles_styledAlone {name text : String} (known : name ∈ Style.names)
    (plain : IsPlain text.toList) : Settles IsWhole (styled name text).toList {} := by
  have empty : IsPlain [] := by decide
  have settles := settles_between State.isSettled_empty known empty plain
    fun next settled => settles_plain settled empty.shows
  rwa [List.nil_append, List.append_nil] at settles

theorem exists_showVerdicts {verdicts : List (String × Verdict)}
    (plain : ∀ pair ∈ verdicts, IsPlain pair.1.toList) :
    ∃ shown, showVerdicts verdicts = .ok shown := by
  refine Table.exists_render ?_ ?_
  · intro column hcolumn
    have plainTitles : ∀ column ∈ [Column.mk "Test" .left, ⟨"Outcome", .center⟩],
        IsPlain column.title.toList := by
      decide
    exact Markup.settles_of_isPlain (plainTitles column hcolumn)
  · intro row hrow cell hcell
    obtain ⟨⟨id, verdict⟩, hpair, rfl⟩ := List.mem_map.mp hrow
    rw [List.mem_cons, List.mem_singleton] at hcell
    rcases hcell with rfl | rfl
    · exact Markup.settles_of_isPlain (plain _ hpair)
    · cases verdict <;> exact Markup.settles_styledAlone (by decide) (by decide)

end Console

/-- The texts of a report that the program has not made are plain, and so are its findings. -/
structure Report.IsPlain (report : Report) : Prop where
  language : Console.IsPlain report.language.toList
  statuses : ∀ r ∈ report.results, Console.IsPlain r.statusLabel.toList
  findings : ∀ r ∈ report.results, ∀ finding ∈ r.findings, Console.IsPlain finding.format.toList

instance (report : Report) : Decidable report.IsPlain :=
  decidable_of_iff
    (Console.IsPlain report.language.toList ∧
      (∀ r ∈ report.results, Console.IsPlain r.statusLabel.toList) ∧
      ∀ r ∈ report.results, ∀ finding ∈ r.findings, Console.IsPlain finding.format.toList)
    ⟨fun ⟨language, statuses, findings⟩ => ⟨language, statuses, findings⟩,
      fun h => ⟨h.language, h.statuses, h.findings⟩⟩

namespace Console

open Markup

variable {report : Report}

theorem Markup.settles_reportHeading (named : Checked.isName report.scriptName)
    (language : IsPlain report.language.toList) :
    Settles IsWhole (reportHeading report).toList {} := by
  have parts : (reportHeading report).toList =
      "\n".toList ++ (styled "bold" report.scriptName).toList ++
        ((" (".toList ++ report.language.toList ++ "): ".toList) ++
          (styled report.verdict.color report.verdict.heading).toList ++ []) := by
    simp [reportHeading, toString]
  have colored : report.verdict.color ∈ Style.names ∧ IsPlain report.verdict.heading.toList := by
    cases report.verdict <;> decide
  rw [parts]
  refine settles_between State.isSettled_empty (by decide) (by decide) (isPlain_of_isName named)
    fun next settled => ?_
  refine settles_between settled colored.1 (.append (.append (by decide) language) (by decide))
    colored.2 fun last settled => ?_
  exact settles_plain settled (IsPlain.shows (by decide))

theorem Markup.settles_findingLine {r : AnalysisResult} {line : String}
    (plain : ∀ finding ∈ r.findings, IsPlain finding.format.toList) (h : line ∈ findingLines r) :
    Settles IsWhole line.toList {} := by
  obtain ⟨finding, hfinding, rfl⟩ := List.mem_map.mp h
  have blank : IsPlain " ".toList := by decide
  rw [String.toList_append, String.toList_append, String.toList_append, List.append_assoc]
  refine settles_between State.isSettled_empty (by decide) (by decide) r.kind.isPlain_word
    fun next settled => ?_
  exact settles_plain settled (blank.append (plain finding hfinding)).shows

/-- A report on a script with a name that scripts can have is printed if its texts are plain. -/
theorem exists_showReport (named : Checked.isName report.scriptName) (plain : report.IsPlain) :
    ∃ shown, showReport report = .ok shown := by
  obtain ⟨heading, heads⟩ :=
    Markup.exists_print_of_settles (settles_reportHeading named plain.language)
  obtain ⟨table, lists⟩ : ∃ shown, (resultTable report.results).render = .ok shown := by
    refine Table.exists_render ?_ ?_
    · intro column hcolumn
      have plainTitles : ∀ column ∈ (resultTable report.results).columns,
          IsPlain column.title.toList := by
        simp only [resultTable]
        decide
      exact settles_of_isPlain (plainTitles column hcolumn)
    · intro row hrow cell hcell
      obtain ⟨r, hr, rfl⟩ := List.mem_map.mp hrow
      simp only [List.mem_cons, List.not_mem_nil, or_false] at hcell
      rcases hcell with rfl | rfl | rfl
      · exact settles_of_isPlain r.kind.isPlain_word
      · exact settles_styledAlone (by cases r.status <;> decide) (plain.statuses r hr)
      · exact settles_of_isPlain (isPlain_repr _)
  have each : ∀ line ∈ report.results.flatMap findingLines,
      ∃ shown, Markup.print line = .ok shown ∧ True := by
    intro line hline
    obtain ⟨r, hr, inside⟩ := List.mem_flatMap.mp hline
    obtain ⟨shown, prints⟩ :=
      Markup.exists_print_of_settles (settles_findingLine (plain.findings r hr) inside)
    exact ⟨shown, prints, trivial⟩
  obtain ⟨findings, tells, -⟩ := Result.exists_mapM_eq_ok each
  rw [showReport, heads, Result.ok_bind, lists, Result.ok_bind, tells]
  exact ⟨_, rfl⟩

end Console

end ScriptVet
