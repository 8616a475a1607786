import ScriptVet.Proofs.ResultData
import ScriptVet.Proofs.Session.ToolChecks
import ScriptVet.Proofs.Tools.CopyPaths
import ScriptVet.Proofs.Text.Replace

/-!
# What a parse check comes to

Whatever a parser writes, a parse check is meant to come to a result: the script passes if the
parser has ended with zero, and otherwise there is one error with the parser's message and perhaps a
place. The place is what can go wrong, because it is taken from the message: a line or a column may
have more digits than are converted, and a column of zero is none that a place can have. Then the
check breaks off. A column is not looked at where its line lies before the script.
-/

namespace ScriptVet

namespace ParseCheck

/-- What a parse check should come to when the parser has ended with a code. -/
def IsVerdict (kind : AnalyzerKind) (code : Int) (result : Result AnalysisResult) : Prop :=
  ∃ r, result = .ok r ∧ r.kind = kind ∧
    (code = 0 → r.status = .pass ∧ r.findings = []) ∧
    (code ≠ 0 → r.status = .fail ∧ ∃ message place,
      r.findings = [finding message place] ∧ message ≠ "" ∧
        ∀ p, place = some p → 1 ≤ p.line.val ∧ ∀ c, p.column = some c → 1 ≤ c.val)

/-- The line that a message names has no more digits than are converted. If it lies in the script,
the same is true of the column, and that is not zero. -/
def IsCountable (message : List Char) (linesBefore : Int) : Prop :=
  ∀ line column?, findNumerals none message = some (line, column?) →
    line.length ≤ numeralLimit ∧
      (linesBefore < Text.numeral line → ∀ column, column? = some column →
        column.length ≤ numeralLimit ∧ 0 < Text.numeral column)

/-- A numeral that is found after a text stands there. -/
theorem eq_append_of_numeralAfter? {start : String} {cs digits rest : List Char}
    (found : numeralAfter? start cs = some (digits, rest)) :
    cs = start.toList ++ (digits ++ rest) := by
  rw [numeralAfter?, Option.bind_eq_bind, Option.bind_eq_some_iff] at found
  obtain ⟨tail, begins, found⟩ := found
  rw [Text.dropStart?_eq_some_iff] at begins
  rw [List.span_eq_takeWhile_dropWhile] at found
  simp only [List.isEmpty_iff, Option.ite_none_left_eq_some, Option.some.injEq,
    Prod.mk.injEq] at found
  obtain ⟨-, rfl, rfl⟩ := found
  rw [List.takeWhile_append_dropWhile, begins]

/-- The numerals that are found stand in the message, the column behind the line. -/
theorem infix_of_findNumerals {before : Option Char} {message line : List Char}
    {column? : Option (List Char)} (found : findNumerals before message = some (line, column?)) :
    "line ".toList ++ line <:+: message ∧ ∀ column, column? = some column →
      "line ".toList ++ (line ++ (", column ".toList ++ column)) <:+: message := by
  induction message generalizing before with
  | nil => cases found
  | cons c rest ih =>
      rw [findNumerals] at found
      split at found
      · next line' after here =>
        obtain ⟨rfl, rfl⟩ := Prod.mk.inj (Option.some.inj found)
        split at here
        · cases here
        · rw [eq_append_of_numeralAfter? here]
          refine ⟨⟨[], after, by simp⟩, fun column named => ?_⟩
          obtain ⟨⟨column', tail⟩, behind, rfl⟩ := Option.map_eq_some_iff.mp named
          rw [eq_append_of_numeralAfter? behind]
          exact ⟨[], tail, by simp⟩
      · obtain ⟨lineFound, columnFound⟩ := ih found
        exact ⟨lineFound.trans (List.infix_cons (List.infix_refl rest)), fun column named =>
          (columnFound column named).trans (List.infix_cons (List.infix_refl rest))⟩

/-- A short message that names no column is countable, as messages of shells are. -/
theorem isCountable_of_notInfix {message : List Char} (short : message.length ≤ numeralLimit)
    (noColumn : ¬ ", column ".toList <:+: message) (linesBefore : Int) :
    IsCountable message linesBefore := by
  intro line column? found
  obtain ⟨named, behind⟩ := infix_of_findNumerals found
  constructor
  · have inside := named.length_le
    rw [List.length_append] at inside
    omega
  · rintro - column rfl
    have there : ", column ".toList <:+:
        "line ".toList ++ (line ++ (", column ".toList ++ column)) :=
      ⟨"line ".toList ++ line, column, by simp⟩
    exact absurd (there.trans (behind column rfl)) noColumn

theorem number_of_le {digits : List Char} (short : digits.length ≤ numeralLimit) :
    number digits = .ok (Text.numeral digits) :=
  if_neg (Nat.not_lt.mpr short)

theorem number_of_lt {digits : List Char} (long : numeralLimit < digits.length) :
    number digits = .error (.json (.numeralTooLong digits.length)) :=
  if_pos long

/-- A column is one that a place can have if it can be converted and is not zero. -/
theorem exists_column_iff {digits : List Char} :
    (∃ c, column digits = .ok c) ↔ digits.length ≤ numeralLimit ∧ 0 < Text.numeral digits := by
  by_cases short : digits.length ≤ numeralLimit
  · rw [column, number_of_le short, Result.ok_bind]
    by_cases some : 0 < Text.numeral digits
    · refine iff_of_true ?_ ⟨short, some⟩
      have counts := Checked.positive_int ⟨Text.numeral digits, some⟩
      simp only at counts
      simp only [counts]
      exact ⟨_, rfl⟩
    · refine iff_of_false ?_ fun whole => some whole.2
      have zero : Text.numeral digits = 0 := Nat.eq_zero_of_not_pos some
      rw [zero]
      rintro ⟨c, ⟨⟩⟩
  · rw [column, number_of_lt (Nat.not_le.mp short)]
    exact iff_of_false (fun ⟨c, read⟩ => nomatch read) fun whole => short whole.1

/-- The one place that a message names decides whether it is countable. -/
theorem isCountable_iff {message line : List Char} {column? : Option (List Char)}
    (found : findNumerals none message = some (line, column?)) (linesBefore : Int) :
    IsCountable message linesBefore ↔ line.length ≤ numeralLimit ∧
      (linesBefore < Text.numeral line → ∀ column, column? = some column →
        column.length ≤ numeralLimit ∧ 0 < Text.numeral column) := by
  constructor
  · intro countable
    exact countable line column? found
  · intro whole line' column?' found'
    rw [found] at found'
    obtain ⟨rfl, rfl⟩ := Prod.mk.inj (Option.some.inj found')
    exact whole

/-- A place is taken from a message, or none, exactly if what it names is countable. -/
theorem exists_location_iff {message : List Char} {linesBefore : Int} :
    (∃ place, location message linesBefore = .ok place) ↔ IsCountable message linesBefore := by
  rw [location]
  cases found : findNumerals none message with
  | none =>
      refine iff_of_true ⟨none, rfl⟩ fun line column? found' => ?_
      rw [found] at found'
      cases found'
  | some numerals =>
      obtain ⟨line, column?⟩ := numerals
      rw [isCountable_iff found]
      simp only
      by_cases short : line.length ≤ numeralLimit
      · rw [number_of_le short, Result.ok_bind]
        by_cases inside : linesBefore < Text.numeral line
        · rw [dif_pos (by omega)]
          cases column? with
          | none => exact iff_of_true ⟨_, rfl⟩ ⟨short, fun _ => nofun⟩
          | some digits =>
              have counts : (∃ c, column digits = .ok c) ↔
                  digits.length ≤ numeralLimit ∧ 0 < Text.numeral digits := exists_column_iff
              simp only [short, inside, true_and, true_implies, Option.some.injEq, forall_eq',
                ← counts]
              change (∃ place, (column digits >>= fun c => pure (some c)) >>= _ = .ok place) ↔ _
              cases column digits with
              | error fault =>
                  exact iff_of_false (fun ⟨_, read⟩ => nomatch read) fun ⟨_, read⟩ => nomatch read
              | ok c => exact iff_of_true ⟨_, rfl⟩ ⟨c, rfl⟩
        · rw [dif_neg (by omega)]
          exact iff_of_true ⟨none, rfl⟩ ⟨short, fun h => absurd h inside⟩
      · rw [number_of_lt (Nat.not_le.mp short)]
        exact iff_of_false (fun ⟨place, read⟩ => nomatch read) fun whole => short whole.1

/-- Faults over what a number in a message is. -/
def IsNumberFault (fault : Fault) : Prop :=
  (∃ e, fault = .json e) ∨ ∃ problems account, fault = .invalid problems account

theorem number_error {digits : List Char} {fault : Fault} (failed : number digits = .error fault) :
    IsNumberFault fault := by
  rw [number] at failed
  split at failed
  · exact .inl ⟨_, (Except.error.inj failed).symm⟩
  · cases failed

theorem column_error {digits : List Char} {fault : Fault} (failed : column digits = .error fault) :
    IsNumberFault fault := by
  rw [column] at failed
  rcases Result.bind_eq_error.mp failed with unread | ⟨n, -, refused⟩
  · exact number_error unread
  · simp only at refused
    cases counts : Checked.positive (.int n) with
    | ok c =>
        rw [counts] at refused
        cases refused
    | error problems =>
        rw [counts] at refused
        exact .inr ⟨_, _, (Except.error.inj refused).symm⟩

/-- Only numbers break the search for a place off. -/
theorem location_error {message : List Char} {linesBefore : Int} {fault : Fault}
    (failed : location message linesBefore = .error fault) : IsNumberFault fault := by
  rw [location] at failed
  cases found : findNumerals none message with
  | none =>
      rw [found] at failed
      cases failed
  | some numerals =>
      rw [found] at failed
      rcases Result.bind_eq_error.mp failed with unread | ⟨n, -, failed⟩
      · exact number_error unread
      · simp only at failed
        split at failed
        · rcases Result.bind_eq_error.mp failed with refused | ⟨_, -, ⟨⟩⟩
          cases columns : numerals.2 with
          | none =>
              rw [columns] at refused
              cases refused
          | some digits =>
              rw [columns] at refused
              rcases Result.bind_eq_error.mp refused with refused | ⟨_, -, ⟨⟩⟩
              exact column_error refused
        · cases failed

/-- The message of a parser that has failed, where the script goes by the name of its file. -/
def message (scriptPath scriptFile stdout stderr : String) (code : Int) : String :=
  Text.replaceAll scriptPath scriptFile (failureMessage stdout stderr code)

theorem failureMessage_ne_empty (stdout stderr : String) (code : Int) :
    failureMessage stdout stderr code ≠ "" := by
  rw [failureMessage]
  by_cases err : Text.strip stderr = ""
  · by_cases out : Text.strip stdout = ""
    · simp [err, out]
    · simp [err, out]
  · simp [err]

/-- Replacing a part by something leaves something. -/
theorem message_ne_empty {scriptPath scriptFile : String} (named : scriptFile ≠ "")
    (stdout stderr : String) (code : Int) :
    message scriptPath scriptFile stdout stderr code ≠ "" := by
  have told := failureMessage_ne_empty stdout stderr code
  by_cases empty : scriptPath = ""
  · rw [message, empty, Text.replaceAll_empty]
    exact told
  · have path : scriptPath.toList ≠ [] := fun h => empty (String.toList_eq_nil_iff.mp h)
    have file : scriptFile.toList ≠ [] := fun h => named (String.toList_eq_nil_iff.mp h)
    intro nothing
    have replaced := congrArg String.toList nothing
    rw [message, Text.toList_replaceAll path] at replaced
    have none := (Text.replaceFrom_eq_nil_iff path file _).mp replaced
    exact told (String.toList_eq_nil_iff.mp none)

/-- A verdict is drawn exactly if the parser has succeeded or its message is countable, and then it
is what it should be. -/
theorem isVerdict_verdict {scriptPath scriptFile : String} (named : scriptFile ≠ "")
    (kind : AnalyzerKind) (linesBefore : Int) (stdout stderr : String) (code : Int) :
    let countable :=
      IsCountable (message scriptPath scriptFile stdout stderr code).toList linesBefore
    let drawn := verdict kind scriptPath scriptFile linesBefore stdout stderr code
    (code = 0 ∨ countable → IsVerdict kind code drawn) ∧
      (¬ (code = 0 ∨ countable) → ∃ fault, drawn = .error fault ∧ IsNumberFault fault) := by
  intro countable drawn
  by_cases ended : code = 0
  · have passed : drawn = .ok (.ofFindings kind [] []) := if_pos ended
    refine ⟨fun _ => ⟨_, passed, rfl, fun _ => ⟨rfl, rfl⟩, fun failed => absurd ended failed⟩, ?_⟩
    exact fun not => absurd (.inl ended) not
  · have failed : drawn =
        (location (message scriptPath scriptFile stdout stderr code).toList linesBefore >>=
          fun place => .ok (.ofFindings kind
            [finding (message scriptPath scriptFile stdout stderr code) place] [])) :=
      if_neg ended
    have places : (∃ place, location (message scriptPath scriptFile stdout stderr code).toList
        linesBefore = .ok place) ↔ countable := exists_location_iff
    constructor
    · rintro (zero | counts)
      · exact absurd zero ended
      · obtain ⟨place, found⟩ := places.mpr counts
        rw [found, Result.ok_bind] at failed
        refine ⟨_, failed, rfl, fun zero => absurd zero ended,
          fun _ => ⟨rfl, _, place, rfl, ?_, ?_⟩⟩
        · exact message_ne_empty named stdout stderr code
        · exact fun p _ => ⟨p.line.property, fun c _ => c.property⟩
    · intro not
      cases found : location (message scriptPath scriptFile stdout stderr code).toList
          linesBefore with
      | ok place => exact absurd (.inr (places.mp ⟨place, found⟩)) not
      | error fault =>
          rw [found] at failed
          exact ⟨fault, failed, location_error found⟩

end ParseCheck

namespace Analyzer

open Activity Session

/-- The lines that a parse check puts before a script. -/
def prologueOf : AnalyzerKind → String
  | .strictMode => strictPrologue
  | _ => ""

/-- The parser is there, and ends in its time with an output and an exit code. -/
structure ParserEnds (settings : Settings) (kind : AnalyzerKind) (tool : String) (script : Script)
    (m : Machine) (stdout stderr : List UInt8) (code : Int) : Prop where
  parses : kind = .parses ∨ kind = .strictMode
  hands : handedTo? script.language kind = some tool
  temporary : (m.disk.ensureFolders settings.tempDir).isOk
  ends : ∃ executable, Work.executableOf settings tool m.toolbox = .ok executable ∧
    m.toolbox.respond ((ToolCheck.ofKind settings m.temporaryMark script kind tool).command
      settings executable) = .finished stdout stderr code
  time : ∀ n ∈ (settings.tool tool).timeout, 0 ≤ n ∧ Work.isEndless n = false

/-- The message of the parser about the copy that it was handed. -/
def parserMessage (settings : Settings) (kind : AnalyzerKind) (tool : String) (script : Script)
    (m : Machine) (stdout stderr : List UInt8) (code : Int) : String :=
  let copy := (ToolCheck.ofKind settings m.temporaryMark script kind tool).copy
  ParseCheck.message copy.path.toString copy.fileName (Text.Utf8.decodeLossy stdout)
    (Text.Utf8.decodeLossy stderr) code

/-- A parse check that has the machine to itself. -/
theorem run_parseCheck_fst (prologue : String) (settings : Settings) (kind : AnalyzerKind)
    (toolFor : Language → Option String) (script : Script) (m : Machine) :
    ((parseCheck prologue settings kind toolFor script).run m).1 =
      parseCheckOutcome prologue settings (view settings m) kind toolFor script :=
  (ensures_run
    (ensures_parseCheck (Machine.lasting_true settings) trivial prologue kind toolFor script)).2

/-- Faults over numbers are no reason to take a script for one that does not parse. -/
theorem orFailed_of_isNumberFault {failure : Fault → AnalysisResult} {fault : Fault}
    (number : ParseCheck.IsNumberFault fault) :
    orFailed failure (.error fault) = .error fault := by
  rcases number with ⟨e, rfl⟩ | ⟨problems, account, rfl⟩ <;> rfl

section

variable {settings : Settings} {kind : AnalyzerKind} {tool : String} {script : Script} {m : Machine}
  {stdout stderr : List UInt8} {code : Int}

/-- What comes of a parse check is the verdict on what the parser wrote. -/
theorem run_check_of_parserEnds (h : ParserEnds settings kind tool script m stdout stderr code) :
    (((builtin settings kind).check script).run m).1 =
      let check := ToolCheck.ofKind settings m.temporaryMark script kind tool
      orFailed check.failure
        (ParseCheck.verdict kind check.copy.path.toString check.copy.fileName
          (Text.lineFeeds (prologueOf kind).toList) (Text.Utf8.decodeLossy stdout)
          (Text.Utf8.decodeLossy stderr) code) := by
  obtain ⟨executable, found, ended⟩ := h.ends
  have said := Work.answer_of_finished ended h.time
  have temporary := temporary_view_eq_ok_iff.mpr h.temporary
  have parses (prologue : String) (kind : AnalyzerKind) (toolFor : Language → Option String)
      (hands : toolFor script.language = some tool)
      (said : Work.answer m.toolbox
        ((ToolCheck.parse prologue settings m.temporaryMark kind tool script).command settings
          executable) (settings.tool tool).timeout =
        .ok ⟨Text.Utf8.decodeLossy stdout, Text.Utf8.decodeLossy stderr, code⟩) :
      ((parseCheck prologue settings kind toolFor script).run m).1 =
        let check := ToolCheck.parse prologue settings m.temporaryMark kind tool script
        orFailed check.failure
          (ParseCheck.verdict kind check.copy.path.toString check.copy.fileName
            (Text.lineFeeds prologue.toList) (Text.Utf8.decodeLossy stdout)
            (Text.Utf8.decodeLossy stderr) code) := by
    rw [run_parseCheck_fst, parseCheckOutcome, hands]
    simp only [parseOutcome, copyOutcome, temporary, Result.ok_bind, ScriptCopy.answer]
    rw [view, found, Result.ok_bind]
    exact congrArg (orFailed _ <| · >>= _) said
  rcases h.parses with rfl | rfl
  · exact parses "" .parses Language.interpreter? h.hands said
  · exact parses strictPrologue .strictMode (onlyBash "bash") h.hands said

theorem fileName_ne_empty (h : ParserEnds settings kind tool script m stdout stderr code) :
    (ToolCheck.ofKind settings m.temporaryMark script kind tool).copy.fileName ≠ "" := by
  rcases h.parses with rfl | rfl <;> exact (ScriptCopy.isStepName_fileName script.language).empty

/-- What the message of the parser names can be converted. -/
def CanPlace (settings : Settings) (kind : AnalyzerKind) (tool : String) (script : Script)
    (m : Machine) (stdout stderr : List UInt8) (code : Int) : Prop :=
  ParseCheck.IsCountable (parserMessage settings kind tool script m stdout stderr code).toList
    (Text.lineFeeds (prologueOf kind).toList)

/-- A check breaks off where the message of a parser that has failed names what cannot be
converted. -/
theorem exists_fault_of_not_canPlace
    (h : ParserEnds settings kind tool script m stdout stderr code) (failed : code ≠ 0)
    (not : ¬ CanPlace settings kind tool script m stdout stderr code) :
    ∃ fault, (((builtin settings kind).check script).run m).1 = .error fault := by
  obtain ⟨fault, same, number⟩ := (ParseCheck.isVerdict_verdict (fileName_ne_empty h) kind
    (Text.lineFeeds (prologueOf kind).toList) (Text.Utf8.decodeLossy stdout)
    (Text.Utf8.decodeLossy stderr) code).2 (not_or.mpr ⟨failed, not⟩)
  have comes := run_check_of_parserEnds h
  simp only [same, orFailed_of_isNumberFault number] at comes
  exact ⟨fault, comes⟩

/-- A parse check comes to what it should exactly if the parser has succeeded or what its message
names can be converted; otherwise it breaks off. -/
theorem isVerdict_check_iff (h : ParserEnds settings kind tool script m stdout stderr code) :
    let result := (((builtin settings kind).check script).run m).1
    (ParseCheck.IsVerdict kind code result ↔
      code = 0 ∨ CanPlace settings kind tool script m stdout stderr code) ∧
    (¬ ParseCheck.IsVerdict kind code result ↔ ∃ fault, result = .error fault) := by
  intro result
  have verdict : code = 0 ∨ CanPlace settings kind tool script m stdout stderr code →
      ParseCheck.IsVerdict kind code result := by
    intro counts
    obtain ⟨r, same, rest⟩ := (ParseCheck.isVerdict_verdict (fileName_ne_empty h) kind
      (Text.lineFeeds (prologueOf kind).toList) (Text.Utf8.decodeLossy stdout)
      (Text.Utf8.decodeLossy stderr) code).1 counts
    have comes : result = _ := run_check_of_parserEnds h
    simp only [same] at comes
    exact ⟨r, comes, rest⟩
  have broken : (∃ fault, result = .error fault) → ¬ ParseCheck.IsVerdict kind code result := by
    rintro ⟨fault, failed⟩ ⟨r, given, -⟩
    rw [failed] at given
    cases given
  have breaks : ¬ (code = 0 ∨ CanPlace settings kind tool script m stdout stderr code) →
      ∃ fault, result = .error fault := by
    rw [not_or]
    rintro ⟨failed, not⟩
    exact exists_fault_of_not_canPlace h failed not
  refine ⟨⟨fun sound => ?_, verdict⟩, fun unsound => breaks fun counts => unsound (verdict counts),
    broken⟩
  by_contra not
  exact broken (breaks not) sound

end

/-- Every parser is there where everything is installed. -/
theorem parserEnds_answering {kind : AnalyzerKind} {tool : String} {script : Script}
    (parses : kind = .parses ∨ kind = .strictMode)
    (hands : handedTo? script.language kind = some tool) (stdout stderr : List UInt8) (code : Int) :
    ParserEnds .atRoot kind tool script (.answering (.finished stdout stderr code)) stdout stderr
      code := by
  have listed : tool ∈ ["bash", "python3", "pwsh"] := by
    rcases parses with rfl | rfl
    · cases language : script.language <;> rw [language] at hands <;> cases hands <;> decide
    · rw [eq_of_onlyBash hands]
      decide
  have installed : ∀ name ∈ ["bash", "python3", "pwsh"],
      Work.executableOf .atRoot name (Machine.answering (.finished stdout stderr code)).toolbox =
          .ok ("/bin/" ++ name) ∧
        ∀ n ∈ (Settings.atRoot.tool name).timeout, 0 ≤ n ∧ Work.isEndless n = false := by
    simp only [List.forall_mem_cons]
    exact ⟨⟨rfl, by decide⟩, ⟨rfl, by decide⟩, ⟨rfl, by decide⟩, nofun⟩
  obtain ⟨found, time⟩ := installed tool listed
  refine ⟨parses, hands, ?_, ⟨_, found, rfl⟩, time⟩
  change ((Disk.empty []).ensureFolders ⟨1, ["tmp"]⟩).isOk
  decide +kernel

/-- Behind the lines of strict mode an error in the first line of a script is told as one in the
fourth. -/
theorem isVerdict_check_of_bash :
    let script : Script := ⟨"s", .bash, none, "fi", [], true⟩
    let stderr := Text.Utf8.encodeString "line 4, column 2: x"
    let m := Machine.answering (.finished [] stderr 2)
    ParserEnds .atRoot .strictMode "bash" script m [] stderr 2 ∧
      ParseCheck.IsVerdict .strictMode 2
        (((builtin .atRoot .strictMode).check script).run m).1 := by
  intro script stderr m
  have ends : ParserEnds .atRoot .strictMode "bash" script m [] stderr 2 :=
    parserEnds_answering (.inr rfl) rfl [] stderr 2
  refine ⟨ends, (isVerdict_check_iff ends).1.mpr (.inr ?_)⟩
  have message : (parserMessage .atRoot .strictMode "bash" script m [] stderr 2).toList =
      "line 4, column 2: x".toList := by
    decide +kernel
  have found : ParseCheck.findNumerals none "line 4, column 2: x".toList =
      some (['4'], some ['2']) := by
    decide +kernel
  rw [CanPlace, message, ParseCheck.isCountable_iff found]
  refine ⟨by decide, fun _ column named => ?_⟩
  obtain rfl := Option.some.inj named
  exact ⟨by decide, by decide⟩

/-- A column of zero makes a parse check break off. -/
theorem check_breaks_at_column_zero :
    let script : Script := ⟨"s", .bash, none, "fi", [], true⟩
    let stderr := Text.Utf8.encodeString "line 1, column 0: x"
    let m := Machine.answering (.finished [] stderr 1)
    let result := (((builtin .atRoot .parses).check script).run m).1
    ParserEnds .atRoot .parses "bash" script m [] stderr 1 ∧
      (∃ fault, result = .error fault) ∧ ¬ ParseCheck.IsVerdict .parses 1 result := by
  intro script stderr m result
  have ends : ParserEnds .atRoot .parses "bash" script m [] stderr 1 :=
    parserEnds_answering (.inl rfl) rfl [] stderr 1
  have message : (parserMessage .atRoot .parses "bash" script m [] stderr 1).toList =
      "line 1, column 0: x".toList := by
    decide +kernel
  have found : ParseCheck.findNumerals none "line 1, column 0: x".toList =
      some (['1'], some ['0']) := by
    decide +kernel
  have zero : ¬ CanPlace .atRoot .parses "bash" script m [] stderr 1 := by
    rw [CanPlace, message, ParseCheck.isCountable_iff found]
    rintro ⟨-, columns⟩
    exact absurd (columns (by decide) _ rfl).2 (by decide)
  obtain ⟨fault, breaks⟩ : ∃ fault, result = .error fault :=
    exists_fault_of_not_canPlace ends (by decide) zero
  refine ⟨ends, ⟨fault, breaks⟩, ?_⟩
  rintro ⟨r, given, -⟩
  rw [breaks] at given
  cases given

end Analyzer

end ScriptVet
