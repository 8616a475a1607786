import ScriptVet.Proofs.CommandLine.Commands
import ScriptVet.Proofs.Console.Markup
import ScriptVet.Proofs.Names
import ScriptVet.Proofs.Session.LoadFaults
import ScriptVet.Proofs.Text.Octets

/-!
# What the exit codes tell

Code two is meant for input that cannot be loaded, and code one for scripts that failed. But a fault
of the input gives code two only if it is one that the user is told about. Octets that are no UTF-8
are none, so a file that holds such octets looks as if its script had failed its check; the same
goes for a manifest that is nested too deep, and for an account of the problems that the console
cannot show. Conversely a command that is broken off after everything was loaded has code one too.
-/

namespace ScriptVet

namespace Descriptor

/-- The octets of a file are no text exactly if they are no UTF-8. -/
theorem readTextFile_eq_notText_iff {disk : Disk} {p : Path} :
    readTextFile disk p = .error .notText ↔
      ∃ content, disk.read p = .ok content ∧ Text.Utf8.decode? content = none := by
  rw [readTextFile]
  cases disk.read p with
  | error e => simp
  | ok content => cases decoded : Text.Utf8.decode? content <;> simp [decoded]

end Descriptor

namespace CommandLine

open Activity

/-! ## Which faults refuse a command -/

/-- The user is told about a fault if its message can be read behind the word in red. -/
theorem isRefusal_of_settles {fault : Fault} (told : isToldToUser fault)
    (message : ∀ next : Console.Markup.State, next.IsSettled (fun _ => True) →
      Console.Markup.Settles (fun _ => True) (' ' :: fault.message.toList) next) :
    IsRefusal fault := by
  refine isRefusal_iff.mpr ⟨told, Console.Markup.exists_line_of_settles (P := fun _ => True) ?_⟩
  have parts : ("[red]Error:[/red] " ++ fault.message).toList =
      [] ++ (styled "red" "Error:").toList ++ ' ' :: fault.message.toList := by
    simp [styled, toString]
  rw [parts]
  exact Console.Markup.settles_styled Console.Markup.State.isSettled_empty
    (Console.Style.isName_of_mem (by decide)) ⟨.any (by decide), by decide⟩
    ⟨.any (by decide), by decide⟩ message

/-- The fault of a script without text. -/
def emptyScript : Fault :=
  .invalid [⟨[.key "source_text"], .emptyText⟩]
    (Account.text "Script" (.obj [("source_text", .str "")])
      [⟨[.key "source_text"], .emptyText⟩])

/-- The account of an empty script, cut before what reads as a tag with parameters. -/
theorem toList_message_emptyScript : emptyScript.message.toList =
    "1 validation error for Script\nsource_text\n".toList ++
      "  String should have at least 1 character ".toList ++ '[' :: 't' ::
        ("ype=string_too_short, input_value='', input_type=str".toList ++ [']']) := by
  simp only [emptyScript, Fault.message, Account.text, Account.heading, Account.entry,
    Text.toList_phrase, List.flatMap_cons, List.map_cons, List.map_nil, List.flatMap_nil]
  decide +kernel

/-- The user is told about an empty script. The tag at the end of the account is not shown. -/
theorem isRefusal_emptyScript : IsRefusal emptyScript := by
  refine isRefusal_of_settles rfl fun next settled => ?_
  have normal : Console.Markup.normalName "type" = .ok "type" := by
    rw [Console.Markup.normalName, Console.Style.normalForm_of_word (by decide +kernel)
      (by decide +kernel) (by decide +kernel) (by decide +kernel) (by decide +kernel)]
    rfl
  have applied : Console.Style.check ("type" ++ " " ++
      String.ofList "string_too_short, input_value='', input_type=str".toList) = .ok () :=
    Console.Style.check_eq_ok (by decide +kernel)
  rw [toList_message_emptyScript, ← List.cons_append]
  exact Console.Markup.settles_opening settled ⟨.any (by decide +kernel), by decide +kernel⟩
    (by decide) (by decide +kernel) (by decide) (by decide +kernel) (by decide +kernel) normal
    applied

/-! ## The octets of the file that is checked -/

/-- What a text is described as under a name that a script can have. -/
theorem CheckRequest.descriptor_eq_ok {request : CheckRequest}
    (named : Checked.isName (textOr request.name request.file.stem)) (text : String) :
    request.descriptor text = .ok {
      name := textOr request.name request.file.stem
      language := textOr request.language (Language.guess request.file text).word
      source := .text text
      enabledAnalyzers := if request.enabled.isEmpty then none else some request.enabled
      disabledAnalyzers := request.disabled } := by
  simp only [CheckRequest.descriptor, Checked.name_eq_ok_iff.mpr ⟨rfl, named⟩]
  rfl

/-- The script in a file that has been read, under a name that a script can have. -/
theorem CheckRequest.load_of_text {request : CheckRequest} {disk : Disk} {text : String}
    (named : Checked.isName (textOr request.name request.file.stem))
    (read : Descriptor.readTextFile disk request.file = .ok text) :
    ∃ descriptor : Descriptor, descriptor.source = .text text ∧
      request.descriptor text = .ok descriptor ∧
      request.load disk =
        (descriptor.toScript disk none).map fun script => (script, descriptor.selection) := by
  have described := CheckRequest.descriptor_eq_ok named text
  refine ⟨_, rfl, described, ?_⟩
  rw [CheckRequest.load, read, Result.ok_bind, described, Result.ok_bind]
  cases Descriptor.toScript _ disk none <;> rfl

/-- What becomes of a file by its octets, if the script has a name that a script can have. -/
theorem CheckRequest.load_of_content {request : CheckRequest} {disk : Disk} {content : List UInt8}
    (named : Checked.isName (textOr request.name request.file.stem))
    (read : disk.read request.file = .ok content) :
    (Text.Utf8.decode? content = none → request.load disk = .error .notText) ∧
    (content = [] → request.load disk = .error emptyScript) ∧
    ∀ cs, Text.Utf8.decode? content = some cs → cs ≠ [] → (∀ c ∈ cs, Text.isHalf c = false) →
      ∃ loaded, request.load disk = .ok loaded := by
  refine ⟨fun undecodable => ?_, ?_, fun cs decoded some whole => ?_⟩
  · have notText := Descriptor.readTextFile_eq_notText_iff.mpr ⟨content, read, undecodable⟩
    rw [CheckRequest.load, notText, Result.error_bind]
  · rintro rfl
    have text : Descriptor.readTextFile disk request.file = .ok "" := by
      rw [Descriptor.readTextFile, read]
      rfl
    obtain ⟨descriptor, source, -, load⟩ := load_of_text named text
    rw [load, Descriptor.toScript, Descriptor.readText, source]
    rfl
  · have text : Descriptor.readTextFile disk request.file =
        .ok (String.ofList (Text.readNewlines cs)) := by
      rw [Descriptor.readTextFile, read]
      simp only [decoded]
    obtain ⟨descriptor, source, -, load⟩ := load_of_text named text
    have someText : String.ofList (Text.readNewlines cs) ≠ "" := fun empty =>
      Text.readNewlines_ne_nil some (by simpa using congrArg String.toList empty)
    rw [load, Descriptor.toScript, Descriptor.readText, source, Result.ok_bind,
      Descriptor.withText,
      Checked.someText_eq_ok_iff.mpr ⟨Text.holdsHalf_readNewlines whole, someText, rfl⟩]
    exact ⟨_, rfl⟩

/-! ## The first fault of a manifest and its scripts -/

/-- The first fault of what the command is given: in the manifest, or else in the scripts that it
lists, which are loaded when the session has begun. -/
def BuildRequest.inputFault? (request : BuildRequest) (settings : Settings) (m : Machine) :
    Option Fault :=
  match Manifest.load m.disk request.manifest with
  | .error fault => some fault
  | .ok descriptors =>
    match Session.start (request.adjust settings)
      (Session.builtinAnalyzers (request.adjust settings)) m with
    | .error _ => none
    | .ok s => Session.loadFault? descriptors s.machine.disk (some request.manifest.parent)

/-- There is none exactly if the manifest can be read and lists scripts of different names all of
which can be loaded, unless the session cannot begin. -/
theorem BuildRequest.inputFault?_eq_none_iff {request : BuildRequest} {settings : Settings}
    {m : Machine} :
    request.inputFault? settings m = none ↔
      ∃ descriptors, Manifest.load m.disk request.manifest = .ok descriptors ∧
        ∀ s, Session.start (request.adjust settings)
            (Session.builtinAnalyzers (request.adjust settings)) m = .ok s →
          (descriptors.map (·.name)).Nodup ∧ ∀ d ∈ descriptors,
            ∃ script, d.toScript s.machine.disk (some request.manifest.parent) = .ok script := by
  rw [inputFault?]
  cases Manifest.load m.disk request.manifest with
  | error fault => simp
  | ok descriptors =>
      cases Session.start (request.adjust settings)
        (Session.builtinAnalyzers (request.adjust settings)) m with
      | error fault => simp
      | ok s => simp [Session.loadFault?_eq_none_iff]

theorem exitCode_check_eq_two_iff {request : CheckRequest} {settings : Settings} {m : Machine} :
    (check request settings).exitCode m = 2 ↔
      ∃ fault, request.load m.disk = .error fault ∧ IsRefusal fault := by
  rw [exitCode_check]
  cases request.load m.disk with
  | error fault => by_cases refuses : IsRefusal fault <;> simp [refuses]
  | ok loaded =>
      rcases ran : ((request.report settings loaded).run m).1 with fault | ⟨report, stdout⟩
      · simp [ran]
      · cases passed : report.passed <;> simp [ran, passed]

theorem exitCode_check_eq_one_iff {request : CheckRequest} {settings : Settings} {m : Machine} :
    (check request settings).exitCode m = 1 ↔
      (∃ fault, request.load m.disk = .error fault ∧ ¬ IsRefusal fault) ∨
      ∃ loaded, request.load m.disk = .ok loaded ∧
        ((∃ fault, ((request.report settings loaded).run m).1 = .error fault) ∨
          ∃ report stdout, ((request.report settings loaded).run m).1 = .ok (report, stdout) ∧
            report.verdict = .fail) := by
  rw [exitCode_check]
  cases request.load m.disk with
  | error fault => by_cases refuses : IsRefusal fault <;> simp [refuses]
  | ok loaded =>
      rcases ran : ((request.report settings loaded).run m).1 with fault | ⟨report, stdout⟩
      · simp [ran]
      · cases passed : report.passed <;> simp [ran, ← Report.passed_eq_false_iff, passed]

/-- The exit code for a file by its octets, as long as no script is analyzed. -/
theorem exitCode_check_of_content {request : CheckRequest} {settings : Settings} {m : Machine}
    {content : List UInt8} (named : Checked.isName (textOr request.name request.file.stem))
    (read : m.disk.read request.file = .ok content) :
    (Text.Utf8.decode? content = none → (check request settings).exitCode m = 1) ∧
    (content = [] → (check request settings).exitCode m = 2) := by
  obtain ⟨octets, empty, -⟩ := CheckRequest.load_of_content named read
  refine ⟨fun undecodable => ?_, fun none => ?_⟩
  · exact exitCode_check_eq_one_iff.mpr (.inl ⟨.notText, octets undecodable, by decide⟩)
  · exact exitCode_check_eq_two_iff.mpr ⟨emptyScript, empty none, isRefusal_emptyScript⟩

end CommandLine

end ScriptVet
