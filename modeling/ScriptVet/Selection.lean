import ScriptVet.AnalyzerKind
import ScriptVet.Checked.Decode

/-!
# Selecting analyzers

A selection says of some kinds whether they are switched on. It can be made for a language, from
what the caller asks for and what the caller switches off, or it can be given as it is. The parse
check is switched on whatever the flags say. But flags can be left out, and a selection without
flags switches nothing on, not even the parse check.
-/

namespace ScriptVet

/-- Which kinds are switched on or off; a kind that is not mentioned is off. -/
structure Selection where
  flag : AnalyzerKind → Option Bool

namespace Selection

/-- A selection from any flags; the parse check is switched on. -/
def ofFlags (flag : AnalyzerKind → Option Bool) : Selection :=
  ⟨fun kind => if kind = .parses then some true else flag kind⟩

/-- The selection that mentions nothing. -/
def empty : Selection :=
  ⟨fun _ => none⟩

/-- A kind is switched on. -/
def isEnabled (selection : Selection) (kind : AnalyzerKind) : Bool :=
  (selection.flag kind).getD false

/-- The kinds that are switched on and apply to a language, in the order of reports. -/
def kindsFor (selection : Selection) (language : Language) : List AnalyzerKind :=
  AnalyzerKind.all.filter fun kind => selection.isEnabled kind && kind.appliesTo language

/-- The kinds that the caller wants: those asked for, or all that apply, without those switched
off. -/
def wanted (language : Language) (requested? : Option (List AnalyzerKind))
    (disabled : List AnalyzerKind) (kind : AnalyzerKind) : Bool :=
  (requested?.elim (kind.appliesTo language) (·.contains kind)) && !disabled.contains kind

/-- The wanted kinds that do not apply to the language. -/
def inapplicable (language : Language) (requested? : Option (List AnalyzerKind))
    (disabled : List AnalyzerKind) : List AnalyzerKind :=
  AnalyzerKind.all.filter fun kind =>
    wanted language requested? disabled kind && !kind.appliesTo language

/-- The selection for a script: the wanted kinds that apply to its language. -/
def forLanguage (language : Language) (requested? : Option (List AnalyzerKind))
    (disabled : List AnalyzerKind) : Selection :=
  ofFlags fun kind =>
    some (wanted language requested? disabled kind && kind.appliesTo language)

/-- What is switched on for a script when nothing is asked for. -/
def default (language : Language) : Selection :=
  forLanguage language none []

/-- The message about a wanted kind that does not apply. -/
def inapplicableMessage (language : Language) (kind : AnalyzerKind) : String :=
  s!"Analyzer {kind.word} does not apply to {language.word} scripts, ignoring"

/-- The flags of an object with the words of kinds as its keys. -/
def flagsOfJson (v : Json) : Checked (List (AnalyzerKind × Bool)) := do
  let fields ← Checked.object v
  Checked.all (fields.map fun (key, value) =>
    Checked.inside (.key key)
      (Checked.apply
        (Checked.apply (.ok Prod.mk)
          (Checked.inside (.key "[key]") (Checked.oneOf AnalyzerKind.words (.str key))))
        (Checked.bool value)))

/-- A selection given as it is, with flags under the key `enabled` or without any. -/
def ofJson (v : Json) : Checked Selection := do
  let fields ← Checked.recordFields "AnalyzerConfig" v
  Checked.withDefault fields "enabled" empty fun flags =>
    (flagsOfJson flags).map fun flags => ofFlags (flags.lookup ·)

@[simp] theorem isEnabled_empty (kind : AnalyzerKind) : empty.isEnabled kind = false := rfl

/-- The kinds are in the order of reports. -/
theorem pairwise_rank_kindsFor (selection : Selection) (language : Language) :
    (selection.kindsFor language).Pairwise fun a b => a.rank < b.rank :=
  AnalyzerKind.pairwise_rank_all.filter _

end Selection

end ScriptVet
