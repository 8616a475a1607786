import ScriptVet.Analysis.FunctionDeps
import ScriptVet.Analyzer.Parse
import ScriptVet.Proofs.Shell.Directives

/-!
# Lines that ask for strictness

A line `set -…` switches an option on wherever it is put into a text: a command that begins
earlier and takes the line for its arguments has the option then. A text with the three options of
strict mode gets no advice on strictness, so neither does a script behind the lines that switch
strict mode on.
-/

namespace ScriptVet.Shell

/-- A line that sets options. -/
def setLine (options : List Char) : List Char :=
  "set -".toList ++ options

section

variable {option : StrictOption} {before line after cluster rest x : List Char}

/-- A line of a text switches on for the text what it switches on alone. -/
theorem hasOption_of_line (isLine : IsLine before line after) (on : hasOption option line) :
    hasOption option (before ++ (line ++ after)) :=
  hasOption_iff.mpr (.inl ⟨line, mem_splitOn_iff.mpr ⟨before, after, rfl, isLine⟩, on⟩)

theorem isArgument_of_isAlpha {c : Char} (letter : c.isAlpha) : isArgument c := by
  rw [isArgument, Bool.and_eq_true, bne_iff_ne, bne_iff_ne]
  constructor <;> rintro rfl <;> exact absurd letter (by decide)

/-- A line with a cluster of letters has the options of the cluster. -/
theorem hasOption_setLine (letters : cluster.all Char.isAlpha) (stops : Stops Char.isAlpha rest)
    (arguments : rest.all isArgument)
    (holds : option.flag.any (hasFlag · cluster rest) ||
      hasLongName option.longName.toList cluster rest) :
    hasOption option (setLine (cluster ++ rest)) ∧ '\n' ∉ setLine (cluster ++ rest) := by
  have letters := List.all_eq_true.mp letters
  have inside : ∀ c ∈ '-' :: (cluster ++ rest), isArgument c := by
    rw [List.forall_mem_cons, List.forall_mem_append]
    exact ⟨rfl, fun c mem => isArgument_of_isAlpha (letters c mem), List.all_eq_true.mp arguments⟩
  have here : setCommand none (setLine (cluster ++ rest)) =
      some ((setLine (cluster ++ rest)).length, '-' :: (cluster ++ rest)) := by
    rw [setCommand_eq, directive_eq_some_iff setClass]
    exact ⟨rfl, [], setLine (cluster ++ rest), [], by simp, nofun,
      ⟨⟨[' '], rfl, List.cons_ne_nil _ _, List.forall_mem_singleton.mpr rfl⟩, inside,
        stops_cons.mpr rfl, stops_nil, rfl⟩, by simp⟩
  refine ⟨hasOption_iff_found.mpr ⟨_, mem_findAll_of_start (List.cons_ne_nil _ _) here, ?_⟩, ?_⟩
  · exact anyCluster_iff.mpr ⟨[], cluster, rest, rfl, rfl, letters, stops, holds⟩
  · intro mem
    rcases List.mem_append.mp (by exact mem : '\n' ∈ "set ".toList ++ '-' :: (cluster ++ rest)) with
      word | options
    · exact absurd word (by decide)
    · exact absurd (inside _ options) (by decide)

/-- A cluster of letters, and words behind it, switch an option on wherever they have a line. -/
theorem hasOption_of_setLine (begins : before = [] ∨ before.getLast? = some '\n')
    (letters : cluster.all Char.isAlpha) (stops : Stops Char.isAlpha rest)
    (arguments : rest.all isArgument)
    (holds : option.flag.any (hasFlag · cluster rest) ||
      hasLongName option.longName.toList cluster rest) :
    hasOption option (before ++ (setLine (cluster ++ rest) ++ '\n' :: after)) := by
  obtain ⟨on, whole⟩ := hasOption_setLine letters stops arguments holds
  exact hasOption_of_line ⟨by simpa [atLineStart] using begins, whole, stops_cons.mpr rfl⟩ on

/-- A cluster of letters has the flags that are among them. -/
theorem hasOption_of_flag {flag : Char} (begins : before = [] ∨ before.getLast? = some '\n')
    (flagged : option.flag = some flag) (letters : cluster.all Char.isAlpha)
    (mem : flag ∈ cluster) :
    hasOption option (before ++ (setLine cluster ++ '\n' :: after)) := by
  have on : hasOption option (before ++ (setLine (cluster ++ []) ++ '\n' :: after)) :=
    hasOption_of_setLine begins letters stops_nil rfl (by simp [flagged, hasFlag, mem])
  rwa [List.append_nil] at on

/-- Letters that end in `o` take the option that the next word names. -/
theorem hasOption_pipefail (begins : before = [] ∨ before.getLast? = some '\n')
    (letters : x.all Char.isAlpha) :
    hasOption .pipefail (before ++ (setLine (x ++ "o pipefail".toList) ++ '\n' :: after)) := by
  have same : x ++ "o pipefail".toList = x ++ ['o'] ++ " pipefail".toList := by simp
  have named : (skipSome? Text.isBlank " pipefail".toList).bind
      (Text.dropStart? "pipefail".toList) = some [] := by decide
  rw [same]
  refine hasOption_of_setLine begins ?_ (stops_cons.mpr (by decide)) (by decide) ?_
  · rw [List.all_append, letters]
    rfl
  · rw [hasLongName, StrictOption.pipefail, named]
    simp

end

end ScriptVet.Shell

namespace ScriptVet.FunctionDeps

open Shell Analyzer

section

variable {before : List Char}

/-- A text with the three options of strict mode gets no advice on strictness. -/
theorem strictnessFindings_eq_nil {text : List Char} (nounset : hasOption .nounset text)
    (errexit : hasOption .errexit text) (pipefail : hasOption .pipefail text) :
    strictnessFindings text = [] := by
  have unset : unsetFindings text = [] := by
    rw [unsetFindings]
    split
    · rw [if_pos nounset]
    · rfl
  have pipeline : pipelineFindings text = [] := by
    rw [pipelineFindings]
    split
    · rw [if_pos pipefail]
    · rfl
  rw [strictnessFindings, unset, pipeline, errorFindings, errexit]
  rfl

theorem strictnessFindings_strictLine (begins : before = [] ∨ before.getLast? = some '\n')
    (after : List Char) :
    strictnessFindings (before ++ ("set -euo pipefail".toList ++ '\n' :: after)) = [] := by
  have on {option : StrictOption} (holds :
      option.flag.any (hasFlag · "euo".toList " pipefail".toList) ||
        hasLongName option.longName.toList "euo".toList " pipefail".toList) :
      hasOption option
        (before ++ (setLine ("euo".toList ++ " pipefail".toList) ++ '\n' :: after)) :=
    hasOption_of_setLine begins (by decide) (stops_cons.mpr (by decide)) (by decide) holds
  exact strictnessFindings_eq_nil (on (by decide)) (on (by decide)) (on (by decide))

end

/-- A line `set -…` with an option of strict mode among its letters switches the option on for the
text that it is put into, whatever stands before and behind it. Hence no text with the line of
strict mode gets advice on strictness, and none that is put behind the lines that switch strict mode
on. -/
theorem strictLine_silences :
    (∀ before after : List Char, before = [] ∨ before.getLast? = some '\n' →
      (∀ x y : List Char, (∀ c ∈ x, c.isAlpha) → (∀ c ∈ y, c.isAlpha) →
        hasOption .errexit (before ++ (setLine (x ++ 'e' :: y) ++ '\n' :: after)) ∧
          hasOption .nounset (before ++ (setLine (x ++ 'u' :: y) ++ '\n' :: after)) ∧
          hasOption .pipefail (before ++ (setLine (x ++ "o pipefail".toList) ++ '\n' :: after))) ∧
      strictnessFindings (before ++ ("set -euo pipefail".toList ++ '\n' :: after)) = []) ∧
    ∀ after : List Char, strictnessFindings (strictPrologue.toList ++ after) = [] := by
  constructor
  · intro before after begins
    refine ⟨fun x y lettersX lettersY => ?_, strictnessFindings_strictLine begins after⟩
    have letters {c : Char} (letter : c.isAlpha) : (x ++ c :: y).all Char.isAlpha := by
      rw [List.all_eq_true, List.forall_mem_append, List.forall_mem_cons]
      exact ⟨lettersX, letter, lettersY⟩
    exact ⟨hasOption_of_flag begins rfl (letters rfl) (by simp),
      hasOption_of_flag begins rfl (letters rfl) (by simp),
      hasOption_pipefail begins (List.all_eq_true.mpr lettersX)⟩
  · intro after
    have prologue : strictPrologue.toList ++ after = "#!/usr/bin/env bash\n".toList ++
        ("set -euo pipefail".toList ++ '\n' :: '\n' :: after) := by
      simp [strictPrologue]
    rw [prologue]
    exact strictnessFindings_strictLine (.inr (by decide)) _

/-- A command `set` takes the line `set -xeu` behind it for its arguments. -/
theorem strictLine_silences_behind_set :
    let before := "set\n".toList
    hasOption .errexit (before ++ (setLine "xeu".toList ++ ['\n'])) ∧
      hasOption .pipefail (before ++ (setLine "xo pipefail".toList ++ ['\n'])) := by
  intro before
  obtain ⟨errexit, -, pipefail⟩ := (strictLine_silences.1 before [] (.inr (by decide))).1
    ['x'] ['u'] (List.forall_mem_singleton.mpr rfl) (List.forall_mem_singleton.mpr rfl)
  exact ⟨errexit, pipefail⟩

end ScriptVet.FunctionDeps
