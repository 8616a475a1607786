import ScriptVet.Analysis.FunctionDeps
import ScriptVet.Proofs.Shell.References

/-!
# Advice on variables without a value

The advice on strictness looks for the first reference of either kind only, the list of references
for all of them. They agree: there is advice on unset variables if the list has a name and nothing
makes unset variables errors, and it names the least of the lines in the list.
-/

namespace ScriptVet.Shell

/-! ## First lines -/

/-- Two lists have the same least number if each has a number at or below every one of the other. -/
theorem min?_eq_min? {list list' : List Nat} (below : ∀ n ∈ list, ∃ m ∈ list', m ≤ n)
    (below' : ∀ n ∈ list', ∃ m ∈ list, m ≤ n) : list.min? = list'.min? := by
  have least {list list' : List Nat} (below : ∀ n ∈ list, ∃ m ∈ list', m ≤ n)
      (below' : ∀ n ∈ list', ∃ m ∈ list, m ≤ n) {n : Nat} (first : list.min? = some n) :
      list'.min? = some n := by
    obtain ⟨mem, le⟩ := List.min?_eq_some_iff.mp first
    have above : ∀ m ∈ list', n ≤ m := fun m mem' => by
      obtain ⟨k, memK, leK⟩ := below' m mem'
      exact (le k memK).trans leK
    obtain ⟨m, mem', le'⟩ := below n mem
    obtain rfl := Nat.le_antisymm le' (above m mem')
    exact List.min?_eq_some_iff.mpr ⟨mem', above⟩
  ext n
  exact ⟨least below below', least below' below⟩

section

variable {recognise : Recogniser} {text : List Char}

theorem exists_of_firstLine? {line : Nat} (first : firstLine? recognise text = some line) :
    ∃ found ∈ findAll recognise text, found.lineIn text = line := by
  obtain ⟨found, head, same⟩ := Option.map_eq_some_iff.mp first
  exact ⟨found, List.mem_of_head? head, same⟩

/-- Forms are listed from left to right, so the first one is on the first line. -/
theorem firstLine?_le {found : Found} (mem : found ∈ findAll recognise text) :
    ∃ line, firstLine? recognise text = some line ∧ line ≤ found.lineIn text := by
  have ordered : (findAll recognise text).Pairwise fun first second =>
      first.stop ≤ second.start := pairwise_findFrom 0 0 none
  have proper : ∀ found ∈ findAll recognise text, found.start ≤ found.stop := by
    intro found mem
    obtain ⟨passed, rest, form, -, -, rfl⟩ := exists_of_mem_findAll mem
    exact Nat.le_add_right _ _
  rw [firstLine?]
  generalize findAll recognise text = all at mem ordered proper
  cases all with
  | nil => cases mem
  | cons first others =>
      refine ⟨_, rfl, ?_⟩
      rcases List.mem_cons.mp mem with rfl | later
      · exact le_rfl
      · exact Text.lineOf_mono text ((proper first List.mem_cons_self).trans
          ((List.pairwise_cons.mp ordered).1 found later))

/-- The first line of a name is the least of its lines. -/
theorem firstLineOf_isLeast {uses : List (String × Nat)} {name : String} {line : Nat}
    (mem : (name, line) ∈ uses) :
    (name, firstLineOf uses name) ∈ uses ∧ firstLineOf uses name ≤ line := by
  have there {line : Nat} : line ∈ (uses.filter (·.1 == name)).map (·.2) ↔ (name, line) ∈ uses := by
    simp
  obtain ⟨least, same⟩ := Option.isSome_iff_exists.mp (List.isSome_min?_of_mem (there.mpr mem))
  obtain ⟨mem', le⟩ := List.min?_eq_some_iff.mp same
  rw [firstLineOf, same, Option.getD_some]
  exact ⟨there.mp mem', le line (there.mpr mem)⟩

theorem mem_referenceLines_iff_found {use : String × Nat} :
    use ∈ referenceLines text ↔
      ∃ recognise ∈ [bracedReference, plainReference], ∃ found ∈ findAll recognise text,
        (String.ofList found.part, found.lineIn text) = use := by
  simp only [referenceLines, List.mem_map, List.mem_append, List.mem_cons, List.not_mem_nil,
    or_false, exists_eq_left, or_and_right, exists_or]

theorem mem_referenceLines_of_mem_references {name : String} {line : Nat}
    (mem : (name, line) ∈ references text) : (name, line) ∈ referenceLines text := by
  simp only [references, List.mem_map, mem_sortedSet, Prod.mk.injEq] at mem
  obtain ⟨name, ⟨⟨name', line'⟩, use, rfl⟩, rfl, rfl⟩ := mem
  exact (firstLineOf_isLeast use).1

theorem exists_mem_references {name : String} {line : Nat}
    (mem : (name, line) ∈ referenceLines text) :
    ∃ first, (name, first) ∈ references text ∧ first ≤ line := by
  refine ⟨firstLineOf (referenceLines text) name, ?_, (firstLineOf_isLeast mem).2⟩
  simp only [references, List.mem_map, mem_sortedSet]
  exact ⟨name, ⟨_, mem, rfl⟩, rfl⟩

end

end ScriptVet.Shell

namespace ScriptVet.FunctionDeps

open Shell

section

variable {text : List Char}

/-- The first references of both kinds and the list of all references lead to one line. -/
theorem firstReferenceLine?_eq (text : List Char) :
    firstReferenceLine? text = ((references text).map Prod.snd).min? := by
  refine min?_eq_min? (fun line first => ?_) fun line there => ?_
  · obtain ⟨recognise, kind, first⟩ := List.mem_filterMap.mp first
    obtain ⟨found, mem, rfl⟩ := exists_of_firstLine? first
    obtain ⟨least, there, le⟩ :=
      exists_mem_references (mem_referenceLines_iff_found.mpr ⟨recognise, kind, found, mem, rfl⟩)
    exact ⟨least, List.mem_map.mpr ⟨_, there, rfl⟩, le⟩
  · obtain ⟨⟨name, line⟩, listed, rfl⟩ := List.mem_map.mp there
    obtain ⟨recognise, kind, found, mem, same⟩ :=
      mem_referenceLines_iff_found.mp (mem_referenceLines_of_mem_references listed)
    obtain ⟨-, rfl⟩ := Prod.mk.inj same
    obtain ⟨first, here, le⟩ := firstLine?_le mem
    exact ⟨first, List.mem_filterMap.mpr ⟨recognise, kind, here⟩, le⟩

/-- Lines count from one. -/
theorem pos_of_firstReferenceLine? {line : Nat} (first : firstReferenceLine? text = some line) :
    0 < line := by
  obtain ⟨mem, -⟩ := List.min?_eq_some_iff.mp first
  obtain ⟨recognise, -, first⟩ := List.mem_filterMap.mp mem
  obtain ⟨found, -, rfl⟩ := exists_of_firstLine? first
  exact Text.one_le_lineOf text found.start

/-! ## The advice -/

/-- The message of the advice on unset variables. -/
abbrev unsetMessage : String := "Variables used without 'set -u' protection"

theorem mem_unsetFindings_iff {finding : Finding} :
    finding ∈ unsetFindings text ↔
      hasOption .nounset text = false ∧ ∃ line, firstReferenceLine? text = some line ∧
        finding = advice unsetMessage (some line) := by
  rw [unsetFindings]
  cases firstReferenceLine? text with
  | none => simp
  | some line => cases hasOption .nounset text <;> simp

/-- No other advice has the message of the advice on unset variables. -/
theorem mem_strictnessFindings_iff {finding : Finding} (message : finding.message = unsetMessage) :
    finding ∈ strictnessFindings text ↔ finding ∈ unsetFindings text := by
  have error : finding ∉ errorFindings text := by
    rw [errorFindings]
    split
    · exact List.not_mem_nil
    · rw [List.mem_singleton]
      rintro rfl
      exact absurd message (by decide)
  have pipeline : finding ∉ pipelineFindings text := by
    rw [pipelineFindings]
    split
    · split
      · exact List.not_mem_nil
      · have other : "Pipelines used without pipefail" ≠ unsetMessage := by decide
        rw [List.mem_singleton]
        rintro rfl
        exact other message
    · exact List.not_mem_nil
  simp [strictnessFindings, error, pipeline]

theorem exists_location_of_advice (message : String) {line : Nat} (pos : 0 < line) :
    ∃ place, (advice message (some line)).location = some place ∧ place.line.val = line := by
  refine ⟨{ line := ⟨line, pos⟩ }, ?_, rfl⟩
  rw [advice, Option.bind_some, dif_pos pos]

/-- There is advice on unset variables if the text refers to variables and does not ask for errors
about unset ones, and it names the least of the lines that references are listed with. -/
theorem unsetAdvice_exact (text : List Char) :
    ((∃ finding ∈ strictnessFindings text, finding.message = unsetMessage) ↔
      references text ≠ [] ∧ hasOption .nounset text = false) ∧
    ∀ finding ∈ strictnessFindings text, finding.message = unsetMessage →
      ∃ place, finding.location = some place ∧
        ((references text).map Prod.snd).min? = some place.line.val := by
  have nonempty : references text ≠ [] ↔ ∃ line, firstReferenceLine? text = some line := by
    rw [firstReferenceLine?_eq, ← Option.isSome_iff_exists, List.isSome_min?_iff, Ne, Ne,
      List.map_eq_nil_iff]
  constructor
  · rw [nonempty]
    constructor
    · rintro ⟨finding, mem, message⟩
      rw [mem_strictnessFindings_iff message, mem_unsetFindings_iff] at mem
      obtain ⟨off, line, first, -⟩ := mem
      exact ⟨⟨line, first⟩, off⟩
    · rintro ⟨⟨line, first⟩, off⟩
      refine ⟨advice unsetMessage (some line), ?_, rfl⟩
      exact (mem_strictnessFindings_iff rfl).mpr (mem_unsetFindings_iff.mpr ⟨off, line, first, rfl⟩)
  · intro finding mem message
    rw [mem_strictnessFindings_iff message, mem_unsetFindings_iff] at mem
    obtain ⟨-, line, first, rfl⟩ := mem
    obtain ⟨place, located, same⟩ :=
      exists_location_of_advice unsetMessage (pos_of_firstReferenceLine? first)
    exact ⟨place, located, by rw [← firstReferenceLine?_eq, first, same]⟩

/-- The variable that is listed first is used on the second line; the advice names the line of the
other one. -/
theorem unsetAdvice_exact_of_two_references :
    let text := "echo $b\n: $\x7ba\x7d\n".toList
    advice unsetMessage (some 1) ∈ strictnessFindings text ∧
      ((references text).map Prod.snd).min? = some 1 := by
  intro text
  have mem : advice unsetMessage (some 1) ∈ strictnessFindings text := by decide
  obtain ⟨place, located, least⟩ := (unsetAdvice_exact text).2 _ mem rfl
  obtain rfl : ({ line := ⟨1, Nat.one_pos⟩ } : Location) = place := Option.some.inj located
  exact ⟨mem, least⟩

end

end ScriptVet.FunctionDeps
