import ScriptVet.Proofs.Shell.Assignments
import ScriptVet.Proofs.Shell.Directives

/-!
# What a text has beyond its lines

Assignments and directives are meant to be matters of one line, but an index and the blanks behind a
word may go over line ends. A text differs from its lines, taken one by one, by the forms that
are wrapped alone: what they assign or switch on may stand in no line, and an assignment that begins
a line inside one of them is passed over.
-/

namespace ScriptVet.Shell

section

variable {text : List Char} {name : String}

/-- The line begins inside a wrapped assignment. -/
def BeginsInWrapped (before line after : List Char) : Prop :=
  ∃ found ∈ findAll assignment (before ++ (line ++ after)),
    found.Wraps (before ++ (line ++ after)) ∧
      (found.start ≤ before.length ∧ before.length < found.stop)

theorem mem_assignedNames_iff :
    name ∈ assignedNames text ↔
      ∃ found ∈ findAll assignment text, String.ofList found.part = name := by
  rw [assignedNames, mem_sortedSet, List.mem_map]

/-- A text assigns what its wrapped assignments assign, and what the lines assign that do not begin
inside one. -/
theorem mem_assignedNames_iff_lines :
    name ∈ assignedNames text ↔
      (∃ found ∈ findAll assignment text, found.Wraps text ∧ String.ofList found.part = name) ∨
      ∃ before line after, text = before ++ (line ++ after) ∧ IsLine before line after ∧
        ¬ BeginsInWrapped before line after ∧ name ∈ assignedNames line := by
  constructor
  · intro h
    obtain ⟨found, mem, rfl⟩ := mem_assignedNames_iff.mp h
    by_cases wraps : found.Wraps text
    · exact .inl ⟨found, mem, wraps, rfl⟩
    obtain ⟨before, line, after, rfl, isLine, covers, alone, memAlone, same⟩ :=
      assignmentForms.exists_line_of_found mem wraps
    refine .inr ⟨before, line, after, rfl, isLine, ?_, ?_⟩
    · -- Both forms cover the start of the line, so they are the same.
      rintro ⟨wrapped, memWrapped, wraps', covers'⟩
      rw [eq_of_covers memWrapped mem covers' covers] at wraps'
      exact wraps wraps'
    · exact mem_assignedNames_iff.mpr ⟨alone, memAlone, by rw [same]⟩
  · rintro (⟨found, mem, -, rfl⟩ | ⟨before, line, after, rfl, isLine, unwrapped, h⟩)
    · exact mem_assignedNames_iff.mpr ⟨found, mem, rfl⟩
    obtain ⟨alone, memAlone, rfl⟩ := mem_assignedNames_iff.mp h
    obtain ⟨form, here, rfl⟩ := (assignmentForms.mem_findAll_line_iff isLine.whole).mp memAlone
    have named : form.2 ≠ [] := by
      obtain ⟨-, -, -, -, -, -, ⟨isName, -⟩, -⟩ := assignment_eq_some_iff.mp here
      obtain ⟨c, tail, letters, -⟩ := exists_cons_of_isName isName
      rw [letters]
      exact List.cons_ne_nil c tail
    obtain ⟨found, mem, first, last, same | ⟨passed, blanks, front, more, behind, parts, rest,
      stands, ends⟩⟩ := assignmentForms.exists_found_of_line isLine here named
    · exact mem_assignedNames_iff.mpr ⟨found, mem, by rw [same]; rfl⟩
    · have wraps := stands.wraps_iff.mpr (List.mem_append_left more (List.mem_of_getLast? ends))
      refine absurd ⟨found, mem, ?_, first, last⟩ unwrapped
      rw [rest, parts]
      simpa only [List.append_assoc] using wraps

theorem assignedNames_eq_sortedSet_iff {names : List String} :
    assignedNames text = sortedSet names ↔ ∀ name, name ∈ assignedNames text ↔ name ∈ names := by
  constructor
  · intro same name
    rw [same, mem_sortedSet]
  · intro same
    refine sortedSet_congr fun name => ?_
    rw [← same, assignedNames, mem_sortedSet]

end

/-- A text assigns what its lines assign exactly if what a wrapped assignment assigns is assigned by
a line as well, and what a line assigns that begins inside a wrapped assignment, by the text. The
options and traps for errors that a line has, the text has; others it has where a directive is
wrapped. -/
theorem lineWise_iff (text : List Char) :
    (assignedNames text = sortedSet ((text.splitOn '\n').flatMap assignedNames) ↔
      (∀ found ∈ findAll assignment text, found.Wraps text →
        ∃ line ∈ text.splitOn '\n', String.ofList found.part ∈ assignedNames line) ∧
      ∀ before line after, text = before ++ (line ++ after) → IsLine before line after →
        BeginsInWrapped before line after →
          ∀ name ∈ assignedNames line, name ∈ assignedNames text) ∧
    (∀ option, hasOption option text ↔ (∃ line ∈ text.splitOn '\n', hasOption option line) ∨
      ∃ found ∈ findAll setCommand text, found.Wraps text ∧ switchesOn option found.part) ∧
    (hasErrorTrap text ↔ (∃ line ∈ text.splitOn '\n', hasErrorTrap line) ∨
      ∃ found ∈ findAll errorTrap text, found.Wraps text) := by
  refine ⟨?_, fun option => hasOption_iff, hasErrorTrap_iff⟩
  rw [assignedNames_eq_sortedSet_iff]
  simp only [List.mem_flatMap]
  constructor
  · intro same
    refine ⟨fun found mem _ => ?_, fun before line after parts isLine _ name h => ?_⟩
    · exact (same _).mp (mem_assignedNames_iff.mpr ⟨found, mem, rfl⟩)
    · exact (same name).mpr ⟨line, mem_splitOn_iff.mpr ⟨before, after, parts, isLine⟩, h⟩
  · rintro ⟨gained, kept⟩ name
    constructor
    · intro h
      rcases mem_assignedNames_iff_lines.mp h with
        ⟨found, mem, wraps, rfl⟩ | ⟨before, line, after, parts, isLine, -, h⟩
      · exact gained found mem wraps
      · exact ⟨line, mem_splitOn_iff.mpr ⟨before, after, parts, isLine⟩, h⟩
    · rintro ⟨line, isIn, h⟩
      obtain ⟨before, after, parts, isLine⟩ := mem_splitOn_iff.mp isIn
      by_cases inside : BeginsInWrapped before line after
      · exact kept before line after parts isLine inside name h
      · exact mem_assignedNames_iff_lines.mpr
          (.inr ⟨before, line, after, parts, isLine, inside, h⟩)

/-- An index over line ends assigns a variable that no line assigns and hides one that a line
assigns; `set` and `trap` take their arguments from the next line. -/
theorem lineWise_breaks :
    let indexed := "a[\nb=1\n]=2".toList
    let command := "set\n-e".toList
    let trap := "trap\nERR".toList
    assignedNames indexed ≠ sortedSet ((indexed.splitOn '\n').flatMap assignedNames) ∧
      ¬ (hasOption .errexit command ↔ ∃ line ∈ command.splitOn '\n', hasOption .errexit line) ∧
        ¬ (hasErrorTrap trap ↔ ∃ line ∈ trap.splitOn '\n', hasErrorTrap line) := by
  decide +kernel

end ScriptVet.Shell
