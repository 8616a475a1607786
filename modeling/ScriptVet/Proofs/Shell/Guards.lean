import ScriptVet.Proofs.Shell.Unguarded

/-!
# Guards at the end of a text

A line with a guard can be put behind a text for every variable that is advised on. Such lines
assign nothing and do not lengthen what the text ends in, so they change no assignment and no first
reference; and the variables that were advised on are guarded then.
-/

namespace ScriptVet.Shell

/-! ## Assignments before other text -/

section

variable {recognise : Recogniser} {behind : List Char}

/-- Text in which nothing is recognised, and which never makes a difference to what is recognised
before it, leaves a search as it is. -/
theorem findFrom_append (none : ∀ before rest, rest <:+ behind → recognise before rest = .none)
    (same : ∀ before cs, recognise before (cs ++ behind) = recognise before cs)
    (fits : ∀ {before cs form}, recognise before cs = some form → form.1 ≤ cs.length)
    {offset skip : Nat} {before : Option Char} {text : List Char} (short : skip ≤ text.length) :
    findFrom recognise offset skip before (text ++ behind) =
      findFrom recognise offset skip before text := by
  induction text generalizing offset skip before with
  | nil =>
      cases Nat.le_zero.mp short
      rw [List.nil_append, findFrom, List.eq_nil_iff_forall_not_mem]
      intro found mem
      obtain ⟨passed, rest, form, rfl, here, -⟩ := exists_of_mem_findFrom mem
      rw [none _ rest (List.suffix_append passed rest)] at here
      cases here
  | cons c text ih =>
      cases skip with
      | succ skip => exact ih (Nat.le_of_succ_le_succ short)
      | zero =>
          have here := same before (c :: text)
          rw [List.cons_append] at here
          rw [List.cons_append, findFrom, findFrom, here]
          cases form : recognise before (c :: text) with
          | none => exact ih (Nat.zero_le _)
          | some form =>
              have size := fits ‹_›
              rw [List.length_cons] at size
              exact congrArg _ (ih (by omega))

end

section

variable {text behind : List Char} (free : '=' ∉ behind)

include free

/-- Whether an assignment stands somewhere is decided before text without equals signs. -/
theorem assignment_append (before : Option Char) (cs : List Char) :
    assignment before (cs ++ behind) = assignment before cs := by
  ext form
  rw [assignment_eq_some_iff, assignment_eq_some_iff]
  refine and_congr_right fun _ => ⟨?_, ?_⟩
  · rintro ⟨blanks, content, rest, same, blank, isAssignment, size⟩
    rw [← List.append_assoc] at same
    have ends : (blanks ++ content).getLast? = some '=' := by
      obtain ⟨c, tail, begins, -⟩ := isAssignment.exists_start
      rw [List.getLast?_append_of_ne_nil _ (by rw [begins]; exact List.cons_ne_nil c tail)]
      exact isAssignment.getLast?
    obtain ⟨more, rfl, -⟩ := exists_append_of_getLast? same ends free
    exact ⟨blanks, content, more, List.append_assoc _ _ _, blank, isAssignment, size⟩
  · rintro ⟨blanks, content, rest, rfl, blank, isAssignment, size⟩
    exact ⟨blanks, content, rest ++ behind, by simp, blank, isAssignment, size⟩

/-- Text without equals signs changes no assignment in the text before it. -/
theorem assignedNames_append : assignedNames (text ++ behind) = assignedNames text := by
  have found : findAll assignment (text ++ behind) = findAll assignment text := by
    refine findFrom_append (fun before rest suffix => ?_) (assignment_append free)
      (fun {before cs form} here => ?_) (Nat.zero_le _)
    · exact assignment_eq_none (fun mem => free (suffix.subset mem)) before
    · obtain ⟨-, blanks, content, rest, rfl, -, -, size⟩ := assignment_eq_some_iff.mp here
      simp only [List.length_append]
      omega
  rw [assignedNames, found, assignedNames]

end

/-! ## References before other lines -/

section

variable {name : String} {text behind : List Char}

/-- Lines behind a text complete no reference that the text ends in. -/
theorem refersTo_append (ends : AtLineEnd behind) :
    RefersTo name (text ++ behind) ↔ RefersTo name text := by
  refine and_congr_right fun isName => exists_congr fun sign => and_congr_right fun mem => ?_
  have feed : isNameChar '\n' = false := by decide
  constructor
  · rintro ⟨rest, same, stops⟩
    have whole : '\n' ∉ sign ++ name.toList := by
      refine List.not_mem_append ?_ (notMem_of_isName isName (by decide))
      exact (by decide : ∀ sign ∈ referenceSigns, '\n' ∉ sign) sign mem
    rw [← List.append_assoc] at same
    obtain ⟨more, rfl, rfl⟩ := exists_append_of_atLineEnd same whole ends
    exact ⟨more, List.append_assoc _ _ _, (stops_append_iff feed ends).mp stops⟩
  · rintro ⟨rest, rfl, stops⟩
    exact ⟨rest ++ behind, by simp only [List.append_assoc], (stops_append_iff feed ends).mpr stops⟩

/-- The first reference stays the first when lines come behind. -/
theorem IsFirstReference.append {passed : List Char} (h : IsFirstReference name text passed)
    (ends : AtLineEnd behind) : IsFirstReference name (text ++ behind) passed := by
  obtain ⟨rest, same, refers⟩ := h.refers
  refine ⟨⟨rest ++ behind, by rw [same, List.append_assoc], (refersTo_append ends).mpr refers⟩,
    fun earlier rest' same' refers' => ?_⟩
  rcases List.append_eq_append_iff.mp same' with ⟨more, rfl, -⟩ | ⟨more, inside, rfl⟩
  · rw [same, List.length_append, List.length_append]
    omega
  · exact h.first earlier more inside ((refersTo_append ends).mp refers')

/-- References on later lines to variables that the text refers to are not the first. -/
theorem isFirstReference_append (ends : AtLineEnd behind)
    (known : ∀ name rest, rest <:+ behind → RefersTo name rest →
      ∃ passed, IsFirstReference name text passed) {passed : List Char} :
    IsFirstReference name (text ++ behind) passed ↔ IsFirstReference name text passed := by
  refine ⟨fun h => ?_, fun h => h.append ends⟩
  obtain ⟨first, h'⟩ : ∃ first, IsFirstReference name text first := by
    obtain ⟨rest, same, refers⟩ := h.refers
    -- What the later lines refer to, the text refers to before them.
    rcases List.append_eq_append_iff.mp same with ⟨more, rfl, rfl⟩ | ⟨more, rfl, rfl⟩
    · exact known name rest (List.suffix_append more rest) refers
    · exact exists_isFirstReference rfl ((refersTo_append ends).mp refers)
  rwa [h.unique (h'.append ends)]

theorem references_append (ends : AtLineEnd behind)
    (known : ∀ name rest, rest <:+ behind → RefersTo name rest →
      ∃ passed, IsFirstReference name text passed) :
    references (text ++ behind) = references text := by
  refine eq_of_mem_iff Prod.fst pairwise_references pairwise_references ?_
  rintro ⟨name, line⟩
  simp only [mem_references_iff, isFirstReference_append ends known]

end

/-! ## Guards -/

/-- A line that guards the variable of a name and does nothing else. -/
def guardLine (name : String) : List Char :=
  "\n: $\x7b".toList ++ (name.toList ++ ":?\x7d".toList)

/-- The text with a guard behind it for every variable that is advised on. -/
def withGuards (ignored : List String) (text : List Char) : List Char :=
  text ++ (unguarded ignored text).flatMap fun use => guardLine use.1

theorem isGuarded_guardLine (name : String) : isGuarded name.toList (guardLine name) := by
  refine isGuarded_iff.mpr
    ⟨"\n: ".toList, '$' :: '\x7b' :: (name.toList ++ ":?\x7d".toList), rfl, ?_⟩
  exact guardsAt_iff.mpr ⟨":?\x7d".toList, rfl, rfl⟩

section

variable {names : List String} {name : String}

theorem atLineEnd_guardLines : AtLineEnd (names.flatMap guardLine) := by
  cases names with
  | nil => exact stops_nil
  | cons name names => exact stops_cons.mpr rfl

theorem equals_notMem_guardLines (isName : ∀ name ∈ names, IsName name) :
    '=' ∉ names.flatMap guardLine := by
  rw [List.mem_flatMap]
  rintro ⟨name, mem, there⟩
  rcases List.mem_append.mp there with sign | there
  · exact absurd sign (by decide)
  rcases List.mem_append.mp there with letter | guard
  · exact notMem_of_isName (isName name mem) (by decide) letter
  · exact absurd guard (by decide)

/-- A guard refers to the guarded variable alone. -/
theorem eq_of_refersTo_guardLine {guarded : String} (isGuardedName : IsName guarded)
    {rest : List Char} (suffix : rest <:+ guardLine guarded) (refers : RefersTo name rest) :
    name = guarded := by
  obtain ⟨passed, same⟩ := suffix
  obtain ⟨isName, sign, mem, behind, rfl, stops⟩ := refers
  obtain ⟨tail, rfl, -⟩ := exists_dollar mem
  -- A guard has one dollar.
  have inside : tail ++ (name.toList ++ behind) =
      '\x7b' :: (guarded.toList ++ ":?\x7d".toList) := by
    have notBefore : '$' ∉ "\n: ".toList := by decide
    have notBehind : '$' ∉ '\x7b' :: (guarded.toList ++ ":?\x7d".toList) := by
      refine List.not_mem_cons_of_ne_of_not_mem (by decide) (List.not_mem_append ?_ (by decide))
      exact notMem_of_isName isGuardedName (by decide)
    exact ((List.append_cons_inj_of_notMem notBefore notBehind).mp same.symm).2.2.symm
  have unmarked {name : String} (isName : IsName name) (cs : List Char) :
      dropMark (name.toList ++ cs) = name.toList ++ cs :=
    dropMark_append cs (by rwa [String.ofList_toList])
  rcases List.mem_cons.mp mem with plain | braced
  · obtain ⟨c, letters, spelled, start, -⟩ := isName
    rw [(List.cons.inj plain).2, spelled] at inside
    rw [(List.cons.inj inside).1] at start
    cases start
  · obtain ⟨mark, sign, marked⟩ := exists_mark braced
    rw [(List.cons.inj sign).2, List.cons_append] at inside
    have inside := congrArg dropMark (List.cons.inj inside).2
    rw [marked _ (unmarked isName behind), unmarked isGuardedName] at inside
    exact eq_of_isName_append isName isGuardedName stops (stops_cons.mpr (by decide)) inside

/-- Guards refer to the guarded variables alone. -/
theorem mem_of_refersTo_guardLines (isName : ∀ name ∈ names, IsName name) {rest : List Char}
    (suffix : rest <:+ names.flatMap guardLine) (refers : RefersTo name rest) : name ∈ names := by
  induction names with
  | nil =>
      obtain ⟨-, sign, mem, behind, rfl, -⟩ := refers
      obtain ⟨tail, rfl, -⟩ := exists_dollar mem
      simp at suffix
  | cons first names ih =>
      have isName := List.forall_mem_cons.mp isName
      obtain ⟨passed, same⟩ := suffix
      rw [List.flatMap_cons] at same
      rcases List.append_eq_append_iff.mp same with ⟨more, line, rfl⟩ | ⟨more, rfl, lines⟩
      · have refers := (refersTo_append atLineEnd_guardLines).mp refers
        rw [eq_of_refersTo_guardLine isName.1 ⟨passed, line.symm⟩ refers]
        exact List.mem_cons_self
      · exact List.mem_cons_of_mem _ (ih isName.2 ⟨more, lines.symm⟩)

end

section

variable (ignored : List String) (text : List Char)

/-- With guards behind it for the variables that are advised on, a text assigns and refers to the
same variables, and none is advised on any more. -/
theorem guarding_clears :
    assignedNames (withGuards ignored text) = assignedNames text ∧
      references (withGuards ignored text) = references text ∧
        unguarded ignored (withGuards ignored text) = [] := by
  have lines : (unguarded ignored text).flatMap (fun use => guardLine use.1) =
      ((unguarded ignored text).map Prod.fst).flatMap guardLine := by
    rw [List.flatMap_map]
  have referred {name : String} (mem : name ∈ (unguarded ignored text).map Prod.fst) :
      ∃ passed, IsFirstReference name text passed :=
    mem_map_references_iff.mp (mem_map_unguarded_iff.mp mem).1
  have isName : ∀ name ∈ (unguarded ignored text).map Prod.fst, IsName name := by
    intro name mem
    obtain ⟨passed, first⟩ := referred mem
    exact first.isName
  have assigned : assignedNames (withGuards ignored text) = assignedNames text := by
    rw [withGuards, lines]
    exact assignedNames_append (equals_notMem_guardLines isName)
  have refers : references (withGuards ignored text) = references text := by
    rw [withGuards, lines]
    refine references_append atLineEnd_guardLines fun name rest suffix refers => ?_
    exact referred (mem_of_refersTo_guardLines isName suffix refers)
  refine ⟨assigned, refers, ?_⟩
  rw [← List.map_eq_nil_iff (f := Prod.fst), List.eq_nil_iff_forall_not_mem]
  intro name advised
  obtain ⟨mem, unassigned, unignored, unguarded⟩ := mem_map_unguarded_iff.mp advised
  rw [refers] at mem
  rw [assigned] at unassigned
  by_cases guarded : isGuarded name.toList text
  · exact unguarded (isGuarded_mono (List.prefix_append text _).isInfix guarded)
  · have advised := mem_map_unguarded_iff.mpr ⟨mem, unassigned, unignored, guarded⟩
    refine unguarded (isGuarded_mono ?_ (isGuarded_guardLine name))
    rw [withGuards, lines, List.flatMap_def]
    exact (List.infix_of_mem_flatten (List.mem_map_of_mem advised)).trans
      (List.suffix_append text _).isInfix

end

end ScriptVet.Shell
