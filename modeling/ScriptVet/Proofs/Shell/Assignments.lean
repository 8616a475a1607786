import ScriptVet.Proofs.Shell.Found
import ScriptVet.Proofs.Shell.Lines

/-!
# The form of an assignment

An assignment begins a line, perhaps behind blanks, and ends in its sign: a name, perhaps declared,
perhaps with an index between brackets. Whether one stands at a place does not depend on what
follows its sign.
-/

namespace ScriptVet.Shell

open Text (isBlank)

/-! ## The parts of an assignment -/

/-- Options, each followed by blanks. -/
inductive AreOptions : List Char → Prop
  | none : AreOptions []
  | more {letters gap options : List Char} (some : letters ≠ []) (all : ∀ c ∈ letters, c.isAlpha)
      (isGap : IsGap gap) (areOptions : AreOptions options) :
      AreOptions ('-' :: (letters ++ (gap ++ options)))

/-- What may stand before an assigned name: nothing, or a declaring word and options. -/
inductive IsDeclaration : List Char → Prop
  | none : IsDeclaration []
  | word {word gap options : List Char} (mem : word ∈ declaringWords) (isGap : IsGap gap)
      (areOptions : AreOptions options) : IsDeclaration (word ++ (gap ++ options))

/-- What may stand behind an assigned name: nothing, or an index between brackets. -/
inductive IsIndex : List Char → Prop
  | none : IsIndex []
  | index {inside : List Char} (closed : ']' ∉ inside) : IsIndex ('[' :: (inside ++ [']']))

/-- The signs of assignments. -/
def assignSigns : List (List Char) := [['='], ['+', '=']]

/-- An assignment to the variable of a name, from its first word to its sign. -/
def IsAssignment (content name : List Char) : Prop :=
  IsName (String.ofList name) ∧ ∃ declaration index, ∃ sign ∈ assignSigns,
    content = declaration ++ (name ++ (index ++ sign)) ∧ IsDeclaration declaration ∧ IsIndex index

/-! ## Reading the parts -/

section

variable {cs rest : List Char}

/-- A name stops every run of characters that begin no name. -/
theorem stops_name {name : List Char} (rest : List Char) {inClass : Char → Bool}
    (isName : IsName (String.ofList name)) (apart : ∀ c, isNameStart c → inClass c = false) :
    Stops inClass (name ++ rest) := by
  obtain ⟨c, tail, rfl, start⟩ := exists_cons_of_isName isName
  rw [List.cons_append, stops_cons]
  exact apart c start

theorem isBlank_of_isNameStart (c : Char) (start : isNameStart c) : isBlank c = false :=
  isBlank_of_isNameChar (isNameChar_of_isNameStart start)

theorem isNameStart_of_isAlpha {c : Char} (letter : c.isAlpha) : isNameStart c := by
  simp [isNameStart, letter]

/-- One option and the blanks behind it. -/
theorem skipOption_eq_some_iff :
    ((Text.dropStart? ['-'] cs).bind (skipSome? Char.isAlpha)).bind (skipSome? isBlank) =
        some rest ↔
      ∃ letters gap, letters ≠ [] ∧ (∀ c ∈ letters, c.isAlpha) ∧ IsGap gap ∧
        cs = '-' :: (letters ++ (gap ++ rest)) ∧ Stops isBlank rest := by
  simp only [Option.bind_eq_some_iff, Text.dropStart?_eq_some_iff, skipSome?_eq_some_iff]
  constructor
  · rintro ⟨_, ⟨_, rfl, letters, some, all, rfl, -⟩, gap, some', all', rfl, stops⟩
    exact ⟨letters, gap, some, all, ⟨some', all'⟩, rfl, stops⟩
  · rintro ⟨letters, gap, some, all, isGap, rfl, stops⟩
    refine ⟨gap ++ rest, ⟨_, rfl, letters, some, all, rfl, ?_⟩, gap, isGap.1, isGap.2, rfl, stops⟩
    exact isGap.stops rest fun c letter => isBlank_of_isNameStart c (isNameStart_of_isAlpha letter)

theorem exists_of_skipOptions (fuel : Nat) :
    ∃ options, AreOptions options ∧ cs = options ++ skipOptions fuel cs := by
  induction fuel generalizing cs with
  | zero => exact ⟨[], .none, rfl⟩
  | succ fuel ih =>
      rw [skipOptions]
      split
      · exact ⟨[], .none, rfl⟩
      · next rest one =>
        obtain ⟨letters, gap, some, all, isGap, rfl, -⟩ := skipOption_eq_some_iff.mp one
        obtain ⟨options, areOptions, same⟩ := @ih rest
        refine ⟨_, .more some all isGap areOptions, ?_⟩
        rw [List.cons_append, List.append_assoc, List.append_assoc, ← same]

theorem skipOptions_append {options : List Char} (areOptions : AreOptions options)
    (solid : Stops isBlank rest) (plain : Stops (· == '-') rest) {fuel : Nat}
    (enough : options.length ≤ fuel) : skipOptions fuel (options ++ rest) = rest := by
  induction areOptions generalizing fuel with
  | none =>
      cases fuel with
      | zero => rfl
      | succ fuel =>
          rw [List.nil_append, skipOptions]
          split
          · rfl
          · next one =>
            obtain ⟨_, _, _, _, _, rfl, _⟩ := skipOption_eq_some_iff.mp one
            cases stops_cons.mp plain
  | @more letters gap options some all isGap areOptions ih =>
      cases fuel with
      | zero => cases enough
      | succ fuel =>
          have stops : Stops isBlank (options ++ rest) := by
            cases areOptions with
            | none => exact solid
            | more => exact stops_cons.mpr (by decide)
          have one := skipOption_eq_some_iff.mpr ⟨letters, gap, some, all, isGap, rfl, stops⟩
          have shorter : options.length ≤ fuel := by
            simp only [List.length_cons, List.length_append] at enough
            omega
          have same : '-' :: (letters ++ (gap ++ options)) ++ rest =
              '-' :: (letters ++ (gap ++ (options ++ rest))) := by
            simp only [List.cons_append, List.append_assoc]
          rw [same, skipOptions, one]
          exact ih shorter

theorem spanName?_declaringWord :
    ∀ word ∈ declaringWords, spanName? word = some (word, []) := by
  decide

/-- A declaring word and its options are passed to get to the name. -/
theorem assignedName?_word {word gap options name : List Char} (mem : word ∈ declaringWords)
    (isGap : IsGap gap) (areOptions : AreOptions options) (isName : IsName (String.ofList name)) :
    assignedName? (word ++ (gap ++ (options ++ (name ++ rest)))) = spanName? (name ++ rest) := by
  have solid : Stops isBlank (name ++ rest) := stops_name rest isName isBlank_of_isNameStart
  have noOption : Stops (· == '-') (name ++ rest) := by
    refine stops_name rest isName fun c start => ?_
    rw [beq_eq_false_iff_ne]
    rintro rfl
    exact absurd start (by decide)
  have inner : Stops isBlank (options ++ (name ++ rest)) := by
    cases areOptions with
    | none => exact solid
    | more => exact stops_cons.mpr (by decide)
  have named : spanName? (word ++ (gap ++ (options ++ (name ++ rest)))) =
      some (word, gap ++ (options ++ (name ++ rest))) :=
    spanName?_eq_some_iff.mpr ⟨rfl, isName_of_spanName? (spanName?_declaringWord word mem),
      isGap.stops _ fun c => isBlank_of_isNameChar⟩
  have skipped : skipSome? isBlank (gap ++ (options ++ (name ++ rest))) =
      some (options ++ (name ++ rest)) :=
    skipSome?_eq_some_iff.mpr ⟨gap, isGap.1, isGap.2, rfl, inner⟩
  have passed : skipOptions (options ++ (name ++ rest)).length (options ++ (name ++ rest)) =
      name ++ rest := by
    refine skipOptions_append areOptions solid noOption ?_
    rw [List.length_append]
    exact Nat.le_add_right _ _
  rw [assignedName?, named]
  simp only [Option.bind_eq_bind, Option.bind_some, skipped, List.contains_iff_mem.mpr mem,
    if_true]
  rw [passed]

theorem assignedName?_eq_some_iff {name : List Char} (solid : Stops isBlank rest) :
    assignedName? cs = some (name, rest) ↔
      ∃ declaration, IsDeclaration declaration ∧ cs = declaration ++ (name ++ rest) ∧
        IsName (String.ofList name) ∧ Stops isNameChar rest := by
  constructor
  · intro h
    obtain ⟨⟨first, after⟩, spanned, left⟩ := Option.bind_eq_some_iff.mp h
    dsimp only at left
    split at left
    · cases left
      exact ⟨[], .none, spanName?_eq_some_iff.mp spanned⟩
    · next inner skipped =>
      split at left
      · next mem =>
        obtain ⟨gap, some, all, rfl, -⟩ := skipSome?_eq_some_iff.mp skipped
        obtain ⟨rfl, -, -⟩ := spanName?_eq_some_iff.mp spanned
        obtain ⟨options, areOptions, same⟩ := @exists_of_skipOptions inner inner.length
        obtain ⟨named, isName, stops⟩ := spanName?_eq_some_iff.mp left
        refine ⟨_, .word (List.contains_iff_mem.mp mem) ⟨some, all⟩ areOptions, ?_, isName, stops⟩
        rw [List.append_assoc, List.append_assoc, ← named, ← same]
      · cases left
  · rintro ⟨declaration, isDeclaration, rfl, isName, stops⟩
    have named := spanName?_eq_some_iff.mpr ⟨rfl, isName, stops⟩
    cases isDeclaration with
    | none =>
        rw [List.nil_append, assignedName?, named]
        simp only [Option.bind_eq_bind, Option.bind_some, skipSome?_eq_none_iff.mpr solid]
    | @word word gap options mem isGap areOptions =>
        rw [List.append_assoc, List.append_assoc, assignedName?_word mem isGap areOptions isName,
          named]

theorem skipIndex_eq_some_iff :
    skipIndex cs = some rest ↔
      ∃ index, IsIndex index ∧ cs = index ++ rest ∧ (index = [] → Stops (· == '[') rest) := by
  constructor
  · intro h
    rw [skipIndex.eq_def] at h
    split at h
    · next inner =>
      obtain ⟨inside, after, rfl, all, stops⟩ := exists_run (· != ']') inner
      rw [dropWhile_run all stops, Text.dropStart?_eq_some_iff] at h
      have closed : ']' ∉ inside := fun mem => absurd (all _ mem) (by decide)
      exact ⟨_, .index closed, by rw [h]; simp, fun none => absurd none (List.cons_ne_nil _ _)⟩
    · next other =>
      cases h
      refine ⟨[], .none, rfl, fun _ c head => ?_⟩
      rw [beq_eq_false_iff_ne]
      rintro rfl
      obtain ⟨inner, same⟩ := List.head?_eq_some_iff.mp head
      exact other inner same
  · rintro ⟨index, isIndex, rfl, stops⟩
    cases isIndex with
    | none =>
        rw [List.nil_append, skipIndex.eq_def]
        split
        · cases stops_cons.mp (stops rfl)
        · rfl
    | @index inside closed =>
        have all : ∀ c ∈ inside, (c != ']') = true := fun c mem => by
          rw [bne_iff_ne]
          rintro rfl
          exact closed mem
        have dropped : (inside ++ ']' :: rest).dropWhile (· != ']') = ']' :: rest :=
          dropWhile_run all (stops_cons.mpr rfl)
        rw [List.cons_append, List.append_assoc, List.singleton_append, skipIndex, dropped]
        exact Text.dropStart?_eq_some_iff.mpr rfl

theorem skipAssign_eq_some_iff :
    skipAssign cs = some rest ↔ ∃ sign ∈ assignSigns, cs = sign ++ rest := by
  simp only [assignSigns, List.mem_cons, List.not_mem_nil, or_false, exists_eq_or_imp,
    exists_eq_left]
  constructor
  · intro h
    rw [skipAssign.eq_def] at h
    split at h
    · cases h
      exact .inr rfl
    · cases h
      exact .inl rfl
    · cases h
  · rintro (rfl | rfl) <;> rfl

/-- What follows the name of an assignment stops names and blanks. -/
theorem stops_sign {index sign : List Char} (rest : List Char) (isIndex : IsIndex index)
    (mem : sign ∈ assignSigns) {inClass : Char → Bool}
    (apart : ['[', '=', '+'].any inClass = false) :
    Stops inClass (index ++ (sign ++ rest)) := by
  simp only [List.any_cons, List.any_nil, Bool.or_eq_false_iff] at apart
  obtain ⟨bracket, equals, plus, -⟩ := apart
  cases isIndex with
  | none =>
      simp only [assignSigns, List.mem_cons, List.not_mem_nil, or_false] at mem
      rcases mem with rfl | rfl
      · exact stops_cons.mpr equals
      · exact stops_cons.mpr plus
  | index => exact stops_cons.mpr bracket

/-! ## The form as a whole -/

section

variable {content name : List Char}

/-- An assignment begins with a letter or an underscore. -/
theorem IsAssignment.exists_start (h : IsAssignment content name) :
    ∃ c rest, content = c :: rest ∧ isNameStart c := by
  have named {name : List Char} (isName : IsName (String.ofList name)) (rest : List Char) :
      ∃ c tail, name ++ rest = c :: tail ∧ isNameStart c := by
    obtain ⟨c, tail, rfl, start⟩ := exists_cons_of_isName isName
    exact ⟨c, tail ++ rest, rfl, start⟩
  obtain ⟨isName, declaration, index, sign, -, rfl, isDeclaration, -⟩ := h
  cases isDeclaration with
  | none => exact named isName _
  | word mem =>
      rw [List.append_assoc]
      exact named (isName_of_spanName? (spanName?_declaringWord _ mem)) _

/-- It ends in an equals sign. -/
theorem IsAssignment.getLast? (h : IsAssignment content name) : content.getLast? = some '=' := by
  obtain ⟨-, declaration, index, sign, mem, rfl, -⟩ := h
  simp only [assignSigns, List.mem_cons, List.not_mem_nil, or_false] at mem
  rcases mem with rfl | rfl <;> simp [← List.append_assoc]

theorem assignment_eq_some_iff {before : Option Char} {text : List Char} {form : Nat × List Char} :
    assignment before text = some form ↔
      atLineStart before ∧ ∃ blanks content behind, text = blanks ++ (content ++ behind) ∧
        (∀ c ∈ blanks, isBlank c) ∧ IsAssignment content form.2 ∧
          form.1 = blanks.length + content.length := by
  constructor
  · intro h
    rw [assignment] at h
    split at h
    · cases h
    · next starts =>
      refine ⟨by simpa using starts, ?_⟩
      obtain ⟨blanks, cs, rfl, blank, solid⟩ := exists_run isBlank text
      rw [dropWhile_run blank solid] at h
      obtain ⟨⟨name, afterName⟩, named, h⟩ := Option.bind_eq_some_iff.mp h
      obtain ⟨afterIndex, indexed, h⟩ := Option.bind_eq_some_iff.mp h
      obtain ⟨behind, signed, h⟩ := Option.bind_eq_some_iff.mp h
      cases h
      obtain ⟨index, isIndex, rfl, -⟩ := skipIndex_eq_some_iff.mp indexed
      obtain ⟨sign, mem, rfl⟩ := skipAssign_eq_some_iff.mp signed
      have solid : Stops isBlank (index ++ (sign ++ behind)) :=
        stops_sign behind isIndex mem rfl
      obtain ⟨declaration, isDeclaration, rfl, isName, -⟩ :=
        (assignedName?_eq_some_iff solid).mp named
      refine ⟨blanks, declaration ++ (name ++ (index ++ sign)), behind, by simp, blank,
        ⟨isName, declaration, index, sign, mem, rfl, isDeclaration, isIndex⟩, ?_⟩
      simp only [taken, List.length_append]
      omega
  · rintro ⟨starts, blanks, content, behind, rfl, blank, isAssignment, size⟩
    obtain ⟨c, tail, begins, start⟩ := isAssignment.exists_start
    have solid : Stops isBlank (content ++ behind) := by
      rw [begins]
      exact stops_cons.mpr (isBlank_of_isNameStart c start)
    obtain ⟨isName, declaration, index, sign, mem, rfl, isDeclaration, isIndex⟩ := isAssignment
    have named := (assignedName?_eq_some_iff (stops_sign behind isIndex mem rfl)).mpr
      ⟨declaration, isDeclaration, rfl, isName, stops_sign behind isIndex mem rfl⟩
    have indexed : skipIndex (index ++ (sign ++ behind)) = some (sign ++ behind) := by
      refine skipIndex_eq_some_iff.mpr ⟨index, isIndex, rfl, fun _ => ?_⟩
      simp only [assignSigns, List.mem_cons, List.not_mem_nil, or_false] at mem
      rcases mem with rfl | rfl <;> exact stops_cons.mpr (by decide)
    have signed := skipAssign_eq_some_iff.mpr ⟨sign, mem, (rfl : sign ++ behind = sign ++ behind)⟩
    have left : taken (blanks ++ (declaration ++ (form.2 ++ (index ++ sign)) ++ behind)) behind =
        form.1 := by
      rw [← List.append_assoc, taken_append, List.length_append, size]
    rw [assignment, starts, dropWhile_run blank solid]
    simp only [List.append_assoc] at named left ⊢
    simp only [Option.bind_eq_bind, named, indexed, signed, Option.bind_some, left]
    rfl

end

end

section

variable {text : List Char} (free : '=' ∉ text)

include free

/-- Nothing is assigned without an equals sign. -/
theorem assignment_eq_none (before : Option Char) : assignment before text = none := by
  rw [Option.eq_none_iff_forall_ne_some]
  intro form here
  obtain ⟨-, blanks, content, behind, rfl, -, isAssignment, -⟩ := assignment_eq_some_iff.mp here
  have equals := List.mem_of_getLast? isAssignment.getLast?
  exact free (List.mem_append_right _ (List.mem_append_left _ equals))

theorem assignedNames_eq_nil : assignedNames text = [] := by
  have none : findAll assignment text = [] := by
    rw [List.eq_nil_iff_forall_not_mem]
    intro found mem
    obtain ⟨passed, rest, form, rfl, here, -⟩ := exists_of_mem_findAll mem
    rw [assignment_eq_none fun there => free (List.mem_append_right passed there)] at here
    cases here
  rw [assignedNames, none]
  simp [sortedSet]

end

/-- Assignments as forms that begin a line: nothing that follows them matters. -/
def assignmentForms : LineForm assignment where
  IsForm content part _ := IsAssignment content part
  recognise_iff := assignment_eq_some_iff
  solid isForm := by
    obtain ⟨c, rest, same, start⟩ := isForm.exists_start
    exact ⟨c, rest, same, isBlank_of_isNameStart c start⟩
  alone isForm _ _ _ := isForm
  further isForm _ _ _ := isForm

end ScriptVet.Shell
