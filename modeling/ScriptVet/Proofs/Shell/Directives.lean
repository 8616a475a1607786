import ScriptVet.Proofs.Shell.Lines
import ScriptVet.Shell.Strictness

/-!
# Directives

Commands of `set` and traps for errors have one form: a word at the start of a line, perhaps behind
blanks, more blanks, and the rest of a line, which the directive is given. The blanks behind the
word may go over line ends, and then the directive takes what it is given from a later line. If
that line has a directive of its own, the whole of it is given.
-/

namespace ScriptVet.Shell

open Text (isBlank)

/-! ## The form of a directive -/

/-- A word at the start of a line, blanks, and a part of one line that is accepted. -/
def directive (word : List Char) (inPart : Char → Bool) (accepts : List Char → Bool) : Recogniser :=
  fun before text =>
    if !atLineStart before then none
    else do
      let rest ← Text.dropStart? word (text.dropWhile isBlank)
      let rest ← skipSome? isBlank rest
      let part := rest.takeWhile inPart
      if accepts part then some (taken text rest + part.length, part) else none

/-- What `set` is given ends before a comment. -/
def isArgument (c : Char) : Bool :=
  c != '#' && c != '\n'

theorem setCommand_eq : setCommand = directive "set".toList isArgument fun _ => true := rfl

theorem errorTrap_eq :
    errorTrap = directive "trap".toList (· != '\n') (holdsWord "ERR".toList none) := rfl

/-- A directive that is given a part, from its word to the end of the part. -/
structure IsDirective (word : List Char) (inPart : Char → Bool) (accepts : List Char → Bool)
    (content part behind : List Char) : Prop where
  spelled : ∃ gap, content = word ++ (gap ++ part) ∧ IsGap gap
  inside : ∀ c ∈ part, inPart c
  solid : Stops isBlank (part ++ behind)
  stops : Stops inPart behind
  accepted : accepts part

/-- What a directive is given stands in one line and may hold its word and blanks. -/
structure DirectiveClass (word : List Char) (inPart : Char → Bool) : Prop where
  spelled : word ≠ []
  solid : word.any isBlank = false
  word : word.all inPart
  blank : ∀ c, isBlank c → c ≠ '\n' → inPart c
  inLine : inPart '\n' = false

section

variable {word : List Char} {inPart : Char → Bool} {accepts : List Char → Bool}

theorem DirectiveClass.exists_cons (kind : DirectiveClass word inPart) :
    ∃ c letters, word = c :: letters ∧ isBlank c = false := by
  obtain ⟨c, letters, rfl⟩ := List.exists_cons_of_ne_nil kind.spelled
  exact ⟨c, letters, rfl, (Bool.or_eq_false_iff.mp kind.solid).1⟩

theorem directive_eq_some_iff (kind : DirectiveClass word inPart) {before : Option Char}
    {text : List Char} {form : Nat × List Char} :
    directive word inPart accepts before text = some form ↔
      atLineStart before ∧ ∃ blanks content behind, text = blanks ++ (content ++ behind) ∧
        (∀ c ∈ blanks, isBlank c) ∧ IsDirective word inPart accepts content form.2 behind ∧
          form.1 = blanks.length + content.length := by
  obtain ⟨c, letters, spelled, first⟩ := kind.exists_cons
  constructor
  · intro h
    rw [directive] at h
    split at h
    · cases h
    · next starts =>
      obtain ⟨blanks, cs, rfl, blank, solid⟩ := exists_run isBlank text
      rw [dropWhile_run blank solid] at h
      obtain ⟨_, begins, h⟩ := Option.bind_eq_some_iff.mp h
      obtain ⟨rest, skipped, h⟩ := Option.bind_eq_some_iff.mp h
      obtain ⟨part, behind, rfl, inside, stops⟩ := exists_run inPart rest
      rw [takeWhile_run inside stops, Option.ite_none_right_eq_some] at h
      obtain ⟨accepted, h⟩ := h
      cases h
      obtain ⟨gap, some, gapBlank, rfl, stopsBlank⟩ := skipSome?_eq_some_iff.mp skipped
      obtain rfl := Text.dropStart?_eq_some_iff.mp begins
      refine ⟨by simpa using starts, blanks, word ++ (gap ++ part), behind, by simp, blank,
        ⟨⟨gap, rfl, some, gapBlank⟩, inside, stopsBlank, stops, accepted⟩, ?_⟩
      simp only [taken, List.length_append]
      omega
  · rintro ⟨starts, blanks, content, behind, rfl, blank, isDirective, size⟩
    obtain ⟨gap, rfl, isGap⟩ := isDirective.spelled
    have skipped := skipSome?_eq_some_iff.mpr
      ⟨gap, isGap.1, isGap.2, (rfl : gap ++ (form.2 ++ behind) = _), isDirective.solid⟩
    have solid : Stops isBlank (word ++ (gap ++ (form.2 ++ behind))) := by
      rw [spelled]
      exact stops_cons.mpr first
    have left : taken (blanks ++ (word ++ (gap ++ (form.2 ++ behind)))) (form.2 ++ behind) +
        form.2.length = form.1 := by
      simp only [size, taken, List.length_append]
      omega
    simp only [List.append_assoc]
    rw [directive, starts, dropWhile_run blank solid]
    simp only [Option.bind_eq_bind, Text.dropStart?_eq_some_iff.mpr rfl, skipped, Option.bind_some,
      takeWhile_run isDirective.inside isDirective.stops, isDirective.accepted, left]
    rfl

/-- Directives as forms that begin a line. -/
def directiveForms (kind : DirectiveClass word inPart) :
    LineForm (directive word inPart accepts) where
  IsForm := IsDirective word inPart accepts
  recognise_iff := directive_eq_some_iff kind
  solid isForm := by
    obtain ⟨gap, rfl, -⟩ := isForm.spelled
    obtain ⟨c, letters, rfl, first⟩ := kind.exists_cons
    exact ⟨c, letters ++ (gap ++ _), rfl, first⟩
  alone isForm _ _ _ :=
    { isForm with
      solid := by
        have solid := isForm.solid
        rw [← List.append_assoc] at solid
        exact solid.of_append
      stops := isForm.stops.of_append }
  further {content part behind after} isForm some whole ends :=
    { isForm with
      solid := (Stops.of_append isForm.solid).append some
      stops := by
        cases behind with
        | nil =>
            rcases atLineEnd_iff.mp ends with rfl | ⟨later, rfl⟩
            · exact stops_nil
            · exact stops_cons.mpr kind.inLine
        | cons c behind => exact isForm.stops }

/-- Behind a line feed in it, a directive goes on with blanks and what it is given. -/
theorem IsDirective.exists_blanks (kind : DirectiveClass word inPart)
    {front more part behind : List Char}
    (h : IsDirective word inPart accepts (front ++ more) part behind)
    (ends : front.getLast? = some '\n') :
    ∃ blanks, more = blanks ++ part ∧ ∀ c ∈ blanks, isBlank c := by
  obtain ⟨gap, spelled, isGap⟩ := h.spelled
  have free : '\n' ∉ part := fun mem => by
    have inside := h.inside _ mem
    rw [kind.inLine] at inside
    cases inside
  rw [← List.append_assoc] at spelled
  obtain ⟨blanks, same, rfl⟩ := exists_append_of_getLast? spelled.symm ends free
  refine ⟨blanks, rfl, fun c mem => ?_⟩
  rcases List.append_eq_append_iff.mp same with ⟨gap', -, rfl⟩ | ⟨letters, rfl, -⟩
  · exact isGap.2 c (List.mem_append_right _ mem)
  · have feed := List.mem_append_left letters (List.mem_of_getLast? ends)
    exact absurd (by decide) (List.any_eq_false.mp kind.solid '\n' feed)

/-- A directive of a line alone is given to one that is found in the text, perhaps with its word. -/
theorem exists_directive_of_line (kind : DirectiveClass word inPart) {before line after : List Char}
    {form : Nat × List Char} (isLine : IsLine before line after)
    (here : directive word inPart accepts none line = some form) (some : form.2 ≠ []) :
    ∃ found ∈ findAll (directive word inPart accepts) (before ++ (line ++ after)),
      found.part = form.2 ∨ ∃ gap, IsGap gap ∧ found.part = word ++ (gap ++ form.2) := by
  obtain ⟨found, mem, -, -, same | ⟨passed, _, front, more, behind, -, rest, stands, ends⟩⟩ :=
    (directiveForms kind).exists_found_of_line isLine here some
  · exact ⟨found, mem, .inl same⟩
  obtain ⟨blanks, rfl, blank⟩ := stands.isForm.exists_blanks kind ends
  obtain ⟨-, blanks', content, behind', rfl, blank', isForm, -⟩ :=
    (directive_eq_some_iff kind).mp here
  obtain ⟨gap, rfl, isGap⟩ := isForm.spelled
  have whole := isLine.whole
  simp only [List.mem_append, not_or] at whole
  obtain ⟨-, ⟨-, gapInLine, -⟩, behindInLine⟩ := whole
  -- Behind the same blanks the directive takes its part where the line has its word.
  have same : found.part ++ behind = word ++ (gap ++ form.2) ++ (behind' ++ after) := by
    have solid : Stops isBlank (word ++ (gap ++ form.2) ++ (behind' ++ after)) := by
      obtain ⟨c, letters, spelled, first⟩ := kind.exists_cons
      rw [spelled]
      exact stops_cons.mpr first
    rw [← dropWhile_run blank stands.isForm.solid, ← dropWhile_run blank' solid,
      ← List.append_assoc blanks, ← rest]
    simp only [List.append_assoc]
  have inside : ∀ c ∈ word ++ (gap ++ form.2), inPart c := by
    intro c mem
    rcases List.mem_append.mp mem with letter | mem
    · exact List.all_eq_true.mp kind.word c letter
    rcases List.mem_append.mp mem with between | given
    · refine kind.blank c (isGap.2 c between) ?_
      rintro rfl
      exact gapInLine between
    · exact isForm.inside c given
  have stops := ((directiveForms kind).further isForm some behindInLine isLine.ends).stops
  refine ⟨found, mem, .inr ⟨gap, isGap, ?_⟩⟩
  rw [← takeWhile_run stands.isForm.inside stands.isForm.stops, same, takeWhile_run inside stops]

/-- Which directives a text has is a matter of its lines and of the directives that are wrapped. -/
theorem exists_directive_iff (kind : DirectiveClass word inPart) {text : List Char}
    (P : List Char → Prop) (given : ∀ part, P part → part ≠ [])
    (behind : ∀ gap part, IsGap gap → P part → P (word ++ (gap ++ part))) :
    (∃ found ∈ findAll (directive word inPart accepts) text, P found.part) ↔
      (∃ line ∈ text.splitOn '\n', ∃ found ∈ findAll (directive word inPart accepts) line,
        P found.part) ∨
      ∃ found ∈ findAll (directive word inPart accepts) text, found.Wraps text ∧ P found.part := by
  constructor
  · rintro ⟨found, mem, holds⟩
    by_cases wraps : found.Wraps text
    · exact .inr ⟨found, mem, wraps, holds⟩
    · obtain ⟨before, line, after, rfl, isLine, -, alone, mem, same⟩ :=
        (directiveForms kind).exists_line_of_found mem wraps
      exact .inl ⟨line, mem_splitOn_iff.mpr ⟨before, after, rfl, isLine⟩, alone, mem,
        by rwa [same]⟩
  · rintro (⟨line, isIn, found, mem, holds⟩ | ⟨found, mem, -, holds⟩)
    · obtain ⟨before, after, rfl, isLine⟩ := mem_splitOn_iff.mp isIn
      obtain ⟨form, here, rfl⟩ :=
        ((directiveForms kind).mem_findAll_line_iff isLine.whole).mp mem
      obtain ⟨found, mem, same | ⟨gap, isGap, same⟩⟩ :=
        exists_directive_of_line kind isLine here (given _ holds)
      · exact ⟨found, mem, by rwa [same]⟩
      · exact ⟨found, mem, by rw [same]; exact behind gap _ isGap holds⟩
    · exact ⟨found, mem, holds⟩

end

/-! ## Options -/

theorem setClass : DirectiveClass "set".toList isArgument where
  spelled := by decide
  solid := rfl
  word := rfl
  blank c blank other := by
    have noHash : c ≠ '#' := by
      rintro rfl
      exact absurd blank (by decide)
    simp [isArgument, noHash, other]
  inLine := rfl

section

variable {option : StrictOption} {arguments : List Char}

/-- A cluster is a hyphen at the start or behind a blank, and all the letters behind the hyphen. -/
theorem anyCluster_iff {property : List Char → List Char → Bool} {before : Option Char} :
    anyCluster property before arguments ↔
      ∃ passed cluster rest, arguments = passed ++ '-' :: (cluster ++ rest) ∧
        (passed.getLast?.or before).all isBlank ∧ (∀ c ∈ cluster, c.isAlpha) ∧
          Stops Char.isAlpha rest ∧ property cluster rest := by
  induction arguments generalizing before with
  | nil => simp [anyCluster]
  | cons c arguments ih =>
      simp only [anyCluster, Bool.or_eq_true, Bool.and_eq_true, beq_iff_eq, ih]
      constructor
      · rintro (⟨⟨rfl, begins⟩, holds⟩ |
          ⟨passed, cluster, rest, rfl, begins, letters, stops, holds⟩)
        · obtain ⟨cluster, rest, rfl, letters, stops⟩ := exists_run Char.isAlpha arguments
          rw [takeWhile_run letters stops, dropWhile_run letters stops] at holds
          exact ⟨[], cluster, rest, rfl, begins, letters, stops, holds⟩
        · exact ⟨c :: passed, cluster, rest, rfl, by rwa [getLast?_cons_or], letters, stops, holds⟩
      · rintro ⟨passed, cluster, rest, same, begins, letters, stops, holds⟩
        cases passed with
        | nil =>
            obtain ⟨rfl, rfl⟩ := List.cons.inj same
            refine .inl ⟨⟨rfl, begins⟩, ?_⟩
            rwa [takeWhile_run letters stops, dropWhile_run letters stops]
        | cons d passed =>
            obtain ⟨rfl, rfl⟩ := List.cons.inj same
            rw [getLast?_cons_or] at begins
            exact .inr ⟨passed, cluster, rest, rfl, begins, letters, stops, holds⟩

theorem switchesOn_ne_nil (on : switchesOn option arguments) : arguments ≠ [] := by
  rintro rfl
  cases on

/-- An option stays switched on behind more words. -/
theorem switchesOn_behind (front : List Char) {gap : List Char} (isGap : IsGap gap)
    (on : switchesOn option arguments) : switchesOn option (front ++ (gap ++ arguments)) := by
  obtain ⟨passed, cluster, rest, rfl, begins, letters, stops, holds⟩ := anyCluster_iff.mp on
  refine anyCluster_iff.mpr ⟨front ++ (gap ++ passed), cluster, rest, by simp, ?_, letters, stops,
    holds⟩
  by_cases none : passed = []
  · rw [none, List.append_nil, List.getLast?_append_of_ne_nil front isGap.1, Option.or_none]
    cases last : gap.getLast? with
    | none => rfl
    | some c => exact isGap.2 c (List.mem_of_getLast? last)
  · rwa [← List.append_assoc, List.getLast?_append_of_ne_nil _ none]

theorem hasOption_iff_found {text : List Char} :
    hasOption option text ↔ ∃ found ∈ findAll setCommand text, switchesOn option found.part := by
  simp only [hasOption, setArguments, List.any_eq_true, List.mem_map, exists_exists_and_eq_and]

/-- A text has an option if one of its lines has it or a wrapped command switches it on. -/
theorem hasOption_iff {text : List Char} :
    hasOption option text ↔ (∃ line ∈ text.splitOn '\n', hasOption option line) ∨
      ∃ found ∈ findAll setCommand text, found.Wraps text ∧ switchesOn option found.part := by
  simp only [hasOption_iff_found, setCommand_eq]
  exact exists_directive_iff setClass (switchesOn option ·) (fun _ => switchesOn_ne_nil)
    fun _ _ => switchesOn_behind _

end

/-! ## Traps for errors -/

theorem trapClass : DirectiveClass "trap".toList (· != '\n') where
  spelled := by decide
  solid := rfl
  word := rfl
  blank c _ other := by simpa using other
  inLine := rfl

theorem part_ne_nil_of_mem_errorTrap {found : Found} {text : List Char}
    (mem : found ∈ findAll errorTrap text) : found.part ≠ [] := by
  obtain ⟨passed, blanks, content, behind, -, stands⟩ :=
    (directiveForms trapClass).exists_standsAt mem
  have accepted := stands.isForm.accepted
  intro none
  rw [none] at accepted
  cases accepted

theorem hasErrorTrap_iff_found {text : List Char} :
    hasErrorTrap text ↔ ∃ found ∈ findAll errorTrap text, found.part ≠ [] := by
  rw [hasErrorTrap, Bool.not_eq_true', List.isEmpty_eq_false_iff_exists_mem]
  exact exists_congr fun found => (and_iff_left_of_imp part_ne_nil_of_mem_errorTrap).symm

/-- A text has a trap for errors if one of its lines has one or a trap is wrapped. -/
theorem hasErrorTrap_iff {text : List Char} :
    hasErrorTrap text ↔ (∃ line ∈ text.splitOn '\n', hasErrorTrap line) ∨
      ∃ found ∈ findAll errorTrap text, found.Wraps text := by
  have wrapped : (∃ found ∈ findAll errorTrap text, found.Wraps text) ↔
      ∃ found ∈ findAll errorTrap text, found.Wraps text ∧ found.part ≠ [] :=
    exists_congr fun found => and_congr_right fun mem =>
      (and_iff_left (part_ne_nil_of_mem_errorTrap mem)).symm
  rw [wrapped]
  simp only [hasErrorTrap_iff_found, errorTrap_eq]
  exact exists_directive_iff trapClass (· ≠ []) (fun _ => id) fun _ _ _ _ => by simp

end ScriptVet.Shell
