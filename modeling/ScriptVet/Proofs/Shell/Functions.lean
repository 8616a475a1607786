import Mathlib.Data.List.Induction
import ScriptVet.Proofs.Shell.Found
import ScriptVet.Proofs.Shell.Lines
import ScriptVet.Shell.Functions

/-!
# Functions that shell text defines

A definition begins a line and stays on it, so what a line defines is decided by the line alone. No
line defines two functions. The functions of a text are those that its lines define, in the order of
the first lines that define them, and lines behind a text add the functions that it does not define.
-/

namespace ScriptVet.Shell

open Text (isSpaceOrTab)

/-! ## What defines a function -/

/-- Spaces and tabs, perhaps none. -/
abbrev IsSpacing (cs : List Char) : Prop :=
  ∀ c ∈ cs, isSpaceOrTab c

/-- The word `function` and, behind spacing, a name that no word character follows. -/
def IsKeywordForm (content name behind : List Char) : Prop :=
  ∃ spacing gap, content = spacing ++ ("function".toList ++ (gap ++ name)) ∧
    IsSpacing spacing ∧ IsSpacing gap ∧ gap ≠ [] ∧
      IsName (String.ofList name) ∧ Stops Text.isWord behind

/-- A name, parentheses and a brace, with spacing between them. -/
def IsBraceForm (content name : List Char) : Prop :=
  ∃ spacing beforeOpen beforeClose beforeBrace,
    content = spacing ++ (name ++
      (beforeOpen ++ '(' :: (beforeClose ++ ')' :: (beforeBrace ++ ['\x7b'])))) ∧
    IsSpacing spacing ∧ IsSpacing beforeOpen ∧ IsSpacing beforeClose ∧ IsSpacing beforeBrace ∧
      IsName (String.ofList name)

/-- The line defines the function of a name. -/
def Defines (name : String) (line : List Char) : Prop :=
  ∃ content behind, line = content ++ behind ∧
    (IsKeywordForm content name.toList behind ∨ IsBraceForm content name.toList)

/-! ## Recognising definitions -/

theorem isSpaceOrTab_of_isNameChar {c : Char} (name : isNameChar c) : isSpaceOrTab c = false :=
  forall_isNameChar (p := fun c => isSpaceOrTab c = false) (by decide) name

section

variable {name rest : List Char}

theorem stops_isSpaceOrTab_of_isName (isName : IsName (String.ofList name)) :
    Stops isSpaceOrTab (name ++ rest) := by
  obtain ⟨c, tail, rfl, start⟩ := exists_cons_of_isName isName
  exact stops_cons.mpr (isSpaceOrTab_of_isNameChar (isNameChar_of_isNameStart start))

/-- Where no word character follows, no character of names does. -/
theorem stops_isNameChar_of_isWord (plain : Stops Text.isWord rest) : Stops isNameChar rest := by
  intro c head
  rw [Bool.eq_false_iff]
  intro letter
  have other := plain c head
  rw [isWord_of_isNameChar letter] at other
  cases other

/-- Spacing ends every name. -/
theorem stops_isNameChar_of_isSpacing {spacing : List Char} (spaces : IsSpacing spacing)
    (some : spacing ≠ []) : Stops isNameChar (spacing ++ rest) := by
  cases spacing with
  | nil => exact absurd rfl some
  | cons d spacing =>
      rw [List.cons_append, stops_cons, Bool.eq_false_iff]
      intro letter
      have space := spaces d List.mem_cons_self
      rw [isSpaceOrTab_of_isNameChar letter] at space
      cases space

/-- A sign ends every name, with or without spacing before it. -/
theorem stops_isNameChar_sign {spacing : List Char} {c : Char} (spaces : IsSpacing spacing)
    (sign : isNameChar c = false) : Stops isNameChar (spacing ++ c :: rest) := by
  by_cases none : spacing = []
  · rw [none]
    exact stops_cons.mpr sign
  · exact stops_isNameChar_of_isSpacing spaces none

theorem isWord?_head?_eq_false_iff : Text.isWord? rest.head? = false ↔ Stops Text.isWord rest := by
  cases rest <;> simp

/-- A sign is read behind spacing. -/
theorem dropStart?_dropWhile_eq_some_iff {sign cs : List Char} (some : sign ≠ [])
    (solid : Stops isSpaceOrTab sign) :
    Text.dropStart? sign (cs.dropWhile isSpaceOrTab) = .some rest ↔
      ∃ spacing, cs = spacing ++ (sign ++ rest) ∧ IsSpacing spacing := by
  rw [Text.dropStart?_eq_some_iff]
  constructor
  · intro same
    exact ⟨cs.takeWhile isSpaceOrTab, by rw [← same, List.takeWhile_append_dropWhile],
      fun c mem => List.mem_takeWhile_imp mem⟩
  · rintro ⟨spacing, rfl, spaces⟩
    exact dropWhile_run spaces (solid.append some)

/-- A name is read behind spacing. -/
theorem spanName?_dropWhile_eq_some_iff {cs : List Char} :
    spanName? (cs.dropWhile isSpaceOrTab) = some (name, rest) ↔
      ∃ spacing, cs = spacing ++ (name ++ rest) ∧ IsSpacing spacing ∧
        IsName (String.ofList name) ∧ Stops isNameChar rest := by
  rw [spanName?_eq_some_iff]
  constructor
  · rintro ⟨same, isName, stops⟩
    exact ⟨cs.takeWhile isSpaceOrTab, by rw [← same, List.takeWhile_append_dropWhile],
      fun c mem => List.mem_takeWhile_imp mem, isName, stops⟩
  · rintro ⟨spacing, rfl, spaces, isName, stops⟩
    exact ⟨dropWhile_run spaces (stops_isSpaceOrTab_of_isName isName), isName, stops⟩

end

section

variable {before : Option Char} {text : List Char} {form : Nat × List Char}

theorem keywordFunction_eq_some_iff :
    keywordFunction before text = some form ↔
      atLineStart before ∧ ∃ content behind, text = content ++ behind ∧
        IsKeywordForm content form.2 behind ∧ form.1 = content.length := by
  rw [keywordFunction, Option.ite_none_left_eq_some, Bool.not_eq_true', Bool.not_eq_false]
  refine and_congr_right fun _ => ?_
  have word {rest : List Char} : Text.dropStart? "function".toList (text.dropWhile isSpaceOrTab) =
      some rest ↔ ∃ spacing, text = spacing ++ ("function".toList ++ rest) ∧ IsSpacing spacing :=
    dropStart?_dropWhile_eq_some_iff (by decide) (stops_cons.mpr (by decide))
  simp only [Option.bind_eq_bind, Option.bind_eq_some_iff, word, skipSome?_eq_some_iff,
    Prod.exists, spanName?_eq_some_iff, Option.ite_none_left_eq_some, Bool.not_eq_true,
    isWord?_head?_eq_false_iff]
  constructor
  · rintro ⟨_, ⟨spacing, rfl, spaces⟩, _, ⟨gap, some, gaps, rfl, -⟩, name, behind,
      ⟨rfl, isName, -⟩, plain, same⟩
    cases same
    refine ⟨spacing ++ ("function".toList ++ (gap ++ name)), behind,
      by simp only [List.append_assoc], ⟨spacing, gap, rfl, spaces, gaps, some, isName, plain⟩, ?_⟩
    simp only [← List.append_assoc, taken_append]
  · rintro ⟨content, behind, rfl, ⟨spacing, gap, rfl, spaces, gaps, some, isName, plain⟩, size⟩
    refine ⟨gap ++ (form.2 ++ behind), ⟨spacing, by simp only [List.append_assoc], spaces⟩,
      form.2 ++ behind, ⟨gap, some, gaps, rfl, stops_isSpaceOrTab_of_isName isName⟩,
      form.2, behind, ⟨rfl, isName, stops_isNameChar_of_isWord plain⟩, plain, ?_⟩
    rw [taken_append, ← size]

theorem braceFunction_eq_some_iff :
    braceFunction before text = some form ↔
      atLineStart before ∧ ∃ content behind, text = content ++ behind ∧
        IsBraceForm content form.2 ∧ form.1 = content.length := by
  rw [braceFunction, Option.ite_none_left_eq_some, Bool.not_eq_true', Bool.not_eq_false]
  refine and_congr_right fun _ => ?_
  have sign (c : Char) (solid : isSpaceOrTab c = false) {cs rest : List Char} :
      Text.dropStart? [c] (cs.dropWhile isSpaceOrTab) = some rest ↔
        ∃ spacing, cs = spacing ++ ([c] ++ rest) ∧ IsSpacing spacing :=
    dropStart?_dropWhile_eq_some_iff (List.cons_ne_nil c []) (stops_cons.mpr solid)
  simp only [Option.bind_eq_bind, Option.bind_eq_some_iff, Prod.exists,
    spanName?_dropWhile_eq_some_iff, sign '(' (by decide), sign ')' (by decide),
    sign '\x7b' (by decide), Option.some.injEq]
  constructor
  · rintro ⟨name, _, ⟨spacing, rfl, spaces, isName, -⟩, _, ⟨first, rfl, inFirst⟩, _,
      ⟨second, rfl, inSecond⟩, behind, ⟨third, rfl, inThird⟩, same⟩
    cases same
    refine ⟨spacing ++ (name ++ (first ++ '(' :: (second ++ ')' :: (third ++ ['\x7b'])))), behind,
      by simp, ⟨spacing, first, second, third, rfl, spaces, inFirst, inSecond, inThird, isName⟩, ?_⟩
    simp only [← List.append_assoc, taken_append]
    simp
  · rintro ⟨content, behind, rfl,
      ⟨spacing, first, second, third, rfl, spaces, inFirst, inSecond, inThird, isName⟩, size⟩
    refine ⟨form.2, first ++ '(' :: (second ++ ')' :: (third ++ '\x7b' :: behind)),
      ⟨spacing, by simp, spaces, isName, stops_isNameChar_sign inFirst (by decide)⟩,
      second ++ ')' :: (third ++ '\x7b' :: behind), ⟨first, rfl, inFirst⟩,
      third ++ '\x7b' :: behind, ⟨second, rfl, inSecond⟩, behind, ⟨third, rfl, inThird⟩, ?_⟩
    rw [taken_append, ← size]

end

/-! ## Forms that stay on their lines -/

/-- Forms that begin a line and stay on it. -/
structure OneLineForm (recognise : Recogniser) where
  /-- The text is a form with a part if this text follows it. -/
  IsForm : List Char → List Char → List Char → Prop
  recognise_iff : ∀ {before text form}, recognise before text = some form ↔
    atLineStart before ∧ ∃ content behind, text = content ++ behind ∧
      IsForm content form.2 behind ∧ form.1 = content.length
  some : ∀ {content part behind}, IsForm content part behind → content ≠ []
  whole : ∀ {content part behind}, IsForm content part behind → '\n' ∉ content
  /-- Lines that come behind make no difference. -/
  append_iff : ∀ {content part behind after}, AtLineEnd after →
    (IsForm content part (behind ++ after) ↔ IsForm content part behind)

/-- What is recognised in each of some lines alone, where the first one begins at an offset. -/
def findInLines (recognise : Recogniser) : Nat → List (List Char) → List Found
  | _, [] => []
  | offset, line :: lines =>
    ((recognise none line).map fun form => ⟨offset, offset + form.1, form.2⟩).toList ++
      findInLines recognise (offset + line.length + 1) lines

namespace OneLineForm

variable {recognise : Recogniser} (forms : OneLineForm recognise)

include forms

/-- Nothing is recognised behind a character that ends no line. -/
theorem recognise_eq_none {c : Char} (other : c ≠ '\n') (text : List Char) :
    recognise (.some c) text = none := by
  rw [Option.eq_none_iff_forall_ne_some]
  intro form here
  have begins := (forms.recognise_iff.mp here).1
  simp [atLineStart, other] at begins

theorem recognise_nil (before : Option Char) : recognise before [] = none := by
  rw [Option.eq_none_iff_forall_ne_some]
  intro form here
  obtain ⟨-, content, behind, same, isForm, -⟩ := forms.recognise_iff.mp here
  exact forms.some isForm (List.append_eq_nil_iff.mp same.symm).1

/-- What is recognised at the start of a line is recognised in the line alone. -/
theorem recognise_append {before : Option Char} (begins : atLineStart before)
    (line : List Char) {behind : List Char} (ends : AtLineEnd behind) :
    recognise before (line ++ behind) = recognise none line := by
  ext form
  rw [forms.recognise_iff, forms.recognise_iff]
  constructor
  · rintro ⟨-, content, rest, same, isForm, size⟩
    obtain ⟨more, rfl, rfl⟩ := exists_append_of_atLineEnd same (forms.whole isForm) ends
    exact ⟨rfl, content, more, rfl, (forms.append_iff ends).mp isForm, size⟩
  · rintro ⟨-, content, more, rfl, isForm, size⟩
    exact ⟨begins, content, more ++ behind, List.append_assoc _ _ _,
      (forms.append_iff ends).mpr isForm, size⟩

/-- Between the first character of a line and its last one nothing is found, whichever these are. -/
theorem findFrom_inside {inside behind : List Char} (whole : '\n' ∉ inside) {offset skip : Nat}
    (short : skip ≤ inside.length) {c d : Char} (first : c ≠ '\n') (last : d ≠ '\n') :
    findFrom recognise offset skip (.some c) (inside ++ behind) =
      findFrom recognise (offset + inside.length) 0 (.some d) behind := by
  induction inside generalizing offset skip c with
  | nil =>
      cases Nat.le_zero.mp short
      cases behind with
      | nil => rfl
      | cons e later =>
          rw [List.nil_append, findFrom, forms.recognise_eq_none first, findFrom,
            forms.recognise_eq_none last]
          rfl
  | cons e inside ih =>
      rw [List.mem_cons, not_or] at whole
      have length : offset + (e :: inside).length = offset + 1 + inside.length := by
        rw [List.length_cons]
        omega
      rw [length, List.cons_append]
      cases skip with
      | succ skip => exact ih whole.2 (Nat.le_of_succ_le_succ short) (Ne.symm whole.1)
      | zero =>
          rw [findFrom, forms.recognise_eq_none first]
          exact ih whole.2 (Nat.zero_le _) (Ne.symm whole.1)

/-- A line has what is recognised in it alone, and then nothing up to its end. -/
theorem findFrom_line {before : Option Char} (begins : atLineStart before) {line behind : List Char}
    (whole : '\n' ∉ line) (ends : AtLineEnd behind) (offset : Nat) {d : Char} (last : d ≠ '\n') :
    findFrom recognise offset 0 before (line ++ behind) =
      ((recognise none line).map fun form => ⟨offset, offset + form.1, form.2⟩).toList ++
        findFrom recognise (offset + line.length) 0 (.some d) behind := by
  have here := forms.recognise_append begins line ends
  cases line with
  | nil =>
      have nothing := forms.recognise_nil none
      rw [nothing]
      rw [nothing] at here
      cases behind with
      | nil => rfl
      | cons c later =>
          rw [List.nil_append] at here
          rw [List.nil_append, findFrom, here, findFrom, forms.recognise_eq_none last]
          rfl
  | cons c line =>
      rw [List.mem_cons, not_or] at whole
      have length : offset + (c :: line).length = offset + 1 + line.length := by
        rw [List.length_cons]
        omega
      have later {skip : Nat} (short : skip ≤ line.length) :
          findFrom recognise (offset + 1) skip (.some c) (line ++ behind) =
            findFrom recognise (offset + 1 + line.length) 0 (.some d) behind :=
        forms.findFrom_inside whole.2 short (Ne.symm whole.1) last
      rw [List.cons_append] at here
      rw [length, List.cons_append, findFrom, here]
      cases form : recognise none (c :: line) with
      | none => exact later (Nat.zero_le _)
      | some form =>
          obtain ⟨-, content, more, same, -, size⟩ := forms.recognise_iff.mp ‹_›
          have short := congrArg List.length same
          rw [List.length_append, List.length_cons] at short
          exact congrArg _ (later (by omega))

theorem findFrom_lines (offset : Nat) {before : Option Char} (begins : atLineStart before)
    (text : List Char) :
    findFrom recognise offset 0 before text = findInLines recognise offset (text.splitOn '\n') := by
  obtain ⟨line, behind, same, whole, ends⟩ := exists_firstLine text
  have other : ' ' ≠ '\n' := by decide
  rw [same, forms.findFrom_line begins whole ends offset other]
  rcases atLineEnd_iff.mp ends with rfl | ⟨later, rfl⟩
  · rw [List.append_nil, List.splitOn_eq_singleton whole]
    rfl
  · have shorter : later.length < text.length := by
      rw [same, List.length_append, List.length_cons]
      omega
    rw [List.splitOn_append_cons_self, List.splitOn_eq_singleton whole, List.singleton_append,
      findInLines, findFrom, forms.recognise_eq_none other]
    exact congrArg _ (findFrom_lines _ rfl later)
termination_by text.length

/-- Forms that stay on their lines are found line by line. -/
theorem findAll_eq (text : List Char) :
    findAll recognise text = findInLines recognise 0 (text.splitOn '\n') :=
  forms.findFrom_lines 0 rfl text

end OneLineForm

/-! ## Definitions line by line -/

theorem notMem_of_isSpacing {spacing : List Char} (spaces : IsSpacing spacing) :
    '\n' ∉ spacing :=
  fun mem => absurd (spaces _ mem) (by decide)

theorem feed_notMem_of_isName {name : List Char} (isName : IsName (String.ofList name)) :
    '\n' ∉ name := by
  simpa using notMem_of_isName isName (c := '\n') (by decide)

def keywordForms : OneLineForm keywordFunction where
  IsForm := IsKeywordForm
  recognise_iff := keywordFunction_eq_some_iff
  some := by
    rintro content part behind ⟨spacing, gap, rfl, -⟩ none
    simp at none
  whole := by
    rintro content part behind ⟨spacing, gap, rfl, spaces, gaps, -, isName, -⟩
    simp only [List.mem_append, not_or]
    exact ⟨notMem_of_isSpacing spaces, by decide, notMem_of_isSpacing gaps,
      feed_notMem_of_isName isName⟩
  append_iff := by
    intro content part behind after ends
    have plain : Stops Text.isWord (behind ++ after) ↔ Stops Text.isWord behind :=
      stops_append_iff (by decide) ends
    simp only [IsKeywordForm, plain]

def braceForms : OneLineForm braceFunction where
  IsForm content part _ := IsBraceForm content part
  recognise_iff := braceFunction_eq_some_iff
  some := by
    rintro content part behind ⟨spacing, first, second, third, rfl, -⟩ none
    simp at none
  whole := by
    rintro content part behind
      ⟨spacing, first, second, third, rfl, spaces, inFirst, inSecond, inThird, isName⟩
    simp only [List.mem_append, List.mem_cons, List.not_mem_nil, or_false, not_or]
    exact ⟨notMem_of_isSpacing spaces, feed_notMem_of_isName isName, notMem_of_isSpacing inFirst,
      by decide, notMem_of_isSpacing inSecond, by decide, notMem_of_isSpacing inThird, by decide⟩
  append_iff _ := Iff.rfl

/-- A definition of either kind. -/
def definition : Recogniser := fun before text =>
  (keywordFunction before text).or (braceFunction before text)

/-- No text begins with definitions of both kinds: the word `function` would be the name before the
parentheses. -/
theorem not_braceForm_of_keywordForm {content name behind content' name' behind' : List Char}
    (keyword : IsKeywordForm content name behind)
    (same : content ++ behind = content' ++ behind') : ¬ IsBraceForm content' name' := by
  obtain ⟨spacing, gap, rfl, spaces, gaps, some, isName, -⟩ := keyword
  rintro ⟨spacing', first, second, third, rfl, spaces', inFirst, -, -, isName'⟩
  have inner := congrArg (List.dropWhile isSpaceOrTab) same
  simp only [List.append_assoc, List.cons_append] at inner
  have isFunction : IsName (String.ofList "function".toList) :=
    ⟨'f', _, rfl, by decide, List.all_eq_true.mp (by decide)⟩
  rw [dropWhile_run spaces (stops_isSpaceOrTab_of_isName isFunction),
    dropWhile_run spaces' (stops_isSpaceOrTab_of_isName isName')] at inner
  have spanned := spanName?_eq_some_iff.mpr
    ⟨inner, isName', stops_isNameChar_sign inFirst (by decide)⟩
  rw [spanName?_eq_some_iff.mpr ⟨rfl, isFunction, stops_isNameChar_of_isSpacing gaps some⟩]
    at spanned
  have behindName := congrArg (List.dropWhile isSpaceOrTab)
    (Prod.mk.inj (Option.some.inj spanned)).2
  rw [dropWhile_run gaps (stops_isSpaceOrTab_of_isName isName),
    dropWhile_run inFirst (stops_cons.mpr (by decide))] at behindName
  obtain ⟨c, tail, rfl, start⟩ := exists_cons_of_isName isName
  rw [(List.cons.inj behindName).1] at start
  cases start

theorem braceFunction_eq_none {before : Option Char} {text : List Char} {form : Nat × List Char}
    (here : keywordFunction before text = some form) : braceFunction before text = none := by
  rw [Option.eq_none_iff_forall_ne_some]
  intro form' here'
  obtain ⟨-, content, behind, rfl, keyword, -⟩ := keywordFunction_eq_some_iff.mp here
  obtain ⟨-, content', behind', same, brace, -⟩ := braceFunction_eq_some_iff.mp here'
  exact not_braceForm_of_keywordForm keyword same brace

section

variable {recognise : Recogniser}

theorem le_start_of_mem_findInLines {offset : Nat} {lines : List (List Char)} {found : Found}
    (mem : found ∈ findInLines recognise offset lines) : offset ≤ found.start := by
  induction lines generalizing offset with
  | nil => cases mem
  | cons line lines ih =>
      rcases List.mem_append.mp mem with here | later
      · rw [Option.mem_toList, Option.map_eq_some_iff] at here
        obtain ⟨form, -, rfl⟩ := here
        exact le_rfl
      · have := ih later
        omega

theorem pairwise_findInLines (recognise : Recogniser) (offset : Nat) (lines : List (List Char)) :
    (findInLines recognise offset lines).Pairwise fun first second =>
      first.start < second.start := by
  induction lines generalizing offset with
  | nil => exact .nil
  | cons line lines ih =>
      rw [findInLines]
      cases recognise none line with
      | none => exact ih _
      | some form =>
          refine .cons (fun second mem => ?_) (ih _)
          have := le_start_of_mem_findInLines mem
          simp only
          omega

/-- What is found in lines tells which line has what, in the order of the lines. -/
theorem map_findInLines {α : Type} (f : List Char → α) (offset : Nat) (lines : List (List Char)) :
    (findInLines recognise offset lines).map (fun found => f found.part) =
      lines.filterMap fun line => (recognise none line).map fun form => f form.2 := by
  induction lines generalizing offset with
  | nil => rfl
  | cons line lines ih =>
      rw [findInLines, List.map_append, ih, List.filterMap_cons]
      cases recognise none line <;> rfl

end

theorem perm_findInLines_definition (offset : Nat) (lines : List (List Char)) :
    (findInLines keywordFunction offset lines ++ findInLines braceFunction offset lines).Perm
      (findInLines definition offset lines) := by
  induction lines generalizing offset with
  | nil => exact .nil
  | cons line lines ih =>
      have later := ih (offset + line.length + 1)
      simp only [findInLines, definition]
      cases keyword : keywordFunction none line with
      | some form =>
          rw [braceFunction_eq_none keyword]
          exact later.cons _
      | none =>
          rw [Option.none_or]
          exact List.perm_append_comm_assoc _ _ _ |>.trans (later.append_left _)

/-- The definitions of a text in order are those of its lines. -/
theorem definitions_eq (text : List Char) :
    definitions text = findInLines definition 0 (text.splitOn '\n') := by
  have perm := perm_findInLines_definition 0 (text.splitOn '\n')
  rw [← keywordForms.findAll_eq, ← braceForms.findAll_eq] at perm
  exact Sorting.mergeSort_eq_of_perm Found.start perm (pairwise_findInLines definition 0 _)

/-! ## Names in the order of the lines -/

/-- The name of the function that a line defines. -/
def definedName? (line : List Char) : Option String :=
  (definition none line).map fun form => String.ofList form.2

theorem definition_eq_some_iff {line : List Char} {form : Nat × List Char} :
    definition none line = some form ↔
      keywordFunction none line = some form ∨ braceFunction none line = some form := by
  rw [definition, Option.or_eq_some_iff]
  refine or_congr_right ⟨And.right, fun brace => ⟨?_, brace⟩⟩
  rw [Option.eq_none_iff_forall_ne_some]
  intro form' keyword
  rw [braceFunction_eq_none keyword] at brace
  cases brace

theorem definedName?_eq_some_iff {name : String} {line : List Char} :
    definedName? line = some name ↔ Defines name line := by
  simp only [definedName?, Option.map_eq_some_iff, definition_eq_some_iff,
    keywordFunction_eq_some_iff, braceFunction_eq_some_iff]
  constructor
  · rintro ⟨form,
      ⟨-, content, behind, same, keyword, -⟩ | ⟨-, content, behind, same, brace, -⟩, rfl⟩
    · exact ⟨content, behind, same, .inl (by rwa [String.toList_ofList])⟩
    · exact ⟨content, behind, same, .inr (by rwa [String.toList_ofList])⟩
  · rintro ⟨content, behind, same, keyword | brace⟩
    · exact ⟨(content.length, name.toList), .inl ⟨rfl, content, behind, same, keyword, rfl⟩,
        String.ofList_toList⟩
    · exact ⟨(content.length, name.toList), .inr ⟨rfl, content, behind, same, brace, rfl⟩,
        String.ofList_toList⟩

instance (name : String) (line : List Char) : Decidable (Defines name line) :=
  decidable_of_iff _ definedName?_eq_some_iff

/-- The functions of a text are those of its lines. -/
theorem functionNames_eq (text : List Char) :
    functionNames text = ((text.splitOn '\n').filterMap definedName?).eraseDups := by
  rw [functionNames, definitions_eq, map_findInLines]
  rfl

theorem mem_functionNames_iff {name : String} {text : List Char} :
    name ∈ functionNames text ↔ ∃ line ∈ text.splitOn '\n', Defines name line := by
  simp only [functionNames_eq, List.mem_eraseDups, List.mem_filterMap, definedName?_eq_some_iff]

/-- A name that comes behind others is new or already listed. -/
theorem eraseDups_concat (names : List String) (name : String) :
    (names ++ [name]).eraseDups =
      if name ∈ names then names.eraseDups else names.eraseDups ++ [name] := by
  rw [List.eraseDups_append, List.removeAll]
  by_cases mem : name ∈ names <;> simp [mem, List.eraseDups_cons]

/-- Leaving out repetitions and leaving out names can be done in either order. -/
theorem eraseDups_filter (keep : String → Bool) :
    ∀ names : List String, (names.filter keep).eraseDups = names.eraseDups.filter keep
  | [] => rfl
  | first :: rest => by
      have ih := eraseDups_filter keep (rest.filter fun name => !name == first)
      rw [List.eraseDups_cons]
      by_cases kept : keep first
      · rw [List.filter_cons_of_pos kept, List.filter_cons_of_pos kept, List.eraseDups_cons, ← ih,
          List.filter_comm]
      · rw [List.filter_cons_of_neg kept, List.filter_cons_of_neg kept, ← ih, List.filter_filter]
        congr 1
        refine List.filter_congr fun name _ => ?_
        by_cases same : name = first
        · simp [same, kept]
        · simp [same]
termination_by names => names.length
decreasing_by
  exact Nat.lt_succ_of_le (List.length_filter_le _ rest)

/-- The first of some lines, counted from zero, that defines the function of a name. -/
def firstDefinition (name : String) (lines : List (List Char)) : Nat :=
  lines.findIdx fun line => decide (Defines name line)

section

variable {name : String} {lines : List (List Char)}

theorem firstDefinition_lt_iff :
    firstDefinition name lines < lines.length ↔ name ∈ lines.filterMap definedName? := by
  simp only [firstDefinition, List.findIdx_lt_length, decide_eq_true_eq, List.mem_filterMap,
    definedName?_eq_some_iff]

/-- Lines that come behind do not change which line is the first one. -/
theorem firstDefinition_append (mem : name ∈ lines.filterMap definedName?)
    (later : List (List Char)) :
    firstDefinition name (lines ++ later) = firstDefinition name lines := by
  rw [firstDefinition, List.findIdx_append]
  exact if_pos (firstDefinition_lt_iff.mpr mem)

/-- What no line defines is first defined by a later one. -/
theorem length_le_firstDefinition (notMem : name ∉ lines.filterMap definedName?)
    (later : List (List Char)) : lines.length ≤ firstDefinition name (lines ++ later) := by
  have beyond : ¬ firstDefinition name lines < lines.length :=
    fun less => notMem (firstDefinition_lt_iff.mp less)
  rw [firstDefinition, List.findIdx_append, ← firstDefinition, if_neg beyond]
  exact Nat.le_add_left _ _

end

/-- Every name is listed where the first line defines it. -/
theorem pairwise_firstDefinition (lines : List (List Char)) :
    (lines.filterMap definedName?).eraseDups.Pairwise fun name later =>
      firstDefinition name lines < firstDefinition later lines := by
  induction lines using List.reverseRecOn with
  | nil => exact .nil
  | append_singleton lines line ih =>
      have before : (lines.filterMap definedName?).eraseDups.Pairwise fun name later =>
          firstDefinition name (lines ++ [line]) < firstDefinition later (lines ++ [line]) := by
        refine ih.imp_of_mem fun mem mem' less => ?_
        rwa [firstDefinition_append (List.mem_eraseDups.mp mem),
          firstDefinition_append (List.mem_eraseDups.mp mem')]
      rw [List.filterMap_append]
      cases defined : definedName? line with
      | none => simpa [defined] using before
      | some name =>
          rw [List.filterMap_cons_some defined, List.filterMap_nil, eraseDups_concat]
          split
          · exact before
          · next new =>
            refine List.pairwise_append.mpr ⟨before, List.pairwise_singleton _ _, ?_⟩
            intro earlier mem later same
            obtain rfl := List.mem_singleton.mp same
            have mem := List.mem_eraseDups.mp mem
            rw [firstDefinition_append mem]
            exact (firstDefinition_lt_iff.mpr mem).trans_le (length_le_firstDefinition new _)

/-- A text behind another one adds the functions that this one does not define. -/
theorem functionNames_append (text behind : List Char) :
    functionNames (text ++ '\n' :: behind) =
      functionNames text ++ (functionNames behind).filter (· ∉ functionNames text) := by
  rw [functionNames_eq (text ++ '\n' :: behind), List.splitOn_append_cons_self,
    List.filterMap_append, List.eraseDups_append, ← functionNames_eq, List.removeAll,
    eraseDups_filter, ← functionNames_eq]
  congr 1
  refine List.filter_congr fun name _ => ?_
  simp only [functionNames_eq text, List.mem_eraseDups, List.elem_eq_mem, decide_not]

/-- A line defines one function at most, by one of the two forms. The functions of a text are those
that its lines define, each once, in the order of the first lines that define them; and a text
behind another one adds the functions that this one does not define. -/
theorem functions_exact :
    (∀ line name, definedName? line = some name ↔ Defines name line) ∧
    ∀ text : List Char,
      (∀ name, name ∈ functionNames text ↔ ∃ line ∈ text.splitOn '\n', Defines name line) ∧
      (functionNames text).Nodup ∧
      ((functionNames text).Pairwise fun name later =>
        firstDefinition name (text.splitOn '\n') < firstDefinition later (text.splitOn '\n')) ∧
      ∀ behind, functionNames (text ++ '\n' :: behind) =
        functionNames text ++ (functionNames behind).filter (· ∉ functionNames text) := by
  refine ⟨fun _ _ => definedName?_eq_some_iff, fun text => ?_⟩
  have ordered := pairwise_firstDefinition (text.splitOn '\n')
  rw [← functionNames_eq] at ordered
  refine ⟨fun _ => mem_functionNames_iff, ordered.imp fun less => ?_, ordered,
    functionNames_append text⟩
  rintro rfl
  exact lt_irrefl _ less

end ScriptVet.Shell
