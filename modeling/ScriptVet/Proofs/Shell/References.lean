import Mathlib.Data.Nat.Find
import ScriptVet.Proofs.Shell.Found

/-!
# References to variables

A text refers to a variable wherever it goes on with one of four signs and then the name of the
variable, in full. The two searches for references together miss no such place: no reference
begins inside another one. Every name is listed once, in ascending order, with the line of the first
place that refers to it.
-/

namespace ScriptVet.Shell

/-! ## One reference -/

/-- The signs of references with a brace. -/
def bracedSigns : List (List Char) := [['$', '\x7b'], ['$', '\x7b', '#'], ['$', '\x7b', '!']]

/-- The signs that begin a reference. -/
def referenceSigns : List (List Char) := ['$'] :: bracedSigns

/-- The text goes on with a reference to the variable of a name. -/
def RefersTo (name : String) (text : List Char) : Prop :=
  IsName name ∧ ∃ sign ∈ referenceSigns, ∃ rest,
    text = sign ++ (name.toList ++ rest) ∧ Stops isNameChar rest

/-- A form that consists of a sign and a name, in full. -/
structure HasSign (sign : List Char) (form : Nat × List Char) (text : List Char) : Prop where
  isName : IsName (String.ofList form.2)
  size : form.1 = sign.length + form.2.length
  spelled : ∃ rest, text = sign ++ (form.2 ++ rest) ∧ Stops isNameChar rest

section

variable {before : Option Char} {text : List Char} {form : Nat × List Char}

theorem hasSign_of_spanName? (sign : List Char) {inner name rest : List Char}
    (spanned : spanName? inner = some (name, rest)) :
    HasSign sign (taken (sign ++ inner) rest, name) (sign ++ inner) := by
  obtain ⟨rfl, isName, stops⟩ := spanName?_eq_some_iff.mp spanned
  refine ⟨isName, ?_, rest, rfl, stops⟩
  rw [← List.append_assoc, taken_append, List.length_append]

theorem HasSign.exists_spanName? {sign : List Char} (h : HasSign sign form text) :
    ∃ inner rest, text = sign ++ inner ∧ spanName? inner = some (form.2, rest) ∧
      form.1 = taken text rest := by
  obtain ⟨rest, rfl, stops⟩ := h.spelled
  refine ⟨form.2 ++ rest, rest, rfl, spanName?_eq_some_iff.mpr ⟨rfl, h.isName, stops⟩, ?_⟩
  rw [h.size, ← List.append_assoc, taken_append, List.length_append]

theorem plainReference_eq_some_iff :
    plainReference before text = some form ↔ HasSign ['$'] form text := by
  constructor
  · intro h
    rw [plainReference.eq_def] at h
    simp only at h
    split at h
    · obtain ⟨⟨name, rest⟩, spanned, rfl⟩ := Option.map_eq_some_iff.mp h
      exact hasSign_of_spanName? ['$'] spanned
    · cases h
  · intro h
    obtain ⟨inner, rest, rfl, spanned, size⟩ := h.exists_spanName?
    change (spanName? inner).map (fun form => (taken (['$'] ++ inner) form.2, form.1)) = some form
    rw [spanned, Option.map_some, ← size]

/-- The text behind the mark that may follow the brace of a reference. -/
def dropMark : List Char → List Char
  | '#' :: inner => inner
  | '!' :: inner => inner
  | inner => inner

theorem dropMark_append {name : List Char} (rest : List Char)
    (isName : IsName (String.ofList name)) : dropMark (name ++ rest) = name ++ rest := by
  obtain ⟨c, tail, rfl, start⟩ := exists_cons_of_isName isName
  rw [List.cons_append, dropMark.eq_def]
  split
  · next same => cases same; cases start
  · next same => cases same; cases start
  · rfl

/-- A sign begins with its only dollar. -/
theorem exists_dollar {sign : List Char} (mem : sign ∈ referenceSigns) :
    ∃ tail, sign = '$' :: tail ∧ '$' ∉ tail := by
  simp only [referenceSigns, bracedSigns, List.mem_cons, List.not_mem_nil, or_false] at mem
  rcases mem with rfl | rfl | rfl | rfl <;> exact ⟨_, rfl, by decide⟩

/-- A sign with a brace ends in the brace or in a mark that is dropped. -/
theorem exists_mark {sign : List Char} (mem : sign ∈ bracedSigns) :
    ∃ mark, sign = '$' :: '\x7b' :: mark ∧
      ∀ inner, dropMark inner = inner → dropMark (mark ++ inner) = inner := by
  simp only [bracedSigns, List.mem_cons, List.not_mem_nil, or_false] at mem
  rcases mem with rfl | rfl | rfl
  · exact ⟨[], rfl, fun _ plain => plain⟩
  · exact ⟨['#'], rfl, fun _ _ => rfl⟩
  · exact ⟨['!'], rfl, fun _ _ => rfl⟩

theorem bracedReference_brace (rest : List Char) :
    bracedReference before ('$' :: '\x7b' :: rest) =
      (spanName? (dropMark rest)).map fun form =>
        (taken ('$' :: '\x7b' :: rest) form.2, form.1) := by
  rw [dropMark.eq_def, Option.map_eq_bind]
  split
  · rfl
  · rfl
  · next hash bang =>
    rw [bracedReference]
    · rfl
    · exact fun inner same => hash inner same
    · exact fun inner same => bang inner same

theorem bracedReference_eq_some_iff :
    bracedReference before text = some form ↔ ∃ sign ∈ bracedSigns, HasSign sign form text := by
  constructor
  · intro h
    rw [bracedReference.eq_def] at h
    simp only at h
    split at h
    · simp only [Option.bind_eq_bind, Option.bind_eq_some_iff] at h
      obtain ⟨⟨name, rest⟩, spanned, same⟩ := h
      cases same
      split at spanned
      · exact ⟨['$', '\x7b', '#'], by decide, hasSign_of_spanName? _ spanned⟩
      · exact ⟨['$', '\x7b', '!'], by decide, hasSign_of_spanName? _ spanned⟩
      · exact ⟨['$', '\x7b'], by decide, hasSign_of_spanName? _ spanned⟩
    · cases h
  · rintro ⟨sign, mem, h⟩
    obtain ⟨mark, rfl, marked⟩ := exists_mark mem
    obtain ⟨inner, rest, rfl, spanned, size⟩ := h.exists_spanName?
    have plain : dropMark inner = inner := by
      obtain ⟨rfl, isName, -⟩ := spanName?_eq_some_iff.mp spanned
      exact dropMark_append rest isName
    rw [List.cons_append, List.cons_append] at size ⊢
    rw [bracedReference_brace, marked inner plain, spanned, Option.map_some, ← size]

theorem refersTo_iff {name : String} :
    RefersTo name text ↔
      ∃ size, ∃ sign ∈ referenceSigns, HasSign sign (size, name.toList) text := by
  constructor
  · rintro ⟨isName, sign, mem, spelled⟩
    exact ⟨sign.length + name.toList.length, sign, mem, by rwa [String.ofList_toList], rfl, spelled⟩
  · rintro ⟨size, sign, mem, isName, -, spelled⟩
    exact ⟨by rwa [String.ofList_toList] at isName, sign, mem, spelled⟩

/-- Behind its first character a reference holds no dollar, so no other one begins inside it. -/
theorem HasSign.not_of_inside {sign sign' : List Char} (mem : sign ∈ referenceSigns)
    (mem' : sign' ∈ referenceSigns) (h : HasSign sign form text) {inside rest : List Char}
    (parts : text = inside ++ rest) (within : inside ≠ []) (short : inside.length < form.1)
    (form' : Nat × List Char) : ¬ HasSign sign' form' rest := by
  intro h'
  obtain ⟨tail, rfl, free⟩ := exists_dollar mem
  obtain ⟨tail', rfl, -⟩ := exists_dollar mem'
  obtain ⟨after, rfl, -⟩ := h.spelled
  obtain ⟨after', rfl, -⟩ := h'.spelled
  have nameFree : '$' ∉ form.2 := by simpa using notMem_of_isName h.isName (c := '$') (by decide)
  cases inside with
  | nil => exact within rfl
  | cons c inside =>
      have parts : tail ++ form.2 ++ after = inside ++ '$' :: (tail' ++ (form'.2 ++ after')) := by
        simpa using (List.cons.inj parts).2
      rcases List.append_eq_append_iff.mp parts with ⟨more, rfl, -⟩ | ⟨more, same, rest⟩
      · simp [h.size] at short
        omega
      · cases more with
        | nil =>
            have size := h.size
            rw [List.append_nil] at same
            simp [← same] at size short
            omega
        | cons d more =>
            have there : '$' ∈ tail ++ form.2 := by
              rw [same, (List.cons.inj rest).1]
              exact List.mem_append_right _ List.mem_cons_self
            exact (List.mem_append.mp there).elim free nameFree

/-- Every reference is found, whatever stands around it. -/
theorem mem_findAll_reference_iff {recognise : Recogniser} {signs : List (List Char)}
    (subset : signs ⊆ referenceSigns)
    (spec : ∀ before text form,
      recognise before text = some form ↔ ∃ sign ∈ signs, HasSign sign form text)
    {found : Found} :
    found ∈ findAll recognise text ↔
      ∃ passed rest form, text = passed ++ rest ∧ (∃ sign ∈ signs, HasSign sign form rest) ∧
        found = .behind passed form := by
  have apart {before : Option Char} {text : List Char} {form : Nat × List Char}
      (here : recognise before text = some form) (inside rest : List Char)
      (parts : text = inside ++ rest) (within : inside ≠ []) (short : inside.length < form.1) :
      recognise inside.getLast? rest = none := by
    obtain ⟨sign, mem, h⟩ := (spec _ _ _).mp here
    rw [Option.eq_none_iff_forall_ne_some]
    intro form' here'
    obtain ⟨sign', mem', h'⟩ := (spec _ _ _).mp here'
    exact h.not_of_inside (subset mem) (subset mem') parts within short form' h'
  have nonempty (before : Option Char) : recognise before [] = none := by
    rw [Option.eq_none_iff_forall_ne_some]
    intro form here
    obtain ⟨sign, mem, h⟩ := (spec _ _ _).mp here
    obtain ⟨rest, same, -⟩ := h.spelled
    rw [eq_comm, List.append_eq_nil_iff] at same
    rw [same.1] at mem
    exact absurd (subset mem) (by decide)
  simp only [mem_findAll_iff_of_apart apart nonempty, spec]

theorem mem_findAll_plain_iff {found : Found} :
    found ∈ findAll plainReference text ↔
      ∃ passed rest form, text = passed ++ rest ∧ (∃ sign ∈ [['$']], HasSign sign form rest) ∧
        found = .behind passed form := by
  refine mem_findAll_reference_iff (by decide) fun before text form => ?_
  simp only [plainReference_eq_some_iff, List.mem_singleton, exists_eq_left]

theorem mem_findAll_braced_iff {found : Found} :
    found ∈ findAll bracedReference text ↔
      ∃ passed rest form, text = passed ++ rest ∧ (∃ sign ∈ bracedSigns, HasSign sign form rest) ∧
        found = .behind passed form :=
  mem_findAll_reference_iff (by decide) fun _ _ _ => bracedReference_eq_some_iff

end

/-! ## All references -/

section

variable {name : String} {text : List Char} {line : Nat}

theorem lineIn_behind {passed rest : List Char} (form : Nat × List Char) :
    (Found.behind passed form).lineIn (passed ++ rest) = Text.lineFeeds passed + 1 := by
  rw [Found.lineIn, Text.lineOf, Found.behind, List.take_left]

theorem mem_referenceLines_iff :
    (name, line) ∈ referenceLines text ↔
      ∃ passed rest, text = passed ++ rest ∧ RefersTo name rest ∧
        line = Text.lineFeeds passed + 1 := by
  simp only [referenceLines, List.mem_map, List.mem_append, mem_findAll_braced_iff,
    mem_findAll_plain_iff, Prod.mk.injEq]
  constructor
  · rintro ⟨found, here, rfl, rfl⟩
    obtain ⟨passed, rest, form, sign, rfl, mem, h, rfl⟩ : ∃ passed rest form sign,
        text = passed ++ rest ∧ sign ∈ referenceSigns ∧ HasSign sign form rest ∧
          found = .behind passed form := by
      rcases here with ⟨passed, rest, form, same, ⟨sign, mem, h⟩, rfl⟩ |
        ⟨passed, rest, form, same, ⟨sign, mem, h⟩, rfl⟩
      · exact ⟨passed, rest, form, sign, same, List.mem_cons_of_mem _ mem, h, rfl⟩
      · refine ⟨passed, rest, form, sign, same, ?_, h, rfl⟩
        rw [List.mem_singleton.mp mem]
        exact List.mem_cons_self
    refine ⟨passed, rest, rfl, refersTo_iff.mpr ⟨form.1, sign, mem, ?_⟩, lineIn_behind form⟩
    rwa [Found.behind, String.toList_ofList]
  · rintro ⟨passed, rest, rfl, refers, rfl⟩
    obtain ⟨size, sign, mem, h⟩ := refersTo_iff.mp refers
    refine ⟨.behind passed (size, name.toList), ?_, String.ofList_toList, lineIn_behind _⟩
    rcases List.mem_cons.mp mem with rfl | mem
    · exact .inr ⟨passed, rest, _, rfl, ⟨['$'], List.mem_singleton_self _, h⟩, rfl⟩
    · exact .inl ⟨passed, rest, _, rfl, ⟨sign, mem, h⟩, rfl⟩

/-- The text passed stands before the first place that refers to the variable of a name. -/
structure IsFirstReference (name : String) (text passed : List Char) : Prop where
  refers : ∃ rest, text = passed ++ rest ∧ RefersTo name rest
  first : ∀ earlier rest, text = earlier ++ rest → RefersTo name rest →
    passed.length ≤ earlier.length

theorem IsFirstReference.isName {passed : List Char} (h : IsFirstReference name text passed) :
    IsName name := by
  obtain ⟨rest, -, isName, -⟩ := h.refers
  exact isName

theorem exists_isFirstReference {passed rest : List Char} (same : text = passed ++ rest)
    (refers : RefersTo name rest) : ∃ first, IsFirstReference name text first := by
  classical
  have some : ∃ n, ∃ passed rest, text = passed ++ rest ∧ RefersTo name rest ∧
      passed.length = n := ⟨_, passed, rest, same, refers, rfl⟩
  obtain ⟨first, rest', same', refers', least⟩ := Nat.find_spec some
  refine ⟨first, ⟨rest', same', refers'⟩, fun earlier rest parts refers => ?_⟩
  rw [least]
  exact Nat.find_min' some ⟨earlier, rest, parts, refers, rfl⟩

theorem IsFirstReference.unique {passed passed' : List Char}
    (h : IsFirstReference name text passed) (h' : IsFirstReference name text passed') :
    passed = passed' := by
  obtain ⟨rest, same, refers⟩ := h.refers
  obtain ⟨rest', same', refers'⟩ := h'.refers
  have length := Nat.le_antisymm (h.first passed' rest' same' refers')
    (h'.first passed rest same refers)
  exact (List.append_inj (same.symm.trans same') length).1

/-- The first place is on the first line. -/
theorem firstLineOf_eq {passed : List Char} (h : IsFirstReference name text passed) :
    firstLineOf (referenceLines text) name = Text.lineFeeds passed + 1 := by
  have least : (((referenceLines text).filter (·.1 == name)).map (·.2)).min? =
      some (Text.lineFeeds passed + 1) := by
    rw [List.min?_eq_some_iff]
    simp only [List.mem_map, List.mem_filter, beq_iff_eq, Prod.exists, exists_eq_right,
      mem_referenceLines_iff]
    constructor
    · obtain ⟨rest, same, refers⟩ := h.refers
      exact ⟨passed, rest, same, refers, rfl⟩
    · rintro line ⟨later, rest, same, refers, rfl⟩
      obtain ⟨rest', same', -⟩ := h.refers
      have lines := Text.lineOf_mono text (h.first later rest same refers)
      rw [Text.lineOf, Text.lineOf, same, List.take_left, ← same, same', List.take_left] at lines
      exact lines
  rw [firstLineOf, least, Option.getD_some]

theorem mem_references_iff :
    (name, line) ∈ references text ↔
      ∃ passed, IsFirstReference name text passed ∧ line = Text.lineFeeds passed + 1 := by
  simp only [references, List.mem_map, mem_sortedSet, Prod.mk.injEq]
  constructor
  · rintro ⟨name, ⟨⟨name', line⟩, mem, rfl⟩, rfl, rfl⟩
    obtain ⟨passed, rest, same, refers, -⟩ := mem_referenceLines_iff.mp mem
    obtain ⟨first, h⟩ := exists_isFirstReference same refers
    exact ⟨first, h, firstLineOf_eq h⟩
  · rintro ⟨passed, h, rfl⟩
    obtain ⟨rest, same, refers⟩ := h.refers
    exact ⟨name, ⟨_, mem_referenceLines_iff.mpr ⟨passed, rest, same, refers, rfl⟩, rfl⟩, rfl,
      firstLineOf_eq h⟩

theorem mem_map_references_iff :
    name ∈ (references text).map Prod.fst ↔ ∃ passed, IsFirstReference name text passed := by
  rw [List.mem_map]
  constructor
  · rintro ⟨⟨name, line⟩, mem, rfl⟩
    obtain ⟨passed, first, -⟩ := mem_references_iff.mp mem
    exact ⟨passed, first⟩
  · rintro ⟨passed, first⟩
    exact ⟨_, mem_references_iff.mpr ⟨passed, first, rfl⟩, rfl⟩

theorem pairwise_references : ((references text).map Prod.fst).Pairwise (· < ·) := by
  rw [references, List.map_map]
  simpa only [Function.comp_def, List.map_id'] using pairwise_sortedSet _

/-- The references of a text are the variables that some place of it refers to, each with the line
of the first such place, in strictly ascending order of their names. -/
theorem references_exact (text : List Char) :
    (∀ name line, (name, line) ∈ references text ↔
      ∃ passed, IsFirstReference name text passed ∧ line = Text.lineFeeds passed + 1) ∧
    ((references text).map Prod.fst).Pairwise (· < ·) :=
  ⟨fun _ _ => mem_references_iff, pairwise_references⟩

end

end ScriptVet.Shell
