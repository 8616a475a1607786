import Mathlib.Data.List.Pairwise
import Mathlib.Data.List.TakeWhile
import Mathlib.Data.String.Basic
import ScriptVet.Proofs.Sorting
import ScriptVet.Shell.Words

/-!
# Searching shell text

What a search lists is what is recognised, place by place, except where an earlier form already
covers the place: forms are listed in the order of their places and never overlap. A kind of form
that never begins inside another one of its kind is found wherever it stands.
-/

namespace ScriptVet.Shell

open Text (isBlank)

/-! ## Runs of characters -/

/-- The text does not go on with a character of the class. -/
def Stops (inClass : Char → Bool) (rest : List Char) : Prop :=
  ∀ c ∈ rest.head?, inClass c = false

section

variable {inClass : Char → Bool} {run rest : List Char}

@[simp] theorem stops_nil : Stops inClass [] := nofun

@[simp] theorem stops_cons {c : Char} : Stops inClass (c :: rest) ↔ inClass c = false := by
  simp [Stops]

theorem takeWhile_run (all : ∀ c ∈ run, inClass c) (stops : Stops inClass rest) :
    (run ++ rest).takeWhile inClass = run := by
  rw [List.takeWhile_append_of_pos all]
  cases rest with
  | nil => simp
  | cons c rest => simp [stops_cons.mp stops]

theorem dropWhile_run (all : ∀ c ∈ run, inClass c) (stops : Stops inClass rest) :
    (run ++ rest).dropWhile inClass = rest := by
  rw [List.dropWhile_append_of_pos all]
  cases rest with
  | nil => rfl
  | cons c rest => simp [stops_cons.mp stops]

theorem stops_dropWhile {cs : List Char} : Stops inClass (cs.dropWhile inClass) := by
  intro c head
  have stops := List.head?_dropWhile_not inClass cs
  rwa [Option.mem_def.mp head] at stops

/-- Every text begins with a run of a class, perhaps an empty one. -/
theorem exists_run (inClass : Char → Bool) (cs : List Char) :
    ∃ run rest, cs = run ++ rest ∧ (∀ c ∈ run, inClass c) ∧ Stops inClass rest :=
  ⟨cs.takeWhile inClass, cs.dropWhile inClass, List.takeWhile_append_dropWhile.symm,
    fun _ mem => List.mem_takeWhile_imp mem, stops_dropWhile⟩

/-- Every text ends in a run of a class, perhaps an empty one. -/
theorem exists_lastRun (inClass : Char → Bool) (cs : List Char) :
    ∃ front run, cs = front ++ run ∧ (∀ c ∈ run, inClass c) ∧
      ∀ c ∈ front.getLast?, inClass c = false := by
  obtain ⟨run, front, same, all, stops⟩ := exists_run inClass cs.reverse
  refine ⟨front.reverse, run.reverse, ?_, by simpa using all, by simpa [Stops] using stops⟩
  rw [← List.reverse_append, ← same, List.reverse_reverse]

theorem Stops.of_append (stops : Stops inClass (run ++ rest)) : Stops inClass run := by
  cases run with
  | nil => exact stops_nil
  | cons c run => exact stops

theorem Stops.append (stops : Stops inClass run) (some : run ≠ []) :
    Stops inClass (run ++ rest) := by
  cases run with
  | nil => exact absurd rfl some
  | cons c run => exact stops

theorem skipSome?_eq_some_iff {cs : List Char} :
    skipSome? inClass cs = some rest ↔
      ∃ run, run ≠ [] ∧ (∀ c ∈ run, inClass c) ∧ cs = run ++ rest ∧ Stops inClass rest := by
  constructor
  · intro h
    cases cs with
    | nil => cases h
    | cons c cs =>
        rw [skipSome?, Option.ite_none_right_eq_some] at h
        obtain ⟨first, h⟩ := h
        cases h
        refine ⟨c :: cs.takeWhile inClass, List.cons_ne_nil _ _,
          List.forall_mem_cons.mpr ⟨first, fun d mem => List.mem_takeWhile_imp mem⟩, ?_,
          stops_dropWhile⟩
        rw [List.cons_append, List.takeWhile_append_dropWhile]
  · rintro ⟨run, some, all, rfl, stops⟩
    cases run with
    | nil => exact absurd rfl some
    | cons c run =>
        have all := List.forall_mem_cons.mp all
        rw [List.cons_append, skipSome?, if_pos all.1, dropWhile_run all.2 stops]

theorem skipSome?_eq_none_iff {cs : List Char} :
    skipSome? inClass cs = none ↔ Stops inClass cs := by
  cases cs with
  | nil => simp [skipSome?]
  | cons c cs => simp [skipSome?]

end

/-- Blanks, at least one. -/
def IsGap (gap : List Char) : Prop :=
  gap ≠ [] ∧ ∀ c ∈ gap, isBlank c

/-- A gap stops every run of characters that are no blanks. -/
theorem IsGap.stops {gap : List Char} (isGap : IsGap gap) (rest : List Char)
    {inClass : Char → Bool} (apart : ∀ c, inClass c → isBlank c = false) :
    Stops inClass (gap ++ rest) := by
  obtain ⟨some, all⟩ := isGap
  cases gap with
  | nil => exact absurd rfl some
  | cons c gap =>
      rw [List.cons_append, stops_cons, Bool.eq_false_iff]
      intro member
      have blank := all c List.mem_cons_self
      rw [apart c member] at blank
      cases blank


/-- A form that ends in a character ends before text without that character. -/
theorem exists_append_of_getLast? {cs behind form rest : List Char} {c : Char}
    (same : cs ++ behind = form ++ rest) (ends : form.getLast? = some c) (free : c ∉ behind) :
    ∃ more, cs = form ++ more ∧ rest = more ++ behind := by
  rcases List.append_eq_append_iff.mp same with ⟨more, rfl, rfl⟩ | ⟨more, rfl, rfl⟩
  · by_cases none : more = []
    · exact ⟨[], by simp [none], by simp [none]⟩
    · rw [List.getLast?_append_of_ne_nil _ none] at ends
      exact absurd (List.mem_append_left rest (List.mem_of_getLast? ends)) free
  · exact ⟨more, rfl, rfl⟩

/-- What is left behind a form tells its size. -/
theorem taken_append (form rest : List Char) : taken (form ++ rest) rest = form.length := by
  rw [taken, List.length_append, Nat.add_sub_cancel]

/-! ## Texts in order -/

theorem mem_sortedSet {texts : List String} {text : String} :
    text ∈ sortedSet texts ↔ text ∈ texts := by
  rw [sortedSet, List.mem_eraseDups]
  exact (List.mergeSort_perm texts _).mem_iff

/-- Leaving out the repetitions of a list in order leaves it in strict order. -/
theorem pairwise_lt_eraseDups :
    ∀ {texts : List String}, texts.Pairwise (· ≤ ·) → texts.eraseDups.Pairwise (· < ·)
  | [], _ => .nil
  | first :: rest, ordered => by
      have later := List.pairwise_cons.mp ordered
      rw [List.eraseDups_cons, List.pairwise_cons]
      refine ⟨fun text mem => ?_, pairwise_lt_eraseDups (later.2.filter _)⟩
      obtain ⟨mem, other⟩ := List.mem_filter.mp (List.mem_eraseDups.mp mem)
      have other : text ≠ first := by simpa using other
      exact lt_of_le_of_ne (later.1 text mem) other.symm
termination_by texts => texts.length
decreasing_by
  exact Nat.lt_succ_of_le (List.length_filter_le _ rest)

theorem pairwise_sortedSet (texts : List String) : (sortedSet texts).Pairwise (· < ·) :=
  pairwise_lt_eraseDups (Sorting.pairwise_mergeSort (fun text => text) texts)

/-- A list in strict order by its keys is determined by its members. -/
theorem eq_of_mem_iff {α : Type} (key : α → String) {list list' : List α}
    (ordered : (list.map key).Pairwise (· < ·)) (ordered' : (list'.map key).Pairwise (· < ·))
    (same : ∀ a, a ∈ list ↔ a ∈ list') : list = list' := by
  rw [List.pairwise_map] at ordered ordered'
  have distinct {list : List α} (ordered : list.Pairwise fun a b => key a < key b) :
      list.Nodup := ordered.imp fun less => by
    rintro rfl
    exact lt_irrefl _ less
  refine List.Perm.eq_of_pairwise (fun a b _ _ less greater => ?_) ordered ordered'
    ((List.perm_ext_iff_of_nodup (distinct ordered) (distinct ordered')).mpr same)
  exact absurd greater (lt_asymm less)

/-- The order and the repetitions of a list make no difference to its set. -/
theorem sortedSet_congr {texts texts' : List String} (same : ∀ text, text ∈ texts ↔ text ∈ texts') :
    sortedSet texts = sortedSet texts' := by
  refine eq_of_mem_iff id ?_ ?_ fun text => ?_
  · simpa using pairwise_sortedSet texts
  · simpa using pairwise_sortedSet texts'
  · rw [mem_sortedSet, mem_sortedSet, same]

/-! ## Searching -/

/-- A form of a size and with a part, as it is listed when it stands behind the text passed. -/
def Found.behind (passed : List Char) (form : Nat × List Char) : Found :=
  ⟨passed.length, passed.length + form.1, form.2⟩

theorem getLast?_cons_or (c : Char) (passed : List Char) (before : Option Char) :
    (c :: passed).getLast?.or before = passed.getLast?.or (some c) := by
  rw [List.getLast?_cons]
  cases passed.getLast? <;> rfl

section

variable {recognise : Recogniser} {found : Found} {text : List Char}

/-- What a search lists was recognised at its place. The character before the place is the last one
that was passed. -/
theorem exists_of_mem_findFrom {offset skip : Nat} {before : Option Char}
    (h : found ∈ findFrom recognise offset skip before text) :
    ∃ passed rest form, text = passed ++ rest ∧
      recognise (passed.getLast?.or before) rest = some form ∧ skip ≤ passed.length ∧
      found = ⟨offset + passed.length, offset + passed.length + form.1, form.2⟩ := by
  induction text generalizing offset skip before with
  | nil => cases skip <;> cases h
  | cons c text ih =>
      have later {skip' : Nat} (le : skip ≤ skip' + 1)
          (h : found ∈ findFrom recognise (offset + 1) skip' (some c) text) :
          ∃ passed rest form, c :: text = passed ++ rest ∧
            recognise (passed.getLast?.or before) rest = some form ∧ skip ≤ passed.length ∧
            found = ⟨offset + passed.length, offset + passed.length + form.1, form.2⟩ := by
        obtain ⟨passed, rest, form, same, here, le', rfl⟩ := ih h
        refine ⟨c :: passed, rest, form, by rw [same, List.cons_append], ?_, ?_, ?_⟩
        · rw [getLast?_cons_or, here]
        · rw [List.length_cons]
          omega
        · rw [List.length_cons]
          congr 1 <;> omega
      cases skip with
      | succ skip => exact later le_rfl h
      | zero =>
          rw [findFrom] at h
          cases here : recognise before (c :: text) with
          | none =>
              rw [here] at h
              exact later (Nat.zero_le _) h
          | some form =>
              rw [here] at h
              rcases List.mem_cons.mp h with rfl | h
              · exact ⟨[], c :: text, form, rfl, here, le_rfl, rfl⟩
              · exact later (Nat.zero_le _) h

theorem exists_of_mem_findAll (h : found ∈ findAll recognise text) :
    ∃ passed rest form, text = passed ++ rest ∧ recognise passed.getLast? rest = some form ∧
      found = .behind passed form := by
  obtain ⟨passed, rest, form, same, here, -, rfl⟩ := exists_of_mem_findFrom h
  rw [Option.or_none] at here
  exact ⟨passed, rest, form, same, here, by simp [Found.behind]⟩

/-- What is recognised is listed, unless its place is covered by a form that began earlier. -/
theorem mem_or_covered_from (offset : Nat) {skip : Nat} {before : Option Char}
    {passed rest : List Char} {form : Nat × List Char} (more : rest ≠ [])
    (free : skip ≤ passed.length) (here : recognise (passed.getLast?.or before) rest = some form) :
    ⟨offset + passed.length, offset + passed.length + form.1, form.2⟩ ∈
        findFrom recognise offset skip before (passed ++ rest) ∨
      ∃ found ∈ findFrom recognise offset skip before (passed ++ rest),
        found.start < offset + passed.length ∧ offset + passed.length < found.stop := by
  induction passed generalizing offset skip before with
  | nil =>
      cases Nat.le_zero.mp free
      cases rest with
      | nil => exact absurd rfl more
      | cons c rest =>
          have here : recognise before (c :: rest) = some form := here
          refine .inl ?_
          rw [List.nil_append, findFrom, here]
          exact List.mem_cons_self
  | cons d passed ih =>
      rw [getLast?_cons_or] at here
      rw [List.length_cons] at free
      have shift : offset + (d :: passed).length = offset + 1 + passed.length := by
        rw [List.length_cons]
        omega
      rw [shift, List.cons_append]
      cases skip with
      | succ skip => exact ih (offset + 1) (Nat.le_of_succ_le_succ free) here
      | zero =>
          rw [findFrom]
          cases first : recognise before (d :: (passed ++ rest)) with
          | none => exact ih (offset + 1) (Nat.zero_le _) here
          | some size =>
              -- The form that begins here covers the place, or ends before it.
              by_cases covers : passed.length < size.1 - 1
              · exact .inr ⟨_, List.mem_cons_self, by simp only; omega, by simp only; omega⟩
              · rcases ih (offset + 1) (Nat.le_of_not_lt covers) here with listed | covered
                · exact .inl (List.mem_cons_of_mem _ listed)
                · obtain ⟨found, mem, covered⟩ := covered
                  exact .inr ⟨found, List.mem_cons_of_mem _ mem, covered⟩

theorem mem_or_covered {passed rest : List Char} {form : Nat × List Char} (more : rest ≠ [])
    (here : recognise passed.getLast? rest = some form) :
    .behind passed form ∈ findAll recognise (passed ++ rest) ∨
      ∃ found ∈ findAll recognise (passed ++ rest),
        found.start < passed.length ∧ passed.length < found.stop := by
  have here' : recognise (passed.getLast?.or none) rest = some form := by rwa [Option.or_none]
  have listed := mem_or_covered_from 0 more (Nat.zero_le _) here'
  simp only [Nat.zero_add] at listed
  exact listed

/-- The forms stand one behind the other. -/
theorem pairwise_findFrom (offset skip : Nat) (before : Option Char) :
    (findFrom recognise offset skip before text).Pairwise fun first second =>
      first.stop ≤ second.start := by
  induction text generalizing offset skip before with
  | nil => cases skip <;> exact .nil
  | cons c text ih =>
      cases skip with
      | succ skip => exact ih _ _ _
      | zero =>
          rw [findFrom]
          cases recognise before (c :: text) with
          | none => exact ih _ _ _
          | some form =>
              refine .cons (fun second mem => ?_) (ih _ _ _)
              obtain ⟨passed, rest, form', -, -, le, rfl⟩ := exists_of_mem_findFrom mem
              simp only
              omega

/-- Forms that cover one place are the same form. -/
theorem eq_of_covers {found' : Found} (mem : found ∈ findAll recognise text)
    (mem' : found' ∈ findAll recognise text) {offset : Nat}
    (covers : found.start ≤ offset ∧ offset < found.stop)
    (covers' : found'.start ≤ offset ∧ offset < found'.stop) : found = found' := by
  by_contra other
  have apart : (findAll recognise text).Pairwise fun first second =>
      first.stop ≤ second.start ∨ second.stop ≤ first.start :=
    (pairwise_findFrom 0 0 none).imp .inl
  have : Std.Symm fun first second : Found =>
      first.stop ≤ second.start ∨ second.stop ≤ first.start := ⟨fun _ _ => Or.symm⟩
  have := apart.forall mem mem' other
  omega

/-- A form at the beginning of a text is listed. -/
theorem mem_findAll_of_start {form : Nat × List Char} (more : text ≠ [])
    (here : recognise none text = some form) : .behind [] form ∈ findAll recognise text := by
  have here' : recognise ([] : List Char).getLast? text = some form := here
  rcases mem_or_covered more here' with listed | ⟨found, -, before, -⟩
  · exact listed
  · exact absurd before (Nat.not_lt_zero _)

/-- Forms that never begin inside one of their kind are listed wherever they stand. -/
theorem mem_findAll_iff_of_apart
    (apart : ∀ {before text form}, recognise before text = some form →
      ∀ inside rest, text = inside ++ rest → inside ≠ [] → inside.length < form.1 →
        recognise inside.getLast? rest = none)
    (nonempty : ∀ before, recognise before [] = none) :
    found ∈ findAll recognise text ↔
      ∃ passed rest form, text = passed ++ rest ∧ recognise passed.getLast? rest = some form ∧
        found = .behind passed form := by
  refine ⟨exists_of_mem_findAll, ?_⟩
  rintro ⟨passed, rest, form, rfl, here, rfl⟩
  have more : rest ≠ [] := by
    rintro rfl
    rw [nonempty] at here
    cases here
  rcases mem_or_covered more here with listed | ⟨found, mem, before, covered⟩
  · exact listed
  · obtain ⟨passed', rest', form', same, here', rfl⟩ := exists_of_mem_findAll mem
    simp only [Found.behind] at before covered
    rcases List.append_eq_append_iff.mp same with ⟨inside, rfl, rfl⟩ | ⟨inside, rfl, rfl⟩
    · rw [List.length_append] at before
      omega
    · rw [List.length_append] at before covered
      have within : inside ≠ [] := by
        rintro rfl
        exact absurd before (by simp)
      have none := apart here' inside rest rfl within (by omega)
      rw [List.getLast?_append_of_ne_nil _ within, none] at here
      cases here

end

end ScriptVet.Shell
