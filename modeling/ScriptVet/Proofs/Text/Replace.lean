import Mathlib.Data.List.DropRight
import ScriptVet.Text.Blank
import ScriptVet.Text.Search

/-!
# Replacing one text after another

A text is scanned for a part that is not empty: either it continues with the part, and the scan goes
on behind it, or the scan passes one character. What is proved here about replaced texts follows the
scan. Occurrences may overlap, and a replacement may make new ones together with what is beside it,
so that replacing twice is replacing once only where the second part cannot come about that way.
-/

namespace ScriptVet.Text

/-- A part does not occur where one of its characters does not. -/
theorem notInfix_of_notMem {part text : List Char} {c : Char} (absent : c ∉ text)
    (holds : c ∈ part) : ¬ part <:+: text :=
  fun inside => absent (inside.subset holds)

@[simp] theorem replaceAll_empty (replacement s : String) : replaceAll "" replacement s = s := by
  rw [replaceAll]
  exact if_pos (String.isEmpty_iff.mpr rfl)

/-- A part that does not occur is not replaced. -/
theorem replaceAll_eq_self {part replacement s : String} (h : ¬ part.toList <:+: s.toList) :
    replaceAll part replacement s = s := by
  rw [replaceAll]
  split
  · rfl
  · rw [replaceFrom_eq_self h, String.ofList_toList]

theorem toList_replaceAll {part : String} (some : part.toList ≠ []) (replacement s : String) :
    (replaceAll part replacement s).toList =
      replaceFrom part.toList replacement.toList 0 s.toList := by
  have given : part.isEmpty = false := by
    rw [← Bool.not_eq_true, String.isEmpty_iff]
    rintro rfl
    exact some rfl
  rw [replaceAll, given]
  exact String.toList_ofList

section

variable {part replacement : List Char}

/-! ## The scan -/

theorem replaceFrom_length_append (passed rest : List Char) :
    replaceFrom part replacement passed.length (passed ++ rest) =
      replaceFrom part replacement 0 rest := by
  induction passed with
  | nil => rfl
  | cons c passed ih => exact ih

/-- Where the text continues with the part, that is replaced. -/
theorem replaceFrom_append (some : part ≠ []) (rest : List Char) :
    replaceFrom part replacement 0 (part ++ rest) =
      replacement ++ replaceFrom part replacement 0 rest := by
  cases part with
  | nil => exact absurd rfl some
  | cons c part =>
      have found : (c :: part).isPrefixOf (c :: (part ++ rest)) :=
        List.isPrefixOf_iff_prefix.mpr (List.prefix_append (c :: part) rest)
      rw [List.cons_append, replaceFrom, if_pos found, List.length_cons, Nat.add_sub_cancel,
        replaceFrom_length_append]

/-- A part in front of a text in which it does not occur is all that is replaced. -/
theorem replaceAll_append {part s : String} (some : part.toList ≠ [])
    (absent : ¬ part.toList <:+: s.toList) (replacement : String) :
    replaceAll part replacement (part ++ s) = replacement ++ s := by
  rw [← String.toList_inj, toList_replaceAll some, String.toList_append, replaceFrom_append some,
    replaceFrom_eq_self absent, String.toList_append]

/-- Elsewhere one character is passed. -/
theorem replaceFrom_cons {c : Char} {rest : List Char} (absent : ¬ part <+: c :: rest) :
    replaceFrom part replacement 0 (c :: rest) = c :: replaceFrom part replacement 0 rest := by
  rw [replaceFrom, if_neg]
  exact fun found => absent (List.isPrefixOf_iff_prefix.mp found)

/-- Induction along the scan for a part. -/
theorem scan_induction (some : part ≠ []) {motive : List Char → Prop} (nil : motive [])
    (found : ∀ rest, motive rest → motive (part ++ rest))
    (passed : ∀ c rest, ¬ part <+: c :: rest → motive rest → motive (c :: rest))
    (text : List Char) : motive text := by
  induction size : text.length using Nat.strong_induction_on generalizing text with
  | h n ih =>
      cases text with
      | nil => exact nil
      | cons c rest =>
          by_cases here : part <+: c :: rest
          · obtain ⟨behind, same⟩ := here
            have shorter : behind.length < n := by
              have lengths := congrArg List.length same
              have := List.length_pos_iff.mpr some
              rw [List.length_append] at lengths
              omega
            rw [← same]
            exact found behind (ih _ shorter behind rfl)
          · exact passed c rest here (ih rest.length (by simp [← size]) rest rfl)

theorem replaceFrom_eq_nil_iff (some : part ≠ []) (some' : replacement ≠ []) (text : List Char) :
    replaceFrom part replacement 0 text = [] ↔ text = [] := by
  induction text using scan_induction some with
  | nil => exact Iff.rfl
  | found rest ih => simp [replaceFrom_append some, some, some']
  | passed c rest absent ih => simp [replaceFrom_cons absent]

/-- Nothing changes before the first occurrence. -/
theorem replaceFrom_eq_self_or (some : part ≠ []) (replacement text : List Char) :
    replaceFrom part replacement 0 text = text ∨ ∃ before behind,
      text = before ++ part ++ behind ∧ replaceFrom part replacement 0 text =
        before ++ replacement ++ replaceFrom part replacement 0 behind := by
  induction text using scan_induction some with
  | nil => exact .inl rfl
  | found rest ih => exact .inr ⟨[], rest, rfl, replaceFrom_append some rest⟩
  | passed c rest absent ih =>
      rw [replaceFrom_cons absent]
      rcases ih with same | ⟨before, behind, same, replaced⟩
      · exact .inl (congrArg (c :: ·) same)
      · exact .inr ⟨c :: before, behind, congrArg (c :: ·) same, congrArg (c :: ·) replaced⟩

/-! ## Replacing what was put in -/

/-- A second part that comes about only where it is put in for the first. Found across the
beginning of what was put in, it would leave a trace in the text, which a text may be known not to
hold. -/
structure Unmixed (part second trace : List Char) : Prop where
  some : part ≠ []
  some' : second ≠ []
  within : trace <:+: second
  apart : ∀ before behind behind', before ≠ [] → second <+: before ++ second ++ behind →
    trace <:+: before ++ part ++ behind'

/-- Replacing a part by a second one and that by a third is replacing it by the third at once, where
nothing in the text can be mixed up with the second part. -/
theorem replaceFrom_replaceFrom {second trace : List Char} (unmixed : Unmixed part second trace)
    {text : List Char} (absent : ¬ trace <:+: text) :
    replaceFrom second replacement 0 (replaceFrom part second 0 text) =
      replaceFrom part replacement 0 text := by
  have some := unmixed.some
  induction text using scan_induction some with
  | nil => rfl
  | found rest ih =>
      have absent' : ¬ trace <:+: rest := fun inside =>
        absent (inside.trans (List.suffix_append part rest).isInfix)
      rw [replaceFrom_append some, replaceFrom_append unmixed.some', replaceFrom_append some,
        ih absent']
  | passed c rest passed ih =>
      have absent' : ¬ trace <:+: rest := fun inside =>
        absent (inside.trans (List.suffix_cons c rest).isInfix)
      have unfound : ¬ second <+: c :: replaceFrom part second 0 rest := by
        intro found
        apply absent
        rcases replaceFrom_eq_self_or some second rest with same | ⟨before, behind, same, replaced⟩
        · rw [same] at found
          exact unmixed.within.trans found.isInfix
        · rw [replaced] at found
          rw [same]
          exact unmixed.apart (c :: before) _ behind (List.cons_ne_nil _ _) found
      rw [replaceFrom_cons passed, replaceFrom_cons unfound, replaceFrom_cons passed, ih absent']

/-! ## Blanks around replaced texts -/

/-- A text that is not empty and has no blanks at its ends. -/
structure IsTight (text : List Char) : Prop where
  some : text ≠ []
  front : ∀ c ∈ text.head?, isBlank c = false
  back : ∀ c ∈ text.getLast?, isBlank c = false

theorem IsTight.dropWhile_append {text : List Char} (tight : IsTight text) (rest : List Char) :
    (text ++ rest).dropWhile isBlank = text ++ rest := by
  cases text with
  | nil => exact absurd rfl tight.some
  | cons c text =>
      rw [List.cons_append, List.dropWhile_cons_of_neg]
      exact Bool.eq_false_iff.mp (tight.front c rfl)

theorem IsTight.rdropWhile_append {text : List Char} (tight : IsTight text) (rest : List Char) :
    (text ++ rest).rdropWhile isBlank = text ++ rest.rdropWhile isBlank := by
  induction rest using List.reverseRecOn with
  | nil =>
      rw [List.append_nil, List.rdropWhile_nil, List.append_nil, List.rdropWhile_eq_self_iff]
      exact fun some => Bool.eq_false_iff.mp (tight.back _ (List.getLast?_eq_some_getLast some))
  | append_singleton rest c ih =>
      rw [← List.append_assoc, List.rdropWhile_concat, List.rdropWhile_concat, ih]
      split
      · rfl
      · exact List.append_assoc _ _ _

/-- What is dropped at the end stops at a character that is kept. -/
theorem rdropWhile_cons {inClass : Char → Bool} (c : Char) {rest : List Char}
    (kept : rest.rdropWhile inClass ≠ []) :
    (c :: rest).rdropWhile inClass = c :: rest.rdropWhile inClass := by
  induction rest using List.reverseRecOn with
  | nil => exact absurd rfl kept
  | append_singleton rest d ih =>
      rw [List.rdropWhile_concat] at kept
      rw [← List.cons_append, List.rdropWhile_concat, List.rdropWhile_concat]
      split
      · next dropped =>
        rw [if_pos dropped] at kept
        exact ih kept
      · exact List.cons_append

theorem rdropWhile_cons_of_eq_nil {inClass : Char → Bool} (c : Char) {rest : List Char}
    (dropped : rest.rdropWhile inClass = []) :
    (c :: rest).rdropWhile inClass = [c].rdropWhile inClass := by
  induction rest using List.reverseRecOn with
  | nil => rfl
  | append_singleton rest d ih =>
      have all := List.rdropWhile_eq_nil_iff.mp dropped
      rw [← List.cons_append, List.rdropWhile_concat_pos _ _ _ (all d (by simp))]
      exact ih (List.rdropWhile_eq_nil_iff.mpr fun e he => all e (List.mem_append_left _ he))

theorem stripWhere_eq (inClass : Char → Bool) (text : List Char) :
    stripWhere inClass text = (text.dropWhile inClass).rdropWhile inClass :=
  rfl

theorem stripWhere_infix (inClass : Char → Bool) (text : List Char) :
    stripWhere inClass text <:+: text :=
  (List.rdropWhile_prefix _ _).isInfix.trans (List.dropWhile_suffix _).isInfix

variable (tight : IsTight part) (tight' : IsTight replacement)

include tight tight'

theorem dropWhile_replaceFrom (text : List Char) :
    (replaceFrom part replacement 0 text).dropWhile isBlank =
      replaceFrom part replacement 0 (text.dropWhile isBlank) := by
  induction text using scan_induction tight.some with
  | nil => rfl
  | found rest ih =>
      rw [tight.dropWhile_append, replaceFrom_append tight.some, tight'.dropWhile_append]
  | passed c rest absent ih =>
      rw [replaceFrom_cons absent]
      by_cases blank : isBlank c
      · rw [List.dropWhile_cons_of_pos blank, List.dropWhile_cons_of_pos blank, ih]
      · rw [List.dropWhile_cons_of_neg blank, List.dropWhile_cons_of_neg blank,
          replaceFrom_cons absent]

theorem rdropWhile_replaceFrom (text : List Char) :
    (replaceFrom part replacement 0 text).rdropWhile isBlank =
      replaceFrom part replacement 0 (text.rdropWhile isBlank) := by
  induction text using scan_induction tight.some with
  | nil => rfl
  | found rest ih =>
      rw [tight.rdropWhile_append, replaceFrom_append tight.some, replaceFrom_append tight.some,
        tight'.rdropWhile_append, ih]
  | passed c rest absent ih =>
      have prefixes {text : List Char} (shorter : text <+: c :: rest) : ¬ part <+: text :=
        fun found => absent (found.trans shorter)
      rw [replaceFrom_cons absent]
      by_cases dropped : rest.rdropWhile isBlank = []
      · have dropped' : (replaceFrom part replacement 0 rest).rdropWhile isBlank = [] := by
          rw [ih, dropped]
          rfl
        have alone : [c] <+: c :: rest := (List.prefix_cons_inj c).mpr List.nil_prefix
        rw [rdropWhile_cons_of_eq_nil c dropped, rdropWhile_cons_of_eq_nil c dropped',
          List.rdropWhile_singleton]
        split
        · rfl
        · exact (replaceFrom_cons (prefixes alone)).symm
      · have kept' : (replaceFrom part replacement 0 rest).rdropWhile isBlank ≠ [] := by
          rw [ih, ne_eq, replaceFrom_eq_nil_iff tight.some tight'.some]
          exact dropped
        have shorter : c :: rest.rdropWhile isBlank <+: c :: rest :=
          (List.prefix_cons_inj c).mpr (List.rdropWhile_prefix isBlank rest)
        rw [rdropWhile_cons c dropped, rdropWhile_cons c kept', ih,
          replaceFrom_cons (prefixes shorter)]

/-- Blanks around a text do not matter to replacing parts that have none at their ends. -/
theorem stripWhere_replaceFrom (text : List Char) :
    stripWhere isBlank (replaceFrom part replacement 0 text) =
      replaceFrom part replacement 0 (stripWhere isBlank text) := by
  rw [stripWhere_eq, stripWhere_eq, dropWhile_replaceFrom tight tight',
    rdropWhile_replaceFrom tight tight']

end

section

variable {part replacement : String}

theorem replaceAll_replaceAll {second : String} {trace : List Char}
    (unmixed : Unmixed part.toList second.toList trace) {s : String}
    (absent : ¬ trace <:+: s.toList) :
    replaceAll second replacement (replaceAll part second s) = replaceAll part replacement s := by
  apply String.toList_inj.mp
  rw [toList_replaceAll unmixed.some', toList_replaceAll unmixed.some,
    toList_replaceAll unmixed.some, replaceFrom_replaceFrom unmixed absent]

variable (tight : IsTight part.toList) (tight' : IsTight replacement.toList)

include tight tight'

theorem replaceAll_eq_empty_iff (s : String) : replaceAll part replacement s = "" ↔ s = "" := by
  rw [← String.toList_inj, toList_replaceAll tight.some, ← String.toList_inj]
  exact replaceFrom_eq_nil_iff tight.some tight'.some _

theorem strip_replaceAll (s : String) :
    strip (replaceAll part replacement s) = replaceAll part replacement (strip s) := by
  apply String.toList_inj.mp
  rw [toList_replaceAll tight.some, strip, strip, String.toList_ofList, String.toList_ofList,
    toList_replaceAll tight.some, stripWhere_replaceFrom tight tight']

end

end ScriptVet.Text
