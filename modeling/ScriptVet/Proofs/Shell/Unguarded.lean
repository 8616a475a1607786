import ScriptVet.Proofs.Shell.Assignments
import ScriptVet.Proofs.Shell.References

/-!
# Variables that are advised on

A variable is advised on if the text refers to it and neither assigns nor guards it, unless it is
ignored. Every name is advised on in some text, so a list of ignored variables decides by the names
in it alone.
-/

namespace ScriptVet.Shell

/-! ## Guards -/

section

variable {name text : List Char}

theorem beginsGuard_iff :
    beginsGuard text ↔ ∃ colon ∈ [[], [':']], ∃ sign ∈ ['-', '=', '?'], ∃ rest,
      text = colon ++ sign :: rest := by
  have isGuardSign (c : Char) : beginsGuard.isGuardSign c ↔ c ∈ ['-', '=', '?'] := by
    simp [beginsGuard.isGuardSign, or_assoc]
  constructor
  · intro begins
    rw [beginsGuard.eq_def] at begins
    split at begins
    · next sign rest => exact ⟨[':'], by decide, sign, (isGuardSign sign).mp begins, rest, rfl⟩
    · next sign rest _ => exact ⟨[], by decide, sign, (isGuardSign sign).mp begins, rest, rfl⟩
    · cases begins
  · rintro ⟨colon, mem, sign, isSign, rest, rfl⟩
    simp only [List.mem_cons, List.not_mem_nil, or_false] at mem isSign
    rcases mem with rfl | rfl <;> rcases isSign with rfl | rfl | rfl <;> rfl

theorem guardsAt_iff :
    guardsAt name text ↔ ∃ after, text = '$' :: '\x7b' :: (name ++ after) ∧ beginsGuard after := by
  rw [guardsAt]
  constructor
  · intro guards
    cases begins : Text.dropStart? ('$' :: '\x7b' :: name) text with
    | none => rw [begins] at guards; cases guards
    | some after =>
        rw [begins] at guards
        exact ⟨after, Text.dropStart?_eq_some_iff.mp begins, guards⟩
  · rintro ⟨after, rfl, sign⟩
    rw [← List.cons_append, ← List.cons_append, Text.dropStart?_eq_some_iff.mpr rfl]
    exact sign

/-- A guard stays one when the text goes on. -/
theorem guardsAt_append (guards : guardsAt name text) (behind : List Char) :
    guardsAt name (text ++ behind) := by
  obtain ⟨after, rfl, begins⟩ := guardsAt_iff.mp guards
  obtain ⟨colon, mem, sign, isSign, rest, rfl⟩ := beginsGuard_iff.mp begins
  refine guardsAt_iff.mpr ⟨colon ++ sign :: rest ++ behind, by simp, ?_⟩
  exact beginsGuard_iff.mpr ⟨colon, mem, sign, isSign, rest ++ behind, by simp⟩

/-- A variable is guarded exactly if the text goes on with a guard of it somewhere. -/
theorem isGuarded_iff :
    isGuarded name text ↔ ∃ passed rest, text = passed ++ rest ∧ guardsAt name rest := by
  induction text with
  | nil =>
      refine ⟨nofun, ?_⟩
      rintro ⟨passed, rest, same, guards⟩
      obtain ⟨-, rfl⟩ := List.append_eq_nil_iff.mp same.symm
      cases guards
  | cons c text ih =>
      rw [isGuarded, Bool.or_eq_true, ih]
      constructor
      · rintro (here | ⟨passed, rest, rfl, guards⟩)
        · exact ⟨[], c :: text, rfl, here⟩
        · exact ⟨c :: passed, rest, rfl, guards⟩
      · rintro ⟨passed, rest, same, guards⟩
        cases passed with
        | nil => exact .inl (by rwa [same])
        | cons d passed => exact .inr ⟨passed, rest, (List.cons.inj same).2, guards⟩

/-- What is guarded in a part of a text is guarded in the text. -/
theorem isGuarded_mono {text' : List Char} (inside : text <:+: text')
    (guarded : isGuarded name text) : isGuarded name text' := by
  obtain ⟨front, behind, rfl⟩ := inside
  obtain ⟨passed, rest, rfl, guards⟩ := isGuarded_iff.mp guarded
  exact isGuarded_iff.mpr ⟨front ++ passed, rest ++ behind, by simp, guardsAt_append guards behind⟩

/-- Nothing guards a variable where there is no brace. -/
theorem isGuarded_eq_false (brace : '\x7b' ∉ text) : isGuarded name text = false := by
  rw [Bool.eq_false_iff]
  intro guarded
  obtain ⟨passed, rest, rfl, guards⟩ := isGuarded_iff.mp guarded
  obtain ⟨after, rfl, -⟩ := guardsAt_iff.mp guards
  exact brace (by simp)

end

/-! ## Advice -/

/-- A variable is advised on if it is referred to and nothing speaks for it. -/
theorem mem_map_unguarded_iff {ignored : List String} {text : List Char} {name : String} :
    name ∈ (unguarded ignored text).map Prod.fst ↔
      name ∈ (references text).map Prod.fst ∧ name ∉ assignedNames text ∧ name ∉ ignored ∧
        ¬ isGuarded name.toList text := by
  rw [unguarded, List.mem_map, List.mem_map]
  simp only [List.mem_filter, Bool.and_eq_true, Bool.not_eq_true', List.contains_eq_mem,
    decide_eq_false_iff_not]
  constructor
  · rintro ⟨use, ⟨there, ⟨assigned, ignored⟩, guarded⟩, rfl⟩
    exact ⟨⟨use, there, rfl⟩, assigned, ignored, by rw [guarded]; exact Bool.false_ne_true⟩
  · rintro ⟨⟨use, there, rfl⟩, assigned, ignored, guarded⟩
    exact ⟨use, ⟨there, ⟨assigned, ignored⟩, Bool.eq_false_iff.mpr guarded⟩, rfl⟩

/-- Every name is advised on in some text, unless it is ignored. -/
theorem exists_mem_unguarded_iff {name : String} (h : IsName name) :
    ∃ text, ∀ ignored, name ∈ (unguarded ignored text).map Prod.fst ↔ name ∉ ignored := by
  have absent {c : Char} (dollar : c ≠ '$') (other : isNameChar c = false) :
      c ∉ '$' :: name.toList :=
    List.not_mem_cons_of_ne_of_not_mem dollar (notMem_of_isName h other)
  have refers : RefersTo name ('$' :: name.toList) :=
    ⟨h, ['$'], by decide, [], by simp, stops_nil⟩
  have referred : name ∈ (references ('$' :: name.toList)).map Prod.fst :=
    mem_map_references_iff.mpr (exists_isFirstReference (List.nil_append _).symm refers)
  refine ⟨'$' :: name.toList, fun ignored => ?_⟩
  rw [mem_map_unguarded_iff, assignedNames_eq_nil (absent (by decide) (by decide)),
    isGuarded_eq_false (absent (by decide) (by decide))]
  simp [referred]

/-- Lists that advise alike on every text hold the same names. -/
theorem mem_iff_of_map_unguarded {ignored ignored' : List String}
    (same : ∀ text, (unguarded ignored text).map Prod.fst = (unguarded ignored' text).map Prod.fst)
    {name : String} (isName : IsName name) : name ∈ ignored ↔ name ∈ ignored' := by
  obtain ⟨text, told⟩ := exists_mem_unguarded_iff isName
  rw [← not_iff_not, ← told ignored, same text, told ignored']

/-- Lists that hold the same names advise alike. -/
theorem unguarded_congr {ignored ignored' : List String}
    (same : ∀ name, IsName name → (name ∈ ignored ↔ name ∈ ignored')) (text : List Char) :
    unguarded ignored text = unguarded ignored' text := by
  apply List.filter_congr
  rintro ⟨name, line⟩ there
  obtain ⟨passed, first, -⟩ := mem_references_iff.mp there
  have listed : ignored.contains name = ignored'.contains name := by
    rw [Bool.eq_iff_iff, List.contains_iff_mem, List.contains_iff_mem]
    exact same name first.isName
  simp only [listed]

end ScriptVet.Shell
