import ScriptVet.Manifest
import ScriptVet.Proofs.Result

/-!
# Names that scripts can have

A name is made of letters, digits and a few signs, all of them ASCII, and whatever is read from a
manifest has such a name.
-/

namespace ScriptVet

namespace Checked

/-- The characters of names are ASCII. -/
theorem toNat_lt_of_isNameChar {c : Char} (h : isNameChar c) : c.toNat < 128 := by
  rw [isNameChar, isNameStart] at h
  delta Char.isAlphanum Char.isAlpha Char.isUpper Char.isLower Char.isDigit at h
  simp only [Bool.or_eq_true, Bool.and_eq_true, decide_eq_true_eq, beq_iff_eq, ge_iff_le,
    UInt32.le_iff_toNat_le] at h
  rcases h with ((((((⟨-, upper⟩ | ⟨-, lower⟩) | ⟨-, digit⟩) | rfl) | rfl) | rfl) | rfl)
  · exact Nat.lt_of_le_of_lt upper (by decide)
  · exact Nat.lt_of_le_of_lt lower (by decide)
  · exact Nat.lt_of_le_of_lt digit (by decide)
  all_goals decide

theorem isHalf_of_isNameChar {c : Char} (h : isNameChar c) : Text.isHalf c = false := by
  have ascii := toNat_lt_of_isNameChar h
  rw [Text.isHalf, Bool.and_eq_false_iff]
  exact .inl (decide_eq_false (by omega))

/-- All characters of a name may stand behind its first. -/
theorem isNameChar_of_mem {s : String} (h : isName s) {c : Char} (hc : c ∈ s.toList) :
    isNameChar c := by
  obtain ⟨first, rest, letters, start, others⟩ := isName_iff.mp h
  rw [letters, List.mem_cons] at hc
  rcases hc with rfl | later
  · simp [isNameChar, start]
  · exact others c later

/-- A name is taken as it is. -/
theorem name_eq_ok_iff {v : Json} {s : String} : name v = .ok s ↔ v = .str s ∧ isName s := by
  constructor
  · intro h
    obtain ⟨given, isText, rest⟩ := Result.bind_eq_ok.mp h
    obtain ⟨taken, same, named⟩ := Result.bind_eq_ok.mp rest
    rw [whole] at same
    split at same
    · cases same
    · cases same
      split at named
      · next isName =>
        cases named
        exact ⟨text_eq_ok_iff.mp isText, isName⟩
      · cases named
  · rintro ⟨rfl, h⟩
    have wholeName : Text.holdsHalf s = false := by
      rw [Text.holdsHalf, List.any_eq_false]
      intro c hc
      simp [isHalf_of_isNameChar (isNameChar_of_mem h hc)]
    simp only [name, text, Result.ok_bind, whole, wholeName]
    exact if_pos h

theorem toResult_eq_ok_iff {α : Type} {x : Checked α} {title : String} {data : Json} {a : α} :
    x.toResult title data = .ok a ↔ x = .ok a :=
  Result.mapError_eq_ok_iff

/-- Every item of a list is taken. -/
theorem exists_of_mem_list {α : Type} {decode : Json → Checked α} {v : Json} {values : List α}
    (h : list decode v = .ok values) {a : α} (ha : a ∈ values) : ∃ item, decode item = .ok a := by
  cases v with
  | arr items =>
      have taken := all_eq_ok_iff.mp h
      obtain ⟨i, hi, rfl⟩ := List.getElem_of_mem ha
      have there := congrArg (·[i]?) taken
      simp only [List.getElem?_mapIdx, List.getElem?_map, List.getElem?_eq_getElem hi,
        Option.map_some, Option.map_eq_some_iff] at there
      obtain ⟨item, -, decoded⟩ := there
      exact ⟨item, inside_eq_ok_iff.mp decoded⟩
  | _ => cases h

end Checked

/-- A descriptor has a name that a script can have. -/
theorem Descriptor.isName_of_ofJson {v : Json} {d : Descriptor} (h : ofJson v = .ok d) :
    Checked.isName d.name := by
  obtain ⟨fields, -, supplied⟩ := Result.bind_eq_ok.mp h
  obtain ⟨build, taken₈, rfl⟩ := Result.bind_eq_ok.mp supplied
  obtain ⟨_, disabled, taken₇, -, made⟩ := Checked.apply_eq_ok_iff.mp taken₈
  obtain ⟨_, enabled, taken₆, -, rfl⟩ := Checked.apply_eq_ok_iff.mp taken₇
  obtain ⟨_, executable, taken₅, -, rfl⟩ := Checked.apply_eq_ok_iff.mp taken₆
  obtain ⟨_, dependencies, taken₄, -, rfl⟩ := Checked.apply_eq_ok_iff.mp taken₅
  obtain ⟨_, file?, taken₃, -, rfl⟩ := Checked.apply_eq_ok_iff.mp taken₄
  obtain ⟨_, text?, taken₂, -, rfl⟩ := Checked.apply_eq_ok_iff.mp taken₃
  obtain ⟨_, language, taken₁, -, rfl⟩ := Checked.apply_eq_ok_iff.mp taken₂
  obtain ⟨_, name, begins, named, rfl⟩ := Checked.apply_eq_ok_iff.mp taken₁
  cases begins
  obtain ⟨source, -, rfl⟩ := Result.map_eq_ok.mp made
  rw [Checked.required, Checked.inside_eq_ok_iff] at named
  cases given : Json.getField? "name" fields with
  | none =>
      rw [given] at named
      cases named
  | some v =>
      rw [given] at named
      exact (Checked.name_eq_ok_iff.mp named).2

/-- The scripts of a manifest have names that scripts can have. -/
theorem Manifest.isName_of_load {disk : Disk} {file : Path} {descriptors : List Descriptor}
    (h : load disk file = .ok descriptors) {d : Descriptor} (hd : d ∈ descriptors) :
    Checked.isName d.name := by
  obtain ⟨text, -, parsed⟩ := Result.bind_eq_ok.mp h
  split at parsed
  · cases parsed
  · obtain ⟨item, decoded⟩ := Checked.exists_of_mem_list (Checked.toResult_eq_ok_iff.mp parsed) hd
    exact Descriptor.isName_of_ofJson decoded

end ScriptVet
