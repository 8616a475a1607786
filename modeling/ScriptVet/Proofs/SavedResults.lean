import Mathlib.Algebra.Group.Int.Defs
import ScriptVet.Descriptor
import ScriptVet.Proofs.CacheHistory

/-!
# Results that are saved

A result is meant to come back from the file that it was saved in, whatever texts it holds: the file
is read as strict UTF-8 with every line ending turned into a line feed, and no carriage return is
ever written. Two things stand in the way. What is written may be nested deeper than the strict
reader goes, and a line or a column may have more digits than the reader converts. Such a file is
written all the same, and then it gives nothing.
-/

namespace ScriptVet

namespace Json

mutual

/-- All integers inside satisfy a condition. -/
def AllInts (p : Int → Prop) : Json → Prop
  | .int n => p n
  | .arr items => ItemInts p items
  | .obj fields => FieldInts p fields
  | _ => True

/-- The same for items. -/
def ItemInts (p : Int → Prop) : List Json → Prop
  | [] => True
  | item :: items => AllInts p item ∧ ItemInts p items

/-- The same for fields. -/
def FieldInts (p : Int → Prop) : List (String × Json) → Prop
  | [] => True
  | (_, value) :: fields => AllInts p value ∧ FieldInts p fields

end

/-- An integer is written with at most so many digits. -/
def FitsDigits (limit : Nat) (n : Int) : Prop :=
  (Nat.toDigits 10 n.natAbs).length ≤ limit

instance (limit : Nat) (n : Int) : Decidable (FitsDigits limit n) :=
  inferInstanceAs (Decidable (_ ≤ _))

/-- A power of ten is the least number with too many digits. -/
theorem not_fitsDigits_pow {limit : Nat} (some : 0 < limit) : ¬ FitsDigits limit (10 ^ limit) := by
  intro fits
  have below := (Nat.length_toDigits_le_iff (by decide) some).mp fits
  rw [Int.natAbs_pow] at below
  exact absurd below (Nat.lt_irrefl _)

/-- An integer of 64 bits has at most twenty digits. -/
theorem fitsDigits_of_fitsWord {limit : Nat} (enough : 20 ≤ limit) {n : Int}
    (fits : Checked.fitsWord n) : FitsDigits limit n := by
  have bounds : -0x8000000000000000 ≤ n ∧ n < 0x8000000000000000 := by
    simpa [Checked.fitsWord] using fits
  have short : (Nat.toDigits 10 n.natAbs).length ≤ 20 :=
    (Nat.length_toDigits_le_iff (by decide) (by decide)).mpr (by omega)
  exact Nat.le_trans short enough

mutual

/-- No integer is too long exactly if all have few enough digits. -/
theorem longNumeral?_eq_none_iff {limit : Nat} :
    (v : Json) → (v.longNumeral? (some limit) = none ↔ v.AllInts (FitsDigits limit))
  | .null | .bool _ | .float _ | .str _ => iff_of_true rfl trivial
  | .int n => by simp [longNumeral?, AllInts, FitsDigits]
  | .arr items => longItem?_eq_none_iff items
  | .obj fields => longField?_eq_none_iff fields

theorem longItem?_eq_none_iff {limit : Nat} :
    (items : List Json) →
      (longItem? (some limit) items = none ↔ ItemInts (FitsDigits limit) items)
  | [] => iff_of_true rfl trivial
  | item :: items => by
      rw [longItem?, ItemInts, Option.or_eq_none_iff, longNumeral?_eq_none_iff item,
        longItem?_eq_none_iff items]

theorem longField?_eq_none_iff {limit : Nat} :
    (fields : List (String × Json)) →
      (longField? (some limit) fields = none ↔ FieldInts (FitsDigits limit) fields)
  | [] => iff_of_true rfl trivial
  | (_, value) :: fields => by
      rw [longField?, FieldInts, Option.or_eq_none_iff, longNumeral?_eq_none_iff value,
        longField?_eq_none_iff fields]

end

mutual

/-- A weaker condition holds of all integers as well. -/
theorem AllInts.mono {p q : Int → Prop} (weaker : ∀ n, p n → q n) :
    (v : Json) → v.AllInts p → v.AllInts q
  | .null, _ | .bool _, _ | .float _, _ | .str _, _ => trivial
  | .int n, given => weaker n given
  | .arr items, given => ItemInts.mono weaker items given
  | .obj fields, given => FieldInts.mono weaker fields given

theorem ItemInts.mono {p q : Int → Prop} (weaker : ∀ n, p n → q n) :
    (items : List Json) → ItemInts p items → ItemInts q items
  | [], _ => trivial
  | item :: items, given => ⟨AllInts.mono weaker item given.1, ItemInts.mono weaker items given.2⟩

theorem FieldInts.mono {p q : Int → Prop} (weaker : ∀ n, p n → q n) :
    (fields : List (String × Json)) → FieldInts p fields → FieldInts q fields
  | [], _ => trivial
  | (_, value) :: fields, given =>
      ⟨AllInts.mono weaker value given.1, FieldInts.mono weaker fields given.2⟩

end

theorem itemInts_map_iff {α : Type} {p : Int → Prop} {toJson : α → Json} {values : List α} :
    ItemInts p (values.map toJson) ↔ ∀ a ∈ values, (toJson a).AllInts p := by
  induction values with
  | nil => exact iff_of_true trivial nofun
  | cons a values ih => rw [List.map_cons, ItemInts, ih, List.forall_mem_cons]

theorem allInts_ofOption {p : Int → Prop} (s : Option String) : (ofOption s).AllInts p := by
  cases s <;> trivial

end Json

/-- The line and the column have at most so many digits. -/
def Location.FitsDigits (limit : Nat) (place : Location) : Prop :=
  Json.FitsDigits limit place.line.val ∧
    ∀ column, place.column = some column → Json.FitsDigits limit column.val

theorem Location.allInts_toJson_iff {limit : Nat} {place : Location} :
    place.toJson.AllInts (Json.FitsDigits limit) ↔ place.FitsDigits limit := by
  obtain ⟨line, column⟩ := place
  cases column with
  | none => simp [toJson, FitsDigits, Json.AllInts, Json.FieldInts]
  | some column => simp [toJson, FitsDigits, Json.AllInts, Json.FieldInts]

theorem Finding.allInts_toJson_iff {limit : Nat} {finding : Finding} :
    finding.toJson.AllInts (Json.FitsDigits limit) ↔
      ∀ place, finding.location = some place → place.FitsDigits limit := by
  have code := Json.allInts_ofOption (p := Json.FitsDigits limit) finding.code
  cases located : finding.location with
  | none => simp [toJson, located, Json.AllInts, Json.FieldInts, code]
  | some place =>
      simp [toJson, located, Json.AllInts, Json.FieldInts, code, Location.allInts_toJson_iff]

namespace AnalysisResult

/-- The metadata holds no numbers but integers of 64 bits, and each key once. -/
structure HoldsWords (r : AnalysisResult) : Prop extends r.IsPlain where
  words : Json.FieldInts (Checked.fitsWord ·) r.metadata

/-- The metadata is no higher than the strict reader goes, and no line or column has more digits
than it converts. -/
def CanReturn (r : AnalysisResult) : Prop :=
  Json.fieldsHeight r.metadata ≤ 199 ∧
    ∀ finding ∈ r.findings, ∀ place, finding.location = some place → place.FitsDigits numeralLimit

/-- Where the metadata holds words, only the places may have too many digits. -/
theorem isReadable_iff_canReturn {r : AnalysisResult} (data : r.HoldsWords) :
    r.IsReadable ↔ r.CanReturn := by
  have words : Json.FieldInts (Json.FitsDigits numeralLimit) r.metadata :=
    Json.FieldInts.mono (fun _ => Json.fitsDigits_of_fitsWord (by decide)) _ data.words
  have reason := Json.allInts_ofOption (p := Json.FitsDigits numeralLimit) r.skipReason
  rw [IsReadable, CanReturn, Json.longNumeral?_eq_none_iff, toJson,
    Json.finiteFields_of_fieldsPlain _ data.plain]
  simp only [Json.AllInts, Json.FieldInts, reason, words, Json.itemInts_map_iff,
    Finding.allInts_toJson_iff, true_and, and_true]

end AnalysisResult

namespace Disk

variable {disk disk' : Disk} {p : Path} {content : List UInt8}

/-- A file that was written holds what was written. -/
theorem read_of_write (written : disk.write p content = .ok disk') :
    disk'.read p = .ok content := by
  obtain ⟨place, executable, resolved, noFolder, rfl⟩ := put_of_write written
  exact read_put noFolder resolved

end Disk

/-- The text of a plain value is read from its file as it was written. -/
theorem Descriptor.readTextFile_of_write {style : Json.Style} {v : Json} (plain : v.IsPlain)
    {disk disk' : Disk} {p : Path}
    (written : disk.write p (Text.Utf8.encodeString (Json.render style v)) = .ok disk') :
    readTextFile disk' p = .ok (Json.render style v) := by
  have unchanged := Text.readNewlines_eq_self (Json.return_notMem_write style v plain 0)
  rw [readTextFile, Disk.read_of_write written]
  simp only [Text.Utf8.encodeString, Text.Utf8.decode?_encode]
  rw [Json.render, String.toList_ofList, unchanged]

namespace ResultCache

/-- A file that was written is found. -/
theorem readEntry_of_write_self {disk disk' : Disk} {p : Path} {content : List UInt8}
    (written : disk.write p content = .ok disk') : readEntry disk' p = readResult content := by
  obtain ⟨place, executable, resolved, noFolder, rfl⟩ := Disk.put_of_write written
  have leads := (Disk.keepsFolders_put noFolder (.file content executable)).resolve resolved
  rw [readEntry_of_resolve leads, readAt,
    Disk.entry?_put disk (Disk.ne_nil_of_not_folder noFolder), if_pos rfl]

/-- A result is written exactly if its metadata is not nested too deep and its texts are whole. Its
file is read as the text that was written, and gives the result back exactly if that can return;
otherwise it gives nothing. -/
theorem readEntry_of_saved {r : AnalysisResult} (data : r.HoldsWords) :
    ((∃ text, r.compactJson = .ok text) ↔
      Json.fieldsHeight r.metadata ≤ Json.heightLimit ∧ r.toJson.brokenText? = none) ∧
    ∀ text, r.compactJson = .ok text → ∀ (disk disk' : Disk) (p : Path),
      disk.write p (Text.Utf8.encodeString text) = .ok disk' →
        Descriptor.readTextFile disk' p = .ok text ∧
          (r.CanReturn → readEntry disk' p = .ok (some r)) ∧
          (¬ r.CanReturn → readEntry disk' p = .ok none) := by
  refine ⟨AnalysisResult.exists_compactJson_iff, ?_⟩
  intro text rendered disk disk' p written
  have found : readEntry disk' p = .ok (if r.IsReadable then some r else none) :=
    (readEntry_of_write_self written).trans (readResult_eq_of_isPlain data.toIsPlain rendered)
  refine ⟨?_, fun back => ?_, fun lost => ?_⟩
  · rw [(AnalysisResult.compactJson_eq_ok_iff.mp rendered).2.2] at written ⊢
    exact Descriptor.readTextFile_of_write (AnalysisResult.isPlain_toJson data.toIsPlain) written
  · rw [found, if_pos ((AnalysisResult.isReadable_iff_canReturn data).mpr back)]
  · rw [found, if_neg]
    exact fun readable => lost ((AnalysisResult.isReadable_iff_canReturn data).mp readable)

theorem exists_write_atRoot (content : List UInt8) :
    ∃ disk, (Disk.empty []).write ⟨1, ["saved.json"]⟩ content = .ok disk :=
  ⟨_, by with_unfolding_all rfl⟩

/-- There are no integers in nested arrays. -/
theorem fieldInts_nestedResult (p : Int → Prop) (depth : Nat) :
    Json.FieldInts p (nestedResult depth).metadata := by
  have inner : (nested depth).AllInts p := by
    induction depth with
    | zero => trivial
    | succ depth ih => exact ⟨ih, trivial⟩
  exact ⟨inner, trivial⟩

/-- Control characters, carriage returns, quotes, backslashes and characters beyond the basic plane
come back. -/
theorem readEntry_of_saved_texts :
    let r := AnalysisResult.ofFindings .lint
      [⟨.lintError, "a\r\nb\r\x00\x1b\x7f", some ⟨⟨3, by decide⟩, none⟩, some "\"\\"⟩]
      [("🐚\r", .arr [.str "\u2028", .int (-0x8000000000000000), .bool true, .null])]
    let p : Path := ⟨1, ["saved.json"]⟩
    r.HoldsWords ∧ ∃ text disk, r.compactJson = .ok text ∧
      (Disk.empty []).write p (Text.Utf8.encodeString text) = .ok disk ∧
      Descriptor.readTextFile disk p = .ok text ∧ readEntry disk p = .ok (some r) := by
  intro r p
  have data : r.HoldsWords :=
    ⟨⟨⟨⟨trivial, trivial, trivial, trivial, trivial⟩, trivial⟩, by decide⟩,
      ⟨trivial, show Checked.fitsWord _ by decide, trivial, trivial, trivial⟩, trivial⟩
  have back : r.CanReturn := by
    refine ⟨by decide, ?_⟩
    simp only [r, AnalysisResult.ofFindings, List.forall_mem_singleton]
    intro place here
    obtain rfl := Option.some.inj here
    exact ⟨by decide, fun c given => by simp at given⟩
  obtain ⟨text, rendered⟩ := (readEntry_of_saved data).1.mpr ⟨by decide, by decide⟩
  obtain ⟨disk, written⟩ := exists_write_atRoot (Text.Utf8.encodeString text)
  obtain ⟨read, found, -⟩ := (readEntry_of_saved data).2 text rendered _ _ _ written
  exact ⟨data, text, disk, rendered, written, read, found back⟩

/-- A result that is nested deeper than the reader goes is written, and its file gives nothing. -/
theorem readEntry_of_saved_deep :
    let r := nestedResult 220
    let p : Path := ⟨1, ["saved.json"]⟩
    r.HoldsWords ∧ ∃ text disk, r.compactJson = .ok text ∧
      (Disk.empty []).write p (Text.Utf8.encodeString text) = .ok disk ∧
      readEntry disk p = .ok none := by
  intro r p
  have plain : r.IsPlain := isPlain_nestedResult 220
  obtain ⟨text, rendered⟩ := compactJson_nestedResult (show 220 < 255 by decide)
  obtain ⟨disk, written⟩ := exists_write_atRoot (Text.Utf8.encodeString text)
  have deep : ¬ r.IsReadable := by
    intro readable
    have low := readable.1
    rw [fieldsHeight_nestedResult] at low
    omega
  refine ⟨⟨plain, fieldInts_nestedResult _ 220⟩, text, disk, rendered, written, ?_⟩
  rw [readEntry_of_write_self written, readResult_eq_of_isPlain plain rendered, if_neg deep]

end ResultCache

end ScriptVet
