import ScriptVet.Proofs.Json.Depth
import ScriptVet.Proofs.Result
import ScriptVet.Proofs.Text.Octets
import ScriptVet.ResultCache

/-!
# Results as data

A result with plain metadata is decoded from the fields it was encoded as. So the file that a cache
keeps for it gives the result back, unless the reader refuses the text: metadata may be nested
deeper than the strict reader goes, and a place in the script may be given by a number with more
digits than the reader converts. A cache takes such a file for one that holds no result.
-/

namespace ScriptVet

namespace Checked

/-- A listed word stands for its value. -/
theorem oneOf_of_lookup {α : Type} {options : List (String × α)} {word : String} {a : α}
    (whole : Text.holdsHalf word = false) (listed : options.lookup word = some a) :
    oneOf options (.str word) = .ok a := by
  simp [oneOf, Checked.whole, whole, listed]

theorem list_ofJson_toJson {α : Type} {toJson : α → Json} {ofJson : Json → Checked α}
    (h : ∀ a, ofJson (toJson a) = .ok a) (values : List α) :
    list ofJson (.arr (values.map toJson)) = .ok values := by
  rw [list, items, all_eq_ok_iff]
  apply List.ext_getElem
  · simp
  · intro i h1 h2
    simp [h, inside, Except.mapError]

theorem optional_text_ofOption (s : Option String) :
    optional text (Json.ofOption s) = .ok s := by
  cases s <;> rfl

theorem positive_int (n : Positive) : positive (.int n.val) = .ok n := by
  have h : 0 < (n.val : Int).toNat := by simpa using n.property
  rw [positive, int, Result.ok_bind, dif_pos h]
  rfl

theorem required_of_getField {α : Type} {fields : List (String × Json)} {key : String}
    {decode : Json → Checked α} {v : Json} {a : α} (field : Json.getField? key fields = some v)
    (decoded : decode v = .ok a) : required fields key decode = .ok a := by
  rw [required, field]
  exact inside_eq_ok_iff.mpr decoded

theorem withDefault_of_getField {α : Type} {fields : List (String × Json)} {key : String}
    {decode : Json → Checked α} {v : Json} {a default : α}
    (field : Json.getField? key fields = some v) (decoded : decode v = .ok a) :
    withDefault fields key default decode = .ok a := by
  rw [withDefault, field]
  exact inside_eq_ok_iff.mpr decoded

end Checked

open Checked

theorem Location.ofJson_toJson (place : Location) : ofJson place.toJson = .ok place := by
  obtain ⟨line, column⟩ := place
  have columnDecoded : optional positive (column.elim .null fun c => .int c.val) = .ok column := by
    cases column with
    | none => rfl
    | some c => exact congrArg (Except.map some) (positive_int c)
  rw [toJson, ofJson, recordFields, Result.ok_bind, required_of_getField rfl (positive_int line),
    withDefault_of_getField rfl columnDecoded]
  rfl

theorem Category.lookup_words (c : Category) : Category.words.lookup c.word = some c := by
  cases c <;> rfl

theorem Finding.ofJson_toJson (finding : Finding) : ofJson finding.toJson = .ok finding := by
  obtain ⟨category, message, location, code⟩ := finding
  have categoryDecoded : oneOf Category.words (.str category.word) = .ok category :=
    oneOf_of_lookup (by cases category <;> decide) (Category.lookup_words category)
  have placeDecoded :
      optional Location.ofJson (location.elim .null Location.toJson) = .ok location := by
    cases location with
    | none => rfl
    | some place => exact congrArg (Except.map some) place.ofJson_toJson
  rw [toJson, ofJson, recordFields, Result.ok_bind, required_of_getField rfl categoryDecoded,
    required_of_getField rfl (text_eq_ok_iff.mpr rfl), withDefault_of_getField rfl placeDecoded,
    withDefault_of_getField rfl (optional_text_ofOption code)]
  rfl

namespace AnalysisResult

/-- The metadata holds no floating-point numbers, and each key once. -/
structure IsPlain (r : AnalysisResult) : Prop where
  plain : Json.FieldsPlain r.metadata
  keys : (r.metadata.map Prod.fst).Nodup

/-- The metadata can be written and read back. -/
structure IsPortable (r : AnalysisResult) : Prop where
  plain : Json.FieldsPlain r.metadata
  keys : (r.metadata.map Prod.fst).Nodup
  /-- The strict reader opens 200 arrays and objects, two of them around what metadata holds. -/
  low : Json.fieldsHeight r.metadata ≤ 199

theorem IsPortable.isPlain {r : AnalysisResult} (portable : r.IsPortable) : r.IsPlain :=
  ⟨portable.plain, portable.keys⟩

/-- The strict reader takes the text of the result: it opens 200 arrays and objects, two of them
around what metadata holds, and converts every number. -/
def IsReadable (r : AnalysisResult) : Prop :=
  Json.fieldsHeight r.metadata ≤ 199 ∧ r.toJson.longNumeral? (some numeralLimit) = none

instance (r : AnalysisResult) : Decidable r.IsReadable :=
  inferInstanceAs (Decidable (_ ∧ _))

end AnalysisResult

mutual

/-- Plain values hold nothing that is not finite. -/
theorem Json.finite_of_isPlain : (v : Json) → v.IsPlain → v.finite = v
  | .null, _ | .bool _, _ | .int _, _ | .str _, _ => rfl
  | .arr items, plain => congrArg Json.arr (Json.finiteItems_of_allPlain items plain)
  | .obj fields, plain => congrArg Json.obj (Json.finiteFields_of_fieldsPlain fields plain.1)

theorem Json.finiteItems_of_allPlain :
    (items : List Json) → Json.AllPlain items → Json.finiteItems items = items
  | [], _ => rfl
  | item :: items, plain => by
      rw [Json.finiteItems, Json.finite_of_isPlain item plain.1,
        Json.finiteItems_of_allPlain items plain.2]

theorem Json.finiteFields_of_fieldsPlain :
    (fields : List (String × Json)) → Json.FieldsPlain fields → Json.finiteFields fields = fields
  | [], _ => rfl
  | (key, value) :: fields, plain => by
      rw [Json.finiteFields, Json.finite_of_isPlain value plain.1,
        Json.finiteFields_of_fieldsPlain fields plain.2]

end

theorem AnalysisResult.ofJson_toJson {r : AnalysisResult} (plain : r.IsPlain) :
    ofJson r.toJson = .ok r := by
  obtain ⟨kind, status, skipReason, findings, metadata⟩ := r
  have kindDecoded : oneOf AnalyzerKind.words (.str kind.word) = .ok kind :=
    oneOf_of_lookup (by cases kind <;> decide) (by cases kind <;> rfl)
  have statusDecoded : oneOf Status.words (.str status.word) = .ok status :=
    oneOf_of_lookup (by cases status <;> decide) (by cases status <;> rfl)
  have metadataDecoded : object (.obj metadata) = .ok metadata := rfl
  have same : Json.finiteFields metadata = metadata :=
    Json.finiteFields_of_fieldsPlain metadata plain.plain
  rw [toJson, ofJson, recordFields, Result.ok_bind, same, required_of_getField rfl kindDecoded,
    required_of_getField rfl statusDecoded,
    withDefault_of_getField rfl (optional_text_ofOption skipReason),
    withDefault_of_getField rfl (list_ofJson_toJson Finding.ofJson_toJson findings),
    withDefault_of_getField rfl metadataDecoded]
  rfl

theorem Location.isPlain_toJson (place : Location) : place.toJson.IsPlain := by
  obtain ⟨line, column⟩ := place
  cases column <;> exact ⟨⟨trivial, trivial, trivial⟩, by simp⟩

theorem Location.height_toJson (place : Location) : place.toJson.height ≤ 2 := by
  obtain ⟨line, column⟩ := place
  cases column <;> simp [toJson, Json.height, Json.fieldsHeight]

theorem Json.isPlain_ofOption (s : Option String) : (Json.ofOption s).IsPlain := by
  cases s <;> trivial

theorem Json.height_ofOption (s : Option String) : (Json.ofOption s).height = 1 := by
  cases s <;> rfl

theorem Finding.isPlain_toJson (finding : Finding) : finding.toJson.IsPlain := by
  have place : (finding.location.elim .null Location.toJson).IsPlain := by
    cases finding.location with
    | none => trivial
    | some place => exact place.isPlain_toJson
  have code := Json.isPlain_ofOption finding.code
  exact ⟨⟨trivial, trivial, place, code, trivial⟩, by simp⟩

theorem Finding.height_toJson (finding : Finding) : finding.toJson.height ≤ 3 := by
  have place : (finding.location.elim .null Location.toJson).height ≤ 2 := by
    cases finding.location with
    | none => decide
    | some place => exact place.height_toJson
  simp only [toJson, Json.height, Json.fieldsHeight, Json.height_ofOption]
  omega

namespace AnalysisResult

theorem isPlain_toJson {r : AnalysisResult} (plain : r.IsPlain) : r.toJson.IsPlain := by
  have reason := Json.isPlain_ofOption r.skipReason
  have findings : Json.AllPlain (r.findings.map Finding.toJson) :=
    Json.allPlain_map_iff.mpr fun finding _ => finding.isPlain_toJson
  rw [toJson, Json.finiteFields_of_fieldsPlain _ plain.plain]
  exact ⟨⟨trivial, trivial, reason, findings, ⟨plain.plain, plain.keys⟩, trivial⟩,
    by simp⟩

/-- The fields of a result lie around its metadata and its findings. -/
theorem height_toJson {r : AnalysisResult} (plain : r.IsPlain) :
    Json.fieldsHeight r.metadata + 2 ≤ r.toJson.height ∧
      r.toJson.height ≤ max 5 (Json.fieldsHeight r.metadata + 2) := by
  have findings : Json.itemsHeight (r.findings.map Finding.toJson) ≤ 3 :=
    Json.itemsHeight_map_le_iff.mpr fun finding _ => finding.height_toJson
  rw [toJson, Json.finiteFields_of_fieldsPlain _ plain.plain]
  simp only [Json.height, Json.fieldsHeight, Json.height_ofOption]
  omega

/-- A result is written unless its metadata is too high or a text in it is broken. -/
theorem compactJson_eq_ok_iff {r : AnalysisResult} {text : String} :
    r.compactJson = .ok text ↔ Json.fieldsHeight r.metadata ≤ Json.heightLimit ∧
      r.toJson.brokenText? = none ∧ text = Json.render .compact r.toJson := by
  simp only [compactJson, Result.check_bind_eq_ok, Result.mapError_eq_ok_iff,
    Json.checkHeights_eq_ok_iff, Json.checkText_eq_ok_iff, Result.pure_eq_ok, Except.ok.injEq,
    eq_comm (a := text)]

theorem exists_compactJson_iff {r : AnalysisResult} :
    (∃ text, r.compactJson = .ok text) ↔
      Json.fieldsHeight r.metadata ≤ Json.heightLimit ∧ r.toJson.brokenText? = none := by
  simp only [compactJson_eq_ok_iff, exists_and_left, exists_eq, and_true]

theorem exists_compactJson {r : AnalysisResult}
    (low : Json.fieldsHeight r.metadata ≤ Json.heightLimit)
    (whole : r.toJson.brokenText? = none) : ∃ text, r.compactJson = .ok text :=
  exists_compactJson_iff.mpr ⟨low, whole⟩

end AnalysisResult

namespace ResultCache

/-- The octets of a file for a result are the text that the strict reader is given. -/
theorem readResult_of_compactJson {r : AnalysisResult} (plain : r.IsPlain) {text : String}
    (written : r.compactJson = .ok text) :
    readResult (Text.Utf8.encodeString text) =
      .ok ((Json.Reader.read .strict (Json.write .compact 0 r.toJson)).toOption.bind fun value =>
        (AnalysisResult.ofJson value).toOption) := by
  have text_eq := (AnalysisResult.compactJson_eq_ok_iff.mp written).2.2
  have unchanged := Text.readNewlines_eq_self
    (Json.return_notMem_write .compact _ (AnalysisResult.isPlain_toJson plain) 0)
  rw [readResult, Text.Utf8.encodeString, text_eq, Json.render, String.toList_ofList,
    Text.Utf8.decode?_encode]
  simp only [unchanged]
  cases Json.Reader.read .strict (Json.write .compact 0 r.toJson) <;> rfl

/-- The file for a result gives the result back, or nothing if a number in it is too long. -/
theorem readResult_compactJson {r : AnalysisResult} (portable : r.IsPortable) {text : String}
    (written : r.compactJson = .ok text) :
    readResult (Text.Utf8.encodeString text) =
      .ok ((r.toJson.longNumeral? (some numeralLimit)).elim (some r) fun _ => none) := by
  have whole := (AnalysisResult.compactJson_eq_ok_iff.mp written).2.1
  have low : r.toJson.height ≤ 201 := by
    have height := (AnalysisResult.height_toJson portable.isPlain).2
    have metadata := portable.low
    omega
  have back := @Json.Reader.read_write .compact .strict _ (fun _ => whole)
    (AnalysisResult.isPlain_toJson portable.isPlain) low
  rw [readResult_of_compactJson portable.isPlain written, back, JsonDialect.strict]
  cases hl : r.toJson.longNumeral? (some numeralLimit) with
  | none =>
      exact congrArg (Except.ok ∘ Except.toOption) (AnalysisResult.ofJson_toJson portable.isPlain)
  | some digits => rfl

/-- The file for a result holds no other result. -/
theorem eq_of_readResult_compactJson {r found : AnalysisResult} (portable : r.IsPortable)
    {text : String} (rendered : r.compactJson = .ok text)
    (read : readResult (Text.Utf8.encodeString text) = .ok (some found)) : found = r := by
  rw [readResult_compactJson portable rendered] at read
  cases long : r.toJson.longNumeral? (some numeralLimit) with
  | none =>
      rw [long] at read
      exact (Option.some.inj (Except.ok.inj read)).symm
  | some digits =>
      rw [long] at read
      cases read

/-- The file for a result with plain metadata gives the result back if the reader takes it, and
nothing otherwise. -/
theorem readResult_eq_of_isPlain {r : AnalysisResult} (plain : r.IsPlain) {text : String}
    (written : r.compactJson = .ok text) :
    readResult (Text.Utf8.encodeString text) = .ok (if r.IsReadable then some r else none) := by
  by_cases low : Json.fieldsHeight r.metadata ≤ 199
  · rw [readResult_compactJson ⟨plain.plain, plain.keys, low⟩ written]
    cases long : r.toJson.longNumeral? (some numeralLimit) with
    | none => rw [if_pos ⟨low, long⟩]; rfl
    | some digits =>
        have refused : ¬ r.IsReadable := by
          intro readable
          rw [readable.2] at long
          cases long
        rw [if_neg refused]
        rfl
  · have high : JsonDialect.strict.depth + 1 < r.toJson.height := by
      have height := (AnalysisResult.height_toJson plain).1
      exact Nat.lt_of_lt_of_le (show 200 + 1 < Json.fieldsHeight r.metadata + 2 by omega) height
    have whole := (AnalysisResult.compactJson_eq_ok_iff.mp written).2.1
    obtain ⟨fault, refused⟩ := @Json.Reader.read_write_of_lt .compact .strict _ (fun _ => whole)
      (AnalysisResult.isPlain_toJson plain) high
    rw [readResult_of_compactJson plain written, refused, if_neg fun readable => low readable.1]
    rfl

end ResultCache

end ScriptVet
