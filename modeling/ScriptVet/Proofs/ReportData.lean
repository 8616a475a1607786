import ScriptVet.Proofs.ResultData
import ScriptVet.Report

/-!
# Reports as data

A report is printed as JSON in plain Unicode, and the reports of a build are written to their file
as JSON in ASCII alone. Both texts are made from the same value, and if that can be printed then
both are read back as it, so whoever reads them finds the same report.
-/

namespace ScriptVet

namespace Json

mutual

/-- No numeral is too long for a reader that converts numerals of any length. -/
theorem longNumeral?_unlimited : (v : Json) → v.longNumeral? none = none
  | .null | .bool _ | .int _ | .float _ | .str _ => rfl
  | .arr items => longItem?_unlimited items
  | .obj fields => longField?_unlimited fields

theorem longItem?_unlimited : (items : List Json) → longItem? none items = none
  | [] => rfl
  | item :: items => by rw [longItem?, longNumeral?_unlimited item, longItem?_unlimited items]; rfl

theorem longField?_unlimited : (fields : List (String × Json)) → longField? none fields = none
  | [] => rfl
  | (_, value) :: fields => by
      rw [longField?, longNumeral?_unlimited value, longField?_unlimited fields]
      rfl

end

end Json

namespace Report

variable {report : Report}

theorem isPlain_toJson (plain : ∀ r ∈ report.results, r.IsPlain) : report.toJson.IsPlain := by
  have results : Json.AllPlain (report.results.map AnalysisResult.toJson) :=
    Json.allPlain_map_iff.mpr fun r hr => AnalysisResult.isPlain_toJson (plain r hr)
  exact ⟨⟨trivial, trivial, trivial, results, trivial, trivial⟩, by simp⟩

/-- The fields of a report lie around the list of its results. -/
theorem height_toJson (portable : ∀ r ∈ report.results, r.IsPortable) :
    report.toJson.height ≤ 203 := by
  have results : Json.itemsHeight (report.results.map AnalysisResult.toJson) ≤ 201 := by
    apply Json.itemsHeight_map_le_iff.mpr
    intro r hr
    have height := (AnalysisResult.height_toJson (portable r hr).isPlain).2
    have low := (portable r hr).low
    omega
  simp only [toJson, Json.height, Json.fieldsHeight]
  omega

/-- A report is printed as JSON unless the metadata of a result is too high or a text is broken. -/
theorem indentedJson_eq_ok_iff {text : String} :
    report.indentedJson = .ok text ↔
      (∀ r ∈ report.results, Json.fieldsHeight r.metadata ≤ Json.heightLimit) ∧
        report.toJson.brokenText? = none ∧ text = Json.render .indented report.toJson := by
  simp only [indentedJson, Result.check_bind_eq_ok, Result.forM_eq_ok_iff,
    Result.mapError_eq_ok_iff, Json.checkHeights_eq_ok_iff, Json.checkText_eq_ok_iff,
    Result.pure_eq_ok, Except.ok.injEq, eq_comm (a := text)]

/-- A printed report is read back as its fields, by whoever opens enough arrays and objects. -/
theorem read_printed {dialect : JsonDialect} (deep : 203 ≤ dialect.depth)
    (portable : ∀ r ∈ report.results, r.IsPortable) :
    Json.Reader.read dialect (Json.render .indented report.toJson ++ "\n").toList =
      Json.Reader.unlessLong (report.toJson.longNumeral? dialect.digitLimit) report.toJson := by
  have plain := isPlain_toJson fun r hr => (portable r hr).isPlain
  have low : report.toJson.height ≤ dialect.depth + Json.Reader.slack dialect :=
    Nat.le_add_right_of_le (Nat.le_trans (height_toJson portable) deep)
  have lineEnd : ∀ c ∈ "\n".toList, Json.Reader.isSpace c := List.forall_mem_singleton.mpr rfl
  rw [String.toList_append, Json.render, String.toList_ofList]
  exact @Json.Reader.read_write_append .indented dialect _
    (fun ascii => absurd ascii Bool.false_ne_true) plain low _ lineEnd

/-- A list of one report in ASCII alone is read back as well, if the texts of the report are
whole. -/
theorem read_listed {dialect : JsonDialect} (deep : 204 ≤ dialect.depth)
    (portable : ∀ r ∈ report.results, r.IsPortable) (whole : report.toJson.brokenText? = none) :
    Json.Reader.read dialect (Json.render .indentedAscii (.arr [report.toJson])).toList =
      Json.Reader.unlessLong (report.toJson.longNumeral? dialect.digitLimit)
        (.arr [report.toJson]) := by
  have plain := isPlain_toJson fun r hr => (portable r hr).isPlain
  have low : (Json.arr [report.toJson]).height ≤ dialect.depth + Json.Reader.slack dialect := by
    have height := height_toJson portable
    simp only [Json.height, Json.itemsHeight]
    omega
  have wholeList : (Json.arr [report.toJson]).brokenText? = none := by
    rw [Json.brokenText?, Json.brokenItem?, whole]
    rfl
  have same : (Json.arr [report.toJson]).longNumeral? dialect.digitLimit =
      report.toJson.longNumeral? dialect.digitLimit := by
    rw [Json.longNumeral?, Json.longItem?, Json.longItem?, Option.or_none]
  rw [Json.render, String.toList_ofList, ← same]
  exact @Json.Reader.read_write .indentedAscii dialect _ (fun _ => wholeList) ⟨plain, trivial⟩ low

/-- Whoever reads both texts finds the printed report as the only one in the list, and whoever
converts numerals of any length does find it. -/
theorem read_listed_eq {dialect : JsonDialect} (deep : 204 ≤ dialect.depth)
    (portable : ∀ r ∈ report.results, r.IsPortable) (whole : report.toJson.brokenText? = none) :
    let printed := (Json.render .indented report.toJson ++ "\n").toList
    let listed := (Json.render .indentedAscii (.arr [report.toJson])).toList
    (Json.Reader.read dialect listed).toOption =
        (Json.Reader.read dialect printed).toOption.map (fun v => .arr [v]) ∧
      (dialect.digitLimit = none → Json.Reader.read dialect printed = .ok report.toJson) := by
  intro printed listed
  have back := read_printed (Nat.le_of_succ_le deep) portable
  rw [read_listed deep portable whole, back]
  constructor
  · cases report.toJson.longNumeral? dialect.digitLimit <;> rfl
  · intro unlimited
    rw [unlimited, Json.longNumeral?_unlimited]
    rfl

end Report

end ScriptVet
