import ScriptVet.Proofs.Files.PathText
import ScriptVet.Proofs.Text.Replace
import ScriptVet.Proofs.Tools.Answer

/-!
# Where copies of scripts lie

The path of a copy is made of the folder for temporary ones, a name that tells the kind of analyzer
and ends in the mark, and the name of the file. The marks are what two runs differ in. In a text
that tells where the copy of one run lies, the copy of another run is not found by accident: both
paths hold the same word, and that does not begin again within itself.
-/

namespace ScriptVet

/-- A mark as folders for temporary files get it: eight letters, digits and underscores. -/
structure IsMark (mark : String) : Prop where
  length : mark.toList.length = 8
  letters : ∀ c ∈ mark.toList, c ∈ "abcdefghijklmnopqrstuvwxyz0123456789_".toList

instance (mark : String) : Decidable (IsMark mark) :=
  decidable_of_iff (mark.toList.length = 8 ∧ mark.toList.all fun c =>
      "abcdefghijklmnopqrstuvwxyz0123456789_".toList.contains c)
    ⟨fun h => ⟨h.1, fun c hc => List.contains_iff_mem.mp (List.all_eq_true.mp h.2 c hc)⟩,
      fun h => ⟨h.length, List.all_eq_true.mpr fun c hc =>
        List.contains_iff_mem.mpr (h.letters c hc)⟩⟩

/-- A text that is found behind the beginning of itself holds its first characters up to the mark
also where another mark stands: it begins again only behind the mark, if what follows on the first
letter of its word does not hold that letter and is not shorter than the mark. -/
theorem infix_of_prefix_shifted {lead word tail mark mark' ending before behind : List Char}
    {letter : Char} (once : letter ∉ word) (short : mark'.length ≤ word.length + 1)
    (moved : before ≠ [])
    (found : lead ++ letter :: word ++ tail ++ mark' ++ ending <+:
      before ++ (lead ++ letter :: word ++ tail ++ mark' ++ ending) ++ behind)
    (behind' : List Char) :
    lead ++ letter :: word ++ tail ++ mark' <:+:
      before ++ (lead ++ letter :: word ++ tail ++ mark ++ ending) ++ behind' := by
  by_cases far : mark'.length ≤ before.length
  · -- The mark lies before the one that was put in, in what both texts share.
    have start : lead ++ letter :: word ++ tail ++ mark' <+:
        before ++ (lead ++ letter :: word ++ tail) ++ (mark' ++ ending ++ behind) := by
      refine ((List.prefix_append _ ending).trans found).trans ?_
      simp only [List.append_assoc]
      exact List.prefix_refl _
    have shared : lead ++ letter :: word ++ tail ++ mark' <+:
        before ++ (lead ++ letter :: word ++ tail) :=
      List.prefix_of_prefix_length_le start (List.prefix_append _ _) (by simp; omega)
    refine (shared.trans ?_).isInfix
    simp only [List.append_assoc]
    exact ⟨mark ++ (ending ++ behind'), by simp⟩
  · -- Otherwise the letter would stand in the word.
    have positive := List.length_pos_iff.mpr moved
    have inside : lead.length + before.length <
        (lead ++ letter :: word ++ tail ++ mark' ++ ending).length := by
      simp
      omega
    obtain ⟨rest, same⟩ := found
    have here := congrArg (·[lead.length + before.length]?) same
    obtain ⟨k, size⟩ := Nat.exists_eq_succ_of_ne_zero positive.ne'
    have within : k < word.length := by omega
    have left : (lead ++ letter :: word ++ tail ++ mark' ++ ending ++ rest)[
        lead.length + before.length]? = word[k]? := by
      simp only [List.append_assoc, List.cons_append]
      rw [List.getElem?_append_right (by omega), Nat.add_sub_cancel_left, size,
        List.getElem?_cons_succ, List.getElem?_append_left within]
    have right : (before ++ (lead ++ letter :: word ++ tail ++ mark' ++ ending) ++ behind)[
        lead.length + before.length]? = some letter := by
      simp only [List.append_assoc, List.cons_append]
      rw [List.getElem?_append_right (by omega), Nat.add_sub_cancel,
        List.getElem?_append_right (Nat.le_refl _), Nat.sub_self, List.getElem?_cons_zero]
    rw [left, right] at here
    exact absurd (List.mem_of_getElem? here) once

namespace ScriptCopy

variable (settings : Settings) (kind : AnalyzerKind) (language : Language) (text : String)

theorem isStepName_fileName (language : Language) :
    IsStepName ("script" ++ language.extension) := by
  cases language <;> constructor <;> decide

/-- The name of a folder begins with a word whose first letter does not come again in it. -/
theorem toList_folderName (kind : AnalyzerKind) (mark : String) :
    (folderName kind mark).toList =
      's' :: "criptgate_".toList ++ (kind.word ++ "_").toList ++ mark.toList := by
  have name : folderName kind mark = "scriptgate_" ++ (kind.word ++ "_") ++ mark := rfl
  rw [name, String.toList_append, String.toList_append]
  rfl

variable {mark mark' : String}

theorem isStepName_folderName (kind : AnalyzerKind) (isMark : IsMark mark) :
    IsStepName (folderName kind mark) := by
  have letters := toList_folderName kind mark
  have long {short : String} (same : folderName kind mark = short) : 10 < short.toList.length := by
    rw [← same, letters]
    simp
  refine ⟨?_, fun same => ?_, fun same => ?_, fun same => ?_⟩
  · rw [letters]
    simp only [List.mem_append, not_or]
    refine ⟨⟨by decide, by cases kind <;> decide⟩, fun slash => ?_⟩
    exact absurd (isMark.letters _ slash) (by decide)
  all_goals exact absurd (long same) (by decide)

/-- The text of the folder of a copy. -/
theorem toList_folder (isMark : IsMark mark) :
    (of settings mark kind language text).folder.toString.toList =
      settings.tempDir.lead.toList ++ 's' :: "criptgate_".toList ++ (kind.word ++ "_").toList ++
        mark.toList := by
  rw [of, Path.toString_child _ (isStepName_folderName kind isMark), String.toList_append,
    toList_folderName]
  simp only [List.append_assoc]

/-- The text of the path of a copy. -/
theorem toList_path (isMark : IsMark mark) :
    (of settings mark kind language text).path.toString.toList =
      (of settings mark kind language text).folder.toString.toList ++
        ("/script" ++ language.extension).toList := by
  rw [path, of, Path.toString_child _ (isStepName_fileName language),
    Path.lead_child _ (isStepName_folderName kind isMark),
    Path.toString_child _ (isStepName_folderName kind isMark)]
  simp only [String.toList_append, List.append_assoc]
  rfl

theorem slash_mem_path (isMark : IsMark mark) :
    '/' ∈ (of settings mark kind language text).path.toString.toList := by
  rw [toList_path settings kind language text isMark, String.toList_append]
  simp

theorem path_ne_nil (isMark : IsMark mark) :
    (of settings mark kind language text).path.toString.toList ≠ [] :=
  List.ne_nil_of_mem (slash_mem_path settings kind language text isMark)

theorem folder_infix_path (isMark : IsMark mark) :
    (of settings mark kind language text).folder.toString.toList <:+:
      (of settings mark kind language text).path.toString.toList := by
  rw [toList_path settings kind language text isMark]
  exact (List.prefix_append _ _).isInfix

/-- The path of a copy has no blanks at its ends, unless the folder for temporary ones begins with
one. -/
theorem isTight_path (isMark : IsMark mark)
    (visible : ∀ c ∈ settings.tempDir.toString.toList.head?, Text.isBlank c = false) :
    Text.IsTight (of settings mark kind language text).path.toString.toList := by
  rw [toList_path settings kind language text isMark]
  refine ⟨by simp, fun c first => ?_, fun c last => ?_⟩
  · rw [toList_folder settings kind language text isMark] at first
    cases lead : settings.tempDir.lead.toList with
    | nil =>
        rw [lead] at first
        rw [← Option.some.inj first]
        decide
    | cons d rest =>
        rw [lead] at first
        have begins : c ∈ settings.tempDir.lead.toList.head? := by
          rw [lead]
          exact first
        rcases settings.tempDir.head?_lead begins with begins | rfl
        · exact visible c begins
        · decide
  · rw [List.getLast?_append] at last
    cases language <;> rw [← Option.some.inj last] <;> decide

/-- The path of a second copy comes about in a text only where it is put in for the path of the
first, if the text does not tell its folder. -/
theorem unmixed_paths (isMark : IsMark mark) (isMark' : IsMark mark') :
    Text.Unmixed (of settings mark kind language text).path.toString.toList
      (of settings mark' kind language text).path.toString.toList
      (of settings mark' kind language text).folder.toString.toList where
  some := path_ne_nil settings kind language text isMark
  some' := path_ne_nil settings kind language text isMark'
  within := folder_infix_path settings kind language text isMark'
  apart before behind behind' moved found := by
    rw [toList_path settings kind language text isMark',
      toList_folder settings kind language text isMark'] at found
    rw [toList_path settings kind language text isMark,
      toList_folder settings kind language text isMark,
      toList_folder settings kind language text isMark']
    exact infix_of_prefix_shifted (by decide) (by rw [isMark'.length]; decide) moved found behind'

end ScriptCopy

end ScriptVet
