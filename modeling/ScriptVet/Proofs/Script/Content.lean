import ScriptVet.Proofs.Text.Octets
import ScriptVet.Script

/-!
# What a fingerprint is taken of

The content of a script puts zero octets between its parts and does not say how long a part is. So
it determines the language and the *pieces* of the script: what lies between zero characters,
whether they separate parts or belong to one. Scripts whose parts hold no zero characters are
determined by their contents; a zero character in the text can be taken for the border of a
dependency.
-/

namespace ScriptVet.Script

/-- The parts of the content after the word for the language. -/
def parts (script : Script) : List String :=
  script.distinguishingName :: script.sourceText :: script.dependencies

/-- What lies between the zero characters of the parts and the zeros that separate them. -/
def pieces (script : Script) : List (List Char) :=
  script.parts.flatMap fun part => part.toList.splitOn '\x00'

/-- Two scripts agree in everything that a fingerprint should cover. -/
def SameContent (a b : Script) : Prop :=
  a.language = b.language ∧ a.distinguishingName = b.distinguishingName ∧
    a.sourceText = b.sourceText ∧ a.dependencies = b.dependencies

/-- No part holds a zero character. -/
def IsFreeOfZeros (script : Script) : Prop :=
  ∀ part ∈ script.parts, '\x00' ∉ part.toList

theorem sameContent_iff {a b : Script} :
    SameContent a b ↔ a.language = b.language ∧ a.parts = b.parts := by
  simp [SameContent, parts]

/-- The content as text. -/
def contentText (script : Script) : List Char :=
  script.language.word.toList ++ script.distinguishingName.toList ++
    '\x00' :: script.sourceText.toList ++
    script.dependencies.flatMap fun d => '\x00' :: d.toList

theorem content_eq_encode (script : Script) :
    script.content = Text.Utf8.encode script.contentText := by
  have dependencies (names : List String) :
      (names.flatMap fun d => 0 :: Text.Utf8.encodeString d) =
        Text.Utf8.encode (names.flatMap fun d => '\x00' :: d.toList) := by
    induction names with
    | nil => rfl
    | cons d names ih =>
        rw [List.flatMap_cons, List.flatMap_cons, Text.Utf8.encode_append, ih,
          ← Text.Utf8.zero_cons_encode]
        rfl
  rw [content, contentText, dependencies]
  simp only [Text.Utf8.encode_append, ← Text.Utf8.zero_cons_encode, Text.Utf8.encodeString,
    List.append_assoc, List.cons_append]

/-- Zeros in front of parts and within them are alike: both split. -/
theorem splitOn_append_flatMap (a : List Char) (names : List String) :
    (a ++ names.flatMap fun d => '\x00' :: d.toList).splitOn '\x00' =
      a.splitOn '\x00' ++ names.flatMap fun d => d.toList.splitOn '\x00' := by
  induction names generalizing a with
  | nil => simp
  | cons d names ih =>
      rw [List.flatMap_cons, List.cons_append, List.splitOn_append_cons_self, ih,
        List.flatMap_cons]

/-- What is put before a text goes into its first piece, unless it separates. -/
theorem splitOn_append_of_notMem {separator : Char} {a : List Char} (h : separator ∉ a)
    (b : List Char) :
    (a ++ b).splitOn separator = (b.splitOn separator).modifyHead (a ++ ·) := by
  induction a with
  | nil => cases hb : b.splitOn separator <;> simp [hb]
  | cons c a ih =>
      obtain ⟨hc, ha⟩ : c ≠ separator ∧ separator ∉ a := by
        simpa [eq_comm] using h
      rw [List.cons_append, List.splitOn_cons_eq_if_modifyHead, if_neg (by simpa using hc), ih ha]
      cases b.splitOn separator <;> simp

/-- The pieces of the whole content are those of the script, with the word for the language in
front. -/
theorem splitOn_contentText (script : Script) :
    script.contentText.splitOn '\x00' =
      script.pieces.modifyHead (script.language.word.toList ++ ·) := by
  have word : '\x00' ∉ script.language.word.toList := by
    cases script.language <;> decide
  rw [contentText, splitOn_append_flatMap, List.append_assoc, splitOn_append_of_notMem word,
    List.splitOn_append_cons_self, pieces, parts, List.flatMap_cons, List.flatMap_cons]
  obtain ⟨piece, rest, he⟩ :=
    List.exists_cons_of_ne_nil (List.splitOn_ne_nil '\x00' script.distinguishingName.toList)
  simp [he]

theorem pieces_ne_nil (script : Script) : script.pieces ≠ [] := by
  simp [pieces, parts]

/-- Only another language has a name of its own; for the known ones the first piece is empty. -/
theorem head_pieces_of_known {script : Script} (h : script.language ≠ .other) :
    script.pieces.head? = some [] := by
  simp [pieces, parts, distinguishingName, h]

/-- No word for a known language is the word for the others with a name after it. -/
theorem word_ne_other_append {language : Language} (h : language ≠ .other) (name : List Char) :
    language.word.toList ≠ Language.other.word.toList ++ name := by
  intro he
  have first := congrArg List.head? he
  cases language with
  | other => exact h rfl
  | bash => exact absurd first (by simp [Language.word])
  | python3 => exact absurd first (by simp [Language.word])
  | powershell => exact absurd first (by simp [Language.word])

/-- The language can be read off the first piece of the content. -/
theorem language_eq_of_split_eq {a b : Script}
    (h : a.pieces.modifyHead (a.language.word.toList ++ ·) =
      b.pieces.modifyHead (b.language.word.toList ++ ·)) :
    a.language = b.language := by
  obtain ⟨first, others, ha⟩ := List.exists_cons_of_ne_nil a.pieces_ne_nil
  obtain ⟨first', others', hb⟩ := List.exists_cons_of_ne_nil b.pieces_ne_nil
  rw [ha, hb, List.modifyHead_cons, List.modifyHead_cons] at h
  have heads : a.language.word.toList ++ first = b.language.word.toList ++ first' :=
    (List.cons.inj h).1
  have emptyFirst (hk : a.language ≠ .other) : first = [] := by
    simpa [ha] using head_pieces_of_known hk
  have emptyFirst' (hk : b.language ≠ .other) : first' = [] := by
    simpa [hb] using head_pieces_of_known hk
  by_cases hka : a.language = .other
  · by_cases hkb : b.language = .other
    · rw [hka, hkb]
    · rw [hka, emptyFirst' hkb, List.append_nil] at heads
      exact absurd heads.symm (word_ne_other_append hkb first)
  · rw [emptyFirst hka, List.append_nil] at heads
    by_cases hkb : b.language = .other
    · rw [hkb] at heads
      exact absurd heads (word_ne_other_append hka first')
    · rw [emptyFirst' hkb, List.append_nil] at heads
      exact Language.word_injective (String.toList_injective heads)

/-- What two scripts must share to have the same content. -/
theorem content_eq_content_iff {a b : Script} :
    a.content = b.content ↔ a.language = b.language ∧ a.pieces = b.pieces := by
  rw [content_eq_encode, content_eq_encode]
  constructor
  · intro h
    have texts : a.contentText = b.contentText := Text.Utf8.encode_injective h
    have pieces := congrArg (List.splitOn '\x00') texts
    rw [splitOn_contentText, splitOn_contentText] at pieces
    have language := language_eq_of_split_eq pieces
    refine ⟨language, ?_⟩
    rw [language] at pieces
    obtain ⟨first, others, ha⟩ := List.exists_cons_of_ne_nil a.pieces_ne_nil
    obtain ⟨first', others', hb⟩ := List.exists_cons_of_ne_nil b.pieces_ne_nil
    rw [ha, hb] at pieces ⊢
    simpa using pieces
  · rintro ⟨language, pieces⟩
    have split : a.contentText.splitOn '\x00' = b.contentText.splitOn '\x00' := by
      rw [splitOn_contentText, splitOn_contentText, language, pieces]
    have joined (s : Script) :
        ['\x00'].intercalate (s.contentText.splitOn '\x00') = s.contentText :=
      List.intercalate_splitOn _
    rw [← joined a, split, joined b]

/-- Without zero characters the pieces are the parts. -/
theorem pieces_of_isFreeOfZeros {script : Script} (h : script.IsFreeOfZeros) :
    script.pieces = script.parts.map String.toList := by
  have single : ∀ part ∈ script.parts, part.toList.splitOn '\x00' = [part.toList] :=
    fun part hp => List.splitOn_eq_singleton (h part hp)
  rw [pieces, List.flatMap_def, List.map_congr_left single, ← List.flatMap_def,
    ← List.map_eq_flatMap]

/-- Scripts without zero characters are determined by their contents. -/
theorem content_eq_iff_of_isFreeOfZeros {a b : Script} (ha : a.IsFreeOfZeros)
    (hb : b.IsFreeOfZeros) : a.content = b.content ↔ SameContent a b := by
  rw [content_eq_content_iff, sameContent_iff, pieces_of_isFreeOfZeros ha,
    pieces_of_isFreeOfZeros hb, List.map_inj_right fun _ _ h => String.toList_injective h]

/-- When contents tell two scripts apart: unless the scripts share the language and all pieces, but
not the parts that the pieces come from. The name of a script and whether it is a program never
matter. -/
theorem content_identifies_iff (a b : Script) :
    ((a.content = b.content ↔ SameContent a b) ↔
        (a.language = b.language → a.pieces = b.pieces → a.parts = b.parts)) ∧
      (a.IsFreeOfZeros → b.IsFreeOfZeros → (a.content = b.content ↔ SameContent a b)) ∧
      ∀ name program, { a with name := name, executable := program }.content = a.content := by
  refine ⟨?_, content_eq_iff_of_isFreeOfZeros, fun _ _ => rfl⟩
  rw [content_eq_content_iff, sameContent_iff]
  constructor
  · intro h language pieces
    exact (h.mp ⟨language, pieces⟩).2
  · intro h
    constructor
    · rintro ⟨language, pieces⟩
      exact ⟨language, h language pieces⟩
    · rintro ⟨language, parts⟩
      exact ⟨language, by rw [Script.pieces, parts, Script.pieces]⟩

/-- A dependency is told from the end of the text, as neither holds a zero character. -/
theorem content_identifies_dependency :
    (Script.mk "a" .bash none "ok" ["rm"] true).content ≠
      (Script.mk "a" .bash none "okrm" [] true).content := by
  have told := (content_identifies_iff ⟨"a", .bash, none, "ok", ["rm"], true⟩
    ⟨"a", .bash, none, "okrm", [], true⟩).2.1
    (by simp [IsFreeOfZeros, parts, distinguishingName])
    (by simp [IsFreeOfZeros, parts, distinguishingName])
  intro h
  exact absurd (told.mp h) (by simp [SameContent])

/-- A zero character in the text passes for the border of a dependency. -/
theorem content_confuses_dependency :
    ∃ a b : Script, a.content = b.content ∧ ¬ SameContent a b := by
  refine ⟨⟨"a", .bash, none, "ok", ["rm"], true⟩, ⟨"b", .bash, none, "ok\x00rm", [], true⟩, ?_,
    by simp [SameContent]⟩
  rw [content_eq_content_iff]
  decide

end ScriptVet.Script
