import ScriptVet.Proofs.Shell.Search
import ScriptVet.Shell.Variables

/-!
# Words and names in shell text

Which words there are that some text has is a matter of their characters alone: a list of commands
decides about a text by the words in it, and every other entry of the list is never found. Names of
variables are spelled like words, without hyphens, and the longest name at the start of a text is
the one that no character of names follows.
-/

namespace ScriptVet.Shell

/-! ## Words -/

/-- A text that begins like a name and goes on with characters of a class. -/
def Spells (inClass : Char → Bool) (s : String) : Prop :=
  ∃ c rest, s.toList = c :: rest ∧ isNameStart c ∧ ∀ d ∈ rest, inClass d

/-- A text that can be a word of a script. -/
abbrev IsWord : String → Prop := Spells isCommandChar

/-- A text that can be the name of a variable. -/
abbrev IsName : String → Prop := Spells isNameChar

theorem isNameChar_of_isNameStart {c : Char} (start : isNameStart c) : isNameChar c := by
  simp only [isNameStart, isNameChar, Char.isAlphanum, Bool.or_eq_true] at start ⊢
  rcases start with letter | underscore
  · exact .inl (.inl letter)
  · exact .inr underscore

theorem isCommandChar_of_isNameStart {c : Char} (start : isNameStart c) : isCommandChar c := by
  simp [isCommandChar, isNameChar_of_isNameStart start]

/-- The longest word of a run is a beginning of it. -/
theorem longestWord_suffix (after : Option Char) (backwards : List Char) :
    (longestWord after backwards).reverse <:+ backwards := by
  induction backwards generalizing after with
  | nil => exact List.suffix_refl []
  | cons last rest ih =>
      rw [longestWord]
      split
      · simp only [List.reverse_reverse, List.suffix_refl]
      · exact (ih (some last)).trans (List.suffix_cons last rest)

/-- A word is recognised behind other characters than those of names, and as what the text begins
with. -/
theorem exists_of_word {before : Option Char} {text : List Char} {form : Nat × List Char}
    (here : word before text = some form) :
    Text.isWord? before = false ∧ form.1 = form.2.length ∧ form.2 <+: text ∧
      IsWord (String.ofList form.2) := by
  cases text with
  | nil => cases here
  | cons c rest =>
      rw [word, Option.ite_none_right_eq_some, Option.ite_none_left_eq_some] at here
      obtain ⟨begins, found, here⟩ := here
      obtain ⟨start, first⟩ := Bool.and_eq_true_iff.mp begins
      cases here
      have run : (c :: rest).takeWhile isCommandChar = c :: rest.takeWhile isCommandChar :=
        List.takeWhile_cons_of_pos (isCommandChar_of_isNameStart start)
      have front := longestWord_suffix
        ((c :: rest).drop ((c :: rest).takeWhile isCommandChar).length).head?
        ((c :: rest).takeWhile isCommandChar).reverse
      rw [List.reverse_suffix] at front
      generalize longestWord _ _ = form at found front ⊢
      refine ⟨by simpa using first, rfl, front.trans (List.takeWhile_prefix _), ?_⟩
      rw [run] at front
      rcases List.prefix_cons_iff.mp front with none | ⟨tail, same, inside⟩
      · exact absurd (List.isEmpty_iff.mpr none) found
      · rw [same]
        refine ⟨c, tail, String.toList_ofList, start, fun d hd => ?_⟩
        exact List.mem_takeWhile_imp (inside.subset hd)

theorem isWord_of_mem_words {w : String} {text : List Char} (h : w ∈ words text) : IsWord w := by
  obtain ⟨found, there, rfl⟩ := List.mem_map.mp h
  obtain ⟨passed, rest, form, -, here, rfl⟩ := exists_of_mem_findAll there
  exact (exists_of_word here).2.2.2

/-- The characters of names are ASCII. -/
theorem ascii_of_isNameChar {c : Char} (name : isNameChar c) : c.toNat < 0x80 := by
  rw [isNameChar] at name
  delta Char.isAlphanum Char.isAlpha Char.isUpper Char.isLower Char.isDigit at name
  simp only [Bool.or_eq_true, Bool.and_eq_true, decide_eq_true_eq, beq_iff_eq,
    UInt32.le_iff_toNat_le] at name
  rcases name with ((⟨-, upper⟩ | ⟨-, lower⟩) | ⟨-, digit⟩) | rfl
  · exact Nat.lt_of_le_of_lt upper (by decide)
  · exact Nat.lt_of_le_of_lt lower (by decide)
  · exact Nat.lt_of_le_of_lt digit (by decide)
  · decide

/-- The characters of names are word characters. -/
theorem isWord_of_isNameChar {c : Char} (name : isNameChar c) : Text.isWord c := by
  rw [Text.isWord_of_ascii (ascii_of_isNameChar name)]
  exact name

/-- What holds for characters of names is decided by looking at ASCII. -/
theorem forall_isNameChar {p : Char → Prop}
    (holds : ∀ n < 0x80, isNameChar (Char.ofNat n) → p (Char.ofNat n)) {c : Char}
    (name : isNameChar c) : p c := by
  have same : Char.ofNat c.toNat = c := Char.ofNat_toNat c
  rw [← same]
  exact holds c.toNat (ascii_of_isNameChar name) (by rwa [same])

/-- The characters of names are no blanks. -/
theorem isBlank_of_isNameChar {c : Char} (name : isNameChar c) : Text.isBlank c = false :=
  forall_isNameChar (p := fun c => Text.isBlank c = false) (by decide) name

/-- A word ends in a hyphen only before a letter beyond ASCII. -/
def wordEnd (last : Char) : List Char :=
  if last = '-' then ['é'] else []

theorem takeWhile_wordEnd (last : Char) : (wordEnd last).takeWhile isCommandChar = [] := by
  rw [wordEnd]
  split <;> decide

theorem isBoundary_wordEnd {last : Char} (command : isCommandChar last) :
    Text.isBoundary (some last) (wordEnd last).head? := by
  rw [wordEnd]
  split
  · next hyphen =>
    rw [hyphen]
    decide
  · next other =>
    have name : isNameChar last := by simpa [isCommandChar, other] using command
    simp [Text.isBoundary, isWord_of_isNameChar name]

/-- Every word is found in some text. -/
theorem exists_mem_words {w : String} (h : IsWord w) : ∃ text, w ∈ words text := by
  obtain ⟨c, rest, letters, start, inside⟩ := h
  have all : ∀ d ∈ w.toList, isCommandChar d := by
    rw [letters]
    exact List.forall_mem_cons.mpr ⟨isCommandChar_of_isNameStart start, inside⟩
  obtain ⟨last, ends⟩ : ∃ last, w.toList.getLast? = some last := by
    rw [letters]
    exact ⟨_, List.getLast?_eq_some_getLast (List.cons_ne_nil c rest)⟩
  obtain ⟨front, cut⟩ := List.getLast?_eq_some_iff.mp ends
  have run : (w.toList ++ wordEnd last).takeWhile isCommandChar = w.toList := by
    rw [List.takeWhile_append_of_pos all, takeWhile_wordEnd, List.append_nil]
  have boundary := isBoundary_wordEnd (all last (List.mem_of_getLast? ends))
  have longest : longestWord (wordEnd last).head? w.toList.reverse = w.toList := by
    rw [cut, List.reverse_append, List.reverse_singleton, List.singleton_append, longestWord,
      if_pos boundary]
    simp
  have here : word none (w.toList ++ wordEnd last) = some (w.toList.length, w.toList) := by
    rw [letters, List.cons_append, word, ← List.cons_append, ← letters]
    simp only [start, run, List.drop_left, longest, Text.isWord?_none]
    simp [letters]
  refine ⟨w.toList ++ wordEnd last, List.mem_map.mpr ?_⟩
  refine ⟨_, mem_findAll_of_start ?_ here, String.ofList_toList⟩
  rw [letters]
  exact List.cons_ne_nil c _

/-- A list of commands decides about texts by the words that it holds. -/
theorem commandsAmong_eq_iff {allowed allowed' : List String} :
    (∀ text, commandsAmong allowed text = commandsAmong allowed' text) ↔
      ∀ w, IsWord w → (w ∈ allowed ↔ w ∈ allowed') := by
  constructor
  · intro same w isWord
    obtain ⟨text, there⟩ := exists_mem_words isWord
    have told (allowed : List String) : w ∈ commandsAmong allowed text ↔ w ∈ allowed := by
      rw [commandsAmong, mem_sortedSet, List.mem_filter, List.contains_iff_mem]
      exact and_iff_right there
    rw [← told allowed, same text, told allowed']
  · intro same text
    have kept : (words text).filter allowed.contains = (words text).filter allowed'.contains := by
      apply List.filter_congr
      intro w there
      rw [Bool.eq_iff_iff, List.contains_iff_mem, List.contains_iff_mem]
      exact same w (isWord_of_mem_words there)
    rw [commandsAmong, kept]
    rfl

/-! ## Names -/

/-- The longest name at the start of a text is a name that no character of names follows. -/
theorem spanName?_eq_some_iff {cs name rest : List Char} :
    spanName? cs = some (name, rest) ↔
      cs = name ++ rest ∧ IsName (String.ofList name) ∧ Stops isNameChar rest := by
  constructor
  · intro h
    refine ⟨(spanName?_eq_some h).1, ?_⟩
    cases cs with
    | nil => cases h
    | cons c cs =>
        rw [spanName?, Option.ite_none_right_eq_some] at h
        obtain ⟨start, h⟩ := h
        obtain ⟨rfl, rfl⟩ := Prod.mk.inj (Option.some.inj h)
        exact ⟨⟨c, _, String.toList_ofList, start, fun d hd => List.mem_takeWhile_imp hd⟩,
          stops_dropWhile⟩
  · rintro ⟨rfl, ⟨c, tail, letters, start, inside⟩, stops⟩
    rw [String.toList_ofList] at letters
    rw [letters, List.cons_append, spanName?, if_pos start, takeWhile_run inside stops,
      dropWhile_run inside stops]

/-- The name that a text begins with is determined. -/
theorem eq_of_isName_append {name name' : String} {rest rest' : List Char} (isName : IsName name)
    (isName' : IsName name') (stops : Stops isNameChar rest) (stops' : Stops isNameChar rest')
    (same : name.toList ++ rest = name'.toList ++ rest') : name = name' := by
  have spanned {name : String} {rest : List Char} (isName : IsName name)
      (stops : Stops isNameChar rest) :
      spanName? (name.toList ++ rest) = some (name.toList, rest) :=
    spanName?_eq_some_iff.mpr ⟨rfl, by rwa [String.ofList_toList], stops⟩
  have both := spanned isName stops
  rw [same, spanned isName' stops'] at both
  exact (String.toList_inj.mp (congrArg Prod.fst (Option.some.inj both))).symm

theorem exists_cons_of_isName {name : List Char} (isName : IsName (String.ofList name)) :
    ∃ c tail, name = c :: tail ∧ isNameStart c := by
  obtain ⟨c, tail, letters, start, -⟩ := isName
  rw [String.toList_ofList] at letters
  exact ⟨c, tail, letters, start⟩

/-- A name consists of characters of names. -/
theorem notMem_of_isName {name : String} (isName : IsName name) {c : Char}
    (other : isNameChar c = false) : c ∉ name.toList := by
  obtain ⟨d, tail, letters, start, inside⟩ := isName
  have all : ∀ d ∈ name.toList, isNameChar d := by
    rw [letters]
    exact List.forall_mem_cons.mpr ⟨isNameChar_of_isNameStart start, inside⟩
  intro there
  rw [all c there] at other
  cases other

theorem isName_of_spanName? {cs name rest : List Char} (h : spanName? cs = some (name, rest)) :
    IsName (String.ofList name) :=
  (spanName?_eq_some_iff.mp h).2.1

end ScriptVet.Shell
